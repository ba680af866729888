import SearchFilters.Proofs.Query.Resume
import SearchFilters.Proofs.Query.Row
import SearchFilters.Proofs.Query.Weight

/-!
# Proofs — Query — Joining

Two queries with an operator between them are one query: the run over the second one goes on behind
the clauses of the first.

The first text is read as before, since what follows it begins with a blank (`Steps.resumes`).  It
leaves the reader with some clauses; the second text has to be read behind them as it is read by a
fresh reader.  `Reader.behind` puts clauses in front of those that a reader has read of the
outermost node, and every lexeme commutes with it (`step_behind`), for none looks at the clauses
there.  The first lexeme of the second text needs care where no operator is written: the reader
still stands behind a clause, and would take a `NOT` or an operator for what joins the two.  The
second query is opened by no `NOT`, so that it begins with a clause (`exists_begin`), and the run
goes through (`steps_of_after`).

* `start_of_negated`: a query that begins with `NOT` is opened by it.
* `Continued`: a tree with an operator and another tree behind its last clause.
* `parse_joined`: the tree of the joined text is that of the first text, continued by the second.
-/

namespace SearchFilters.Query
open Text

variable {r r' : Reader} {s s' : List Char} {k : Kind} {l : List Char} {ls : List Link}

/-! ### Behind other clauses -/

/-- The groups around a clause and the clauses of its node, with clauses put in front of those of
the outermost node. -/
def behindLinks (ls : List Link) : List Frame → List Link → List Frame × List Link
  | [], links      => ([], links ++ ls)
  | f :: fs, links =>
    let outer := behindLinks ls fs f.links
    ({ f with links := outer.2 } :: outer.1, links)

/-- The reader with clauses in front of those of the outermost node. -/
def Reader.behind (ls : List Link) (r : Reader) : Reader :=
  { r with frames := (behindLinks ls r.frames r.links).1,
           links := (behindLinks ls r.frames r.links).2 }

/-- An operator goes behind the clause at hand, wherever the outermost node begins. -/
theorem behind_join (ls : List Link) (r : Reader) (c : Tree) (op : Operator) :
    (r.behind ls).join c op = (r.join c op).behind ls := by
  obtain ⟨frames, links, start, position, overflow⟩ := r
  cases frames <;> rfl

theorem behind_openGroup (ls : List Link) (r : Reader) (field : Option String) :
    (r.behind ls).openGroup field = (r.openGroup field).behind ls := rfl

/-- A group is closed behind other clauses as in front of them: what is closed is never the
outermost node. -/
theorem behind_closeGroup (ls : List Link) (r : Reader) (c : Tree) :
    (r.behind ls).closeGroup c = (r.closeGroup c).map (·.behind ls) := by
  obtain ⟨frames, links, start, position, overflow⟩ := r
  cases frames <;> rfl

theorem behind_position (ls : List Link) (r : Reader) (o : Option Position) :
    (o.map fun p => { r.behind ls with position := p }) =
      (o.map fun p => { r with position := p }).map (·.behind ls) := by
  cases o <;> rfl

theorem behind_beginNamed (ls : List Link) (r : Reader) (field : Option String) (k : Kind)
    (l : List Char) :
    (r.behind ls).beginNamed field k l = (r.beginNamed field k l).map (·.behind ls) := by
  unfold Reader.beginNamed
  split
  · rfl
  · rw [behind_openGroup, Option.map_some]
  · exact behind_position ls r _

/-- A clause begins behind other clauses as in front of them. -/
theorem behind_begin (ls : List Link) (r : Reader) (k : Kind) (l : List Char) :
    (r.behind ls).begin k l = (r.begin k l).map (·.behind ls) := by
  unfold Reader.begin
  split
  · rfl
  · rfl
  · exact behind_beginNamed ls r none k l

theorem behind_continueAfter (ls : List Link) (r : Reader) (c : Tree) (k : Kind) (l : List Char) :
    (r.behind ls).continueAfter c k l = (r.continueAfter c k l).map (·.behind ls) := by
  unfold Reader.continueAfter
  split
  · rw [behind_join, Option.map_some]
  · split
    · exact behind_closeGroup ls r c
    · rw [behind_join]
      exact behind_begin ls _ k l

theorem behind_fuzzy (ls : List Link) (r : Reader) (t : Term) (value : Option Binary64) :
    (r.behind ls).fuzzy t value = (r.fuzzy t value).behind ls := by
  unfold Reader.fuzzy
  split
  · split <;> rfl
  · rfl

/-- **A lexeme does behind other clauses what it does in front of them.** -/
theorem step_behind (ls : List Link) (r : Reader) (k : Kind) (l : List Char) :
    (r.behind ls).step k l = (r.step k l).map (·.behind ls) := by
  have position : (r.behind ls).position = r.position := rfl
  unfold Reader.step
  rw [position]
  cases r.position with
  | node =>
      simp only
      split
      · rfl
      · exact behind_begin ls r k l
  | clause => exact behind_begin ls r k l
  | named field =>
      simp only
      split
      · rfl
      · exact behind_beginNamed ls r _ k l
  | marked mark | markedNamed mark field =>
      simp only
      split
      · rfl
      · exact behind_position ls r _
  | term mark field => exact behind_position ls r _
  | modifiers t =>
      simp only
      split
      · rfl
      · rw [behind_fuzzy, Option.map_some]
      · exact behind_continueAfter ls r _ k l
  | done c => exact behind_continueAfter ls r c k l
  | low | between | high | rangeEnd =>
      simp only
      split <;> rfl

/-- **A run does behind other clauses what it does in front of them.** -/
theorem Steps.behind (ls : List Link) (h : Steps r s r' s') :
    Steps (r.behind ls) s (r'.behind ls) s' := by
  induction h with
  | refl => exact .refl _ _
  | more h _ ih =>
      refine .more ?_ ih
      cases h with
      | skip hc => exact .skip hc
      | take hc hl hr => exact .take hc hl (by rw [step_behind, hr, Option.map_some])

/-! ### What opens a query -/

/-- The operator that opens the outermost node, given what opens the node at hand, its clauses and
the groups around it. -/
def opening : List Frame → List Link → Option Operator → Option Operator
  | [], links, start   => links.getLast?.elim start Link.start
  | f :: fs, _, _      => opening fs f.links f.start

/-- The operator that opens the outermost node. -/
def Reader.opening (r : Reader) : Option Operator := Query.opening r.frames r.links r.start

/-- An operator behind a clause does not change what opens the query. -/
theorem opening_join (r : Reader) (c : Tree) (op : Operator) :
    (r.join c op).opening = r.opening := by
  obtain ⟨frames, links, start, position, overflow⟩ := r
  cases frames with
  | nil => cases links <;> rfl
  | cons f fs => rfl

/-- Nor does the end of a group, whose opening operator goes to the group. -/
theorem opening_closeGroup {c : Tree} (h : r.closeGroup c = some r') : r'.opening = r.opening := by
  obtain ⟨f, fs, hf, rfl⟩ := Reader.closeGroup_eq_some h
  rw [Reader.opening, Reader.opening, hf]
  rfl

theorem opening_of_begun (h : r.Begun k l r') : r'.opening = r.opening := by
  cases h with
  | move | opens | opensNamed => rfl

/-- No lexeme takes the `NOT` that opens a query back. -/
theorem opening_of_step (h : r.step k l = some r') (hr : r.opening = some .not) :
    r'.opening = some .not := by
  cases Reader.does_of_step h with
  | negate =>
      obtain ⟨frames, links, start, position, overflow⟩ := r
      cases frames with
      | nil =>
          cases links with
          | nil => rfl
          | cons j js => exact hr
      | cons f fs => exact hr
  | goesOn hb => rwa [opening_of_begun hb]
  | overflows => exact hr
  | joins => rwa [opening_join]
  | follows _ _ hb => rwa [opening_of_begun hb, opening_join]
  | closes _ _ hg => rwa [opening_closeGroup hg]

/-- A node is opened by what stands in front of its first clause. -/
theorem start_node (links : List Link) (start : Option Operator) (c : Tree) :
    (node links start c).grouping.start = links.getLast?.elim start Link.start := by
  rcases List.eq_nil_or_concat links with rfl | ⟨links, j, rfl⟩
  · rfl
  · rw [List.concat_eq_append, node_concat, List.getLast?_concat]
    rfl

/-- What opens a query opens its outermost node. -/
theorem start_of_finish {t : Tree} (h : r.finish = some t) : t.grouping.start = r.opening := by
  obtain ⟨c, hf, -, rfl⟩ := Reader.finish_eq_some h
  rw [start_node, Reader.opening, hf]
  rfl

/-- **A query that begins with `NOT` is opened by it.** -/
theorem start_of_negated {t : Tree} {p : List Char × List Char}
    (hs : splitKeyword "NOT".toList s = some p) (h : Steps {} s r []) (ht : r.Complete t) :
    t.grouping.start = some .not := by
  -- the run to `t` goes through the reader behind `NOT`, since the first lexeme leaves no choice
  have hl : firstLexeme? Position.node.kinds s = some (.not, p.1, p.2) :=
    firstLexeme?_cons_of_some (k := .not) hs
  have first : Step {} s { start := some .not, position := .clause } p.2 := step_of_lexeme hl rfl
  obtain ⟨r', h', ht'⟩ := complete_of_steps (.one first) ⟨r, h, ht⟩
  rw [start_of_finish ht'.1]
  refine h'.invariant (P := fun r _ => r.opening = some .not) ?_ rfl
  intro r₁ s₁ r₂ s₂ hstep h₁
  cases hstep with
  | skip => exact h₁
  | take _ _ hr => exact opening_of_step hr h₁

/-! ### Joined trees -/

/-- The tree `t'` is the tree `t` with an operator and the node `right` behind its last clause. -/
inductive Continued (op : Operator) (right : Tree) : Tree → Tree → Prop where
  | last (c : Tree) (start : Option Operator) :
      Continued op right (.single c { start }) (prepend right ⟨c, op, start⟩)
  | more {t t' : Tree} (l : Link) (h : Continued op right t t') :
      Continued op right (prepend t l) (prepend t' l)

theorem continued_foldl {op : Operator} {right t t' : Tree} (links : List Link)
    (h : Continued op right t t') :
    Continued op right (links.foldl prepend t) (links.foldl prepend t') := by
  induction links generalizing t t' with
  | nil => exact h
  | cons l links ih => exact ih (.more l h)

/-- A reader behind clauses has the tree of its own with the clauses in front. -/
theorem behind_complete {t : Tree} (ls : List Link) (h : r.Complete t) :
    (r.behind ls).Complete (ls.foldl prepend t) := by
  obtain ⟨c, hf, hc, rfl⟩ := Reader.finish_eq_some h.1
  refine ⟨?_, h.2⟩
  have frames : (r.behind ls).frames = [] := by rw [Reader.behind, hf]; rfl
  have links : (r.behind ls).links = r.links ++ ls := by rw [Reader.behind, hf]; rfl
  rw [Reader.finish, frames, links]
  simp only [show (r.behind ls).position = r.position from rfl, hc, node_eq, List.foldl_append]
  rfl

/-! ### Joined texts -/

/-- A text that `&&`, `||` or one of the words `AND` and `OR` begins, the word ending there. -/
def BeginsOperator (s : List Char) : Prop :=
  "&&".toList <+: s ∨ "||".toList <+: s ∨
    ∃ w ∈ ["AND".toList, "OR".toList], w <+: s ∧ endsWord (s.drop w.length) = true

instance : DecidablePred BeginsOperator := fun _ => inferInstanceAs (Decidable (_ ∨ _))

/-- A text that neither an operator nor `NOT` begins is read as a clause. -/
theorem noKeyword_of_not_beginsOperator (h : ¬BeginsOperator s)
    (hn : splitKeyword "NOT".toList s = none) : NoKeyword s := by
  intro w hw
  cases hs : splitKeyword w s with
  | none => rfl
  | some p =>
      obtain ⟨-, e, hend⟩ := splitKeyword_eq_some hs
      have hne : w ≠ "NOT".toList := by
        rintro rfl
        rw [hs] at hn
        cases hn
      simp only [keywords, List.mem_cons, hne, List.not_mem_nil, or_false] at hw
      have hw : w ∈ ["AND".toList, "OR".toList] := by
        simpa only [List.mem_cons, List.not_mem_nil, or_false] using hw
      refine absurd (.inr (.inr ⟨w, hw, ⟨p.2, e.symm⟩, ?_⟩)) h
      rwa [e, List.drop_left]

theorem noSymbol_of_not_beginsOperator (h : ¬BeginsOperator s) : NoSymbol s :=
  ⟨Bool.eq_false_iff.mpr fun hp => h (.inl (List.isPrefixOf_iff_prefix.mp hp)),
    Bool.eq_false_iff.mpr fun hp => h (.inr (.inl (List.isPrefixOf_iff_prefix.mp hp)))⟩

theorem Solid.ne_nil (h : Solid s) : s ≠ [] := by
  obtain ⟨c, r, rfl, -⟩ := h
  exact List.cons_ne_nil _ _

/-- A text that no blank begins is read from its first lexeme on. -/
theorem exists_take {c : Char} (hc : isBlank c = false) (h : Steps r (c :: s) r' []) :
    ∃ k l rest r₁, firstLexeme? r.position.kinds (c :: s) = some (k, l, rest) ∧
      r.step k l = some r₁ ∧ Steps r₁ rest r' [] := by
  cases h with
  | more h ht =>
      cases h with
      | skip hl =>
          rw [isBlank_of_isLayout hl] at hc
          cases hc
      | take _ hl hr => exact ⟨_, _, _, _, hl, hr, ht⟩

/-- A query begins with neither a blank nor a colon. -/
theorem solid_of_steps {t : Tree} (hs : ∀ c ∈ s.head?, isBlank c = false) (h : Steps {} s r [])
    (ht : r.Complete t) : Solid s := by
  cases s with
  | nil =>
      cases h with
      | refl => cases ht.1
      | more h => cases h
  | cons c s =>
      refine ⟨c, s, rfl, hs c rfl, ?_⟩
      rintro rfl
      obtain ⟨k, l, rest, -, hl, -⟩ := exists_take (hs _ rfl) h
      obtain ⟨hk, hsplit⟩ := mem_of_firstLexeme? hl
      have colon : ∀ k ∈ Position.node.kinds, k.starts ':' = false := by decide
      have := Kind.starts_of_split hsplit
      rw [colon k hk] at this
      cases this

/-- What joins two queries and the second one may stand behind a blank. -/
theorem resumes_separator {op : Operator} (hop : op = .implicit ∨ op = .and ∨ op = .or)
    (hs : Solid s) (hn : splitKeyword "NOT".toList s = none) :
    ∃ u, Resumes u ∧ op.separator ++ s = ' ' :: u := by
  rcases hop with rfl | rfl | rfl
  · exact ⟨s, ⟨hs, hn⟩, rfl⟩
  · exact ⟨"AND ".toList ++ s, ⟨⟨'A', _, rfl, by decide, by decide⟩,
      Kind.split_eq_none (k := .not) rfl _⟩, rfl⟩
  · exact ⟨"OR ".toList ++ s, ⟨⟨'O', _, rfl, by decide, by decide⟩,
      Kind.split_eq_none (k := .not) rfl _⟩, rfl⟩

/-- A query that `NOT` does not open begins with a clause. -/
theorem exists_begin (hs : Solid s) (hn : splitKeyword "NOT".toList s = none)
    (h : Steps {} s r []) : ∃ k l rest r₁, firstLexeme? clauseKinds s = some (k, l, rest) ∧
      Reader.begin {} k l = some r₁ ∧ Steps r₁ rest r [] := by
  obtain ⟨c, s, rfl, hc, -⟩ := hs
  obtain ⟨k, l, rest, r₁, hl, hr, ht⟩ := exists_take hc h
  have clause : firstLexeme? Position.node.kinds (c :: s) = firstLexeme? clauseKinds (c :: s) :=
    firstLexeme?_cons_of_none (k := .not) hn
  have hl := clause.symm.trans hl
  exact ⟨k, l, rest, r₁, hl, (step_of_node rfl (mem_of_firstLexeme? hl).1 l).symm.trans hr, ht⟩

/-- A query behind an operator is read behind the clauses in front of it. -/
theorem steps_of_after {op : Operator} (h : After op r (Reader.behind ls {})) (hs : Solid s)
    (hn : splitKeyword "NOT".toList s = none) (ho : op = .implicit → ¬BeginsOperator s)
    (hrun : Steps {} s r' []) : Steps r s (r'.behind ls) [] := by
  generalize hb : Reader.behind ls {} = b at h
  cases h with
  | explicit =>
      subst hb
      exact hrun.behind ls
  | implicit hc =>
      -- `r` still stands behind its clause: the first lexeme both joins it and begins the next one
      have begins : Begins r (r.join _ .implicit) s :=
        begins_join hc (noKeyword_of_not_beginsOperator (ho rfl) hn)
          (noSymbol_of_not_beginsOperator (ho rfl))
      rw [← hb] at begins
      obtain ⟨k, l, rest, r₁, hl, hr, ht⟩ := exists_begin hs hn hrun
      refine .more (begins hl ?_) (ht.behind ls)
      rw [behind_begin, hr, Option.map_some]

/-- **Queries that are joined are read one behind the other.** -/
theorem parse_joined {q₁ q₂ : String} {t₁ t₂ : Tree} {op : Operator}
    (hop : op = .implicit ∨ op = .and ∨ op = .or) (hq₁ : trim q₁.toList = q₁.toList)
    (hq₂ : trim q₂.toList = q₂.toList) (hp₁ : parse q₁ = .ok (some t₁))
    (hp₂ : parse q₂ = .ok (some t₂)) (hstart : t₂.grouping.start = none)
    (ho : op = .implicit → ¬BeginsOperator q₂.toList) :
    ∃ t, parse (q₁ ++ String.ofList op.separator ++ q₂) = .ok (some t) ∧ Continued op t₂ t₁ t := by
  obtain ⟨r₁, run₁, done₁⟩ := parse_eq_some_iff.mp hp₁
  obtain ⟨r₂, run₂, done₂⟩ := parse_eq_some_iff.mp hp₂
  rw [hq₁] at run₁
  rw [hq₂] at run₂
  have solid₁ := solid_of_steps (hq₁ ▸ head?_trim _) run₁ done₁
  have solid₂ := solid_of_steps (hq₂ ▸ head?_trim _) run₂ done₂
  have positive : splitKeyword "NOT".toList q₂.toList = none := by
    cases h : splitKeyword "NOT".toList q₂.toList with
    | none => rfl
    | some p => rw [start_of_negated h run₂ done₂] at hstart; cases hstart
  obtain ⟨c, hf, hc, rfl⟩ := Reader.finish_eq_some done₁.1
  have hknown (t : String) : op ≠ .other t := by rcases hop with rfl | rfl | rfl <;> exact nofun
  obtain ⟨r, hsep, hafter⟩ := steps_separator hc hknown solid₂ fun _ => positive
  have join : r₁.join c op = Reader.behind (⟨c, op, r₁.start⟩ :: r₁.links) {} := by
    rw [Reader.join, hf, done₁.2]
    rfl
  rw [join] at hafter
  obtain ⟨u, hu, e⟩ := resumes_separator hop solid₂ positive
  have front := run₁.resumes hu
  rw [← e] at front
  have text : (q₁ ++ String.ofList op.separator ++ q₂).toList =
      q₁.toList ++ (op.separator ++ q₂.toList) := by
    simp only [String.toList_append, String.toList_ofList, List.append_assoc]
  have run := front.trans (hsep.trans (steps_of_after hafter solid₂ positive ho run₂))
  have trimmed := trim_between hq₁ hq₂ solid₁.ne_nil solid₂.ne_nil op.separator
  rw [← text] at run trimmed
  refine ⟨_, parse_of_steps trimmed run (behind_complete _ done₂), ?_⟩
  exact continued_foldl r₁.links (.last c r₁.start)

end SearchFilters.Query
