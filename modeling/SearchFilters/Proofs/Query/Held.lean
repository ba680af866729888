import SearchFilters.Proofs.Number.ReadBack
import SearchFilters.Proofs.Query.Formed

/-!
# Proofs — Query — Held

What a reader holds stays formed.

The invariant has a part for each part of the reader: the clause at hand (`Position.Formed`), the
clauses before it in its node, and those of the suspended groups (`Reader.Formed`).  A clause at
hand may still become a word that looks like an operator; `Position.Symbolic` says so, and a lexeme
never makes a position more symbolic than it was (`Position.formed_of_moves`), so that an operator
in front of the clause that admitted the position admits all that becomes of it.

The cases are the effects of lexemes: one that begins a clause or goes on with it
(`formed_of_begun`), an operator (`formed_join`), and the end of a group, whose node becomes a
clause (`formed_closeGroup`).
-/

namespace SearchFilters.Query
open Text

variable {strict : Prop}

/-! ### Parts of clauses -/

/-- A bound of a range that is read. -/
def IsBound (s : String) : Prop := s.toList ≠ [] ∧ ∀ c ∈ s.toList, isBoundChar c = true

theorem ne_implicitField {f : String} (h : isFieldName f.toList = true) : f ≠ implicitField := by
  rintro rfl
  revert h
  decide

namespace Position

/-- What is read of a clause. -/
def Formed (strict : Prop) : Position → Prop
  | .node | .clause => True
  | .named f => isFieldName f.toList = true
  | .marked m => IsMark (some m)
  | .markedNamed m f | .term m f => IsMark (some m) ∧ Leafy f
  | .modifiers t => t.Formed strict ∧ t.regex = false
  | .done c => c.Formed strict Grouping.Enclosed ∧ c.NotSymbolic ∧ c.Tight
  | .low f _ => Leafy f
  | .between f _ a | .high f _ a => Leafy f ∧ IsBound a
  | .rangeEnd f _ a b => Leafy f ∧ IsBound a ∧ IsBound b

/-- A position whose clause may be written like an operator. -/
def Symbolic : Position → Prop
  | .node | .clause => True
  | .modifiers t => t.Symbolic
  | _ => False

theorem formed_of_awaits? {p : Position} {f : String} {m : Option String} (hp : p.Formed strict)
    (h : p.awaits? = some (f, m)) :
    Leafy f ∧ IsMark m ∧ (f = implicitField → m = none → p.Symbolic) := by
  cases p with
  | node | clause => cases h; exact ⟨.inl rfl, .inl rfl, fun _ _ => trivial⟩
  | named f => cases h; exact ⟨.inr hp, .inl rfl, fun e => absurd e (ne_implicitField hp)⟩
  | marked m => cases h; exact ⟨.inl rfl, hp, nofun⟩
  | markedNamed m f | term m f => cases h; exact ⟨hp.2, hp.1, nofun⟩
  | _ => cases h

/-- A clause that is complete is formed, and looks like an operator only if its position does. -/
theorem formed_of_clause? {p : Position} {c : Tree} (hp : p.Formed strict)
    (h : p.clause? = some c) :
    c.Formed strict Grouping.Enclosed ∧ (¬c.NotSymbolic → p.Symbolic) := by
  cases p with
  | modifiers t =>
      cases h
      refine ⟨hp.1, fun hn => Classical.byContradiction fun hs => hn ?_⟩
      rintro u ⟨⟩
      exact hs
  | done c => cases h; exact ⟨hp.1, fun hn => absurd hp.2.1 hn⟩
  | _ => cases h

/-- A term is read so that it is formed. -/
theorem formed_ofTerm {p : Position} {k : Kind} {l : List Char} {f : String} {m : Option String}
    (hf : Leafy f) (hm : IsMark m) (hl : Lexical k l) (hc : strict → cost k l = 0)
    (h : ofTerm f m k l = some p) :
    p.Formed strict ∧ (p.Symbolic → f = implicitField ∧ m = none ∧ k = .word) := by
  unfold ofTerm at h
  split at h
  · cases h
    obtain ⟨hne, hw⟩ := hl.of_word
    refine ⟨⟨Term.formed_of_body hf hm rfl rfl rfl (.inr (.inr ⟨rfl, rfl, rfl, ?_, fun hs => ?_⟩)),
      rfl⟩, fun h => ⟨h.1, h.2.1, rfl⟩⟩
    · simpa using unescape_ne_nil hw hne
    · have he : escapes l = 0 := by simpa [cost, operator?] using hc hs
      simpa using isLegible_unescape hw he
  · cases h
    refine ⟨⟨Term.formed_of_body hf hm rfl rfl rfl (.inr (.inl ⟨rfl, rfl, rfl⟩)), rfl⟩, fun h => ?_⟩
    cases h.2.2.1
  · cases h
    obtain ⟨u, rfl, hne, hu⟩ := hl.of_regex
    rw [inside_between]
    refine ⟨⟨Term.formed_of_body hf hm rfl rfl rfl
      (.inl ⟨rfl, rfl, by simpa, by simpa, rfl, rfl, rfl⟩), ?_, ?_⟩, ?_⟩
    · rintro u ⟨⟩ h
      cases h.2.2.2.1
    · rintro u ⟨⟩
    · rintro ⟨-, -, -, ⟨⟩, -⟩
  · cases h

theorem written_modifierValue {l : List Char} {y : Binary64} (h : modifierValue l = some y) :
    (Number.float y).Written := ⟨_, _, h, rfl⟩

theorem written_defaultSimilarity : (Number.float defaultSimilarity).Written :=
  ⟨"0.5".toList, defaultSimilarity, by decide +kernel, rfl⟩

/-- The whole part of a number after a phrase reads back as it is written. -/
theorem proximityRereads_truncate {s : List Char} {n : Bool} {m : Nat} {e : Int}
    (h : Binary64.ofPlain? s = some (.finite n m e)) :
    ProximityRereads (Binary64.truncate n m e) := by
  obtain ⟨hc, rfl⟩ := Binary64.canonical_of_ofPlain? h
  obtain ⟨i, hi, hs, m', e', hr, ht⟩ := Number.proximity_reads hc
  exact ⟨_, false, m', e', by rw [hi]; exact Numeral.write_of_short hs, hr, by rw [hi, ht]⟩

/-- So does the proximity of a phrase with a mark and no number. -/
theorem proximityRereads_zero : ProximityRereads 0 :=
  ⟨['0'], false, 0, Binary64.minExponent, rfl, by decide +kernel, by decide +kernel⟩

/-- **A lexeme goes on with a clause** so that it stays formed; it never makes it look more like an
operator. -/
theorem formed_of_moves {p p' : Position} {k : Kind} {l : List Char} (h : Moves k l p p')
    (hp : p.Formed strict) (hl : Lexical k l) (hc : strict → cost k l = 0) :
    p'.Formed strict ∧ (p'.Symbolic → p.Symbolic) := by
  cases h with
  | term ha h =>
      obtain ⟨hf, hm, hs⟩ := formed_of_awaits? hp ha
      obtain ⟨hp', hs'⟩ := formed_ofTerm hf hm hl hc h
      exact ⟨hp', fun h => hs (hs' h).1 (hs' h).2.1⟩
  | name ha => exact ⟨by simpa [Formed] using hl.of_fieldName, nofun⟩
  | markedName => exact ⟨⟨hp, .inr (by simpa using hl.of_fieldName)⟩, nofun⟩
  | mark ha => exact ⟨by rcases hl.of_mark with rfl | rfl <;> simp [Formed, IsMark], nofun⟩
  | namedMark ha =>
      obtain ⟨hf, -, -⟩ := formed_of_awaits? hp ha
      exact ⟨⟨by rcases hl.of_mark with rfl | rfl <;> simp [IsMark], hf⟩, nofun⟩
  | low ha => exact ⟨(formed_of_awaits? hp ha).1, nofun⟩
  | between => exact ⟨⟨hp, by simpa [IsBound] using hl.of_bound⟩, nofun⟩
  | high => exact ⟨hp, nofun⟩
  | rangeEnd => exact ⟨⟨hp.1, hp.2, by simpa [IsBound] using hl.of_bound⟩, nofun⟩
  | range =>
      refine ⟨⟨⟨hp.1, hp.2.1, hp.2.2, _, _, rfl⟩, ?_, trivial⟩, nofun⟩
      rintro u ⟨⟩
  | boost =>
      obtain ⟨ht, hr⟩ := hp
      refine ⟨⟨⟨ht.field, ht.mark, fun x hx => ?_, ht.similarity, ht.proximity, ?_⟩, hr⟩, id⟩
      · obtain ⟨y, hy, rfl⟩ := Option.map_eq_some_iff.mp hx
        exact written_modifierValue hy
      · refine ht.body.imp_left fun h => ?_
        rw [h.regex] at hr
        cases hr
  | proximity hq hi =>
      obtain ⟨ht, hr⟩ := hp
      refine ⟨⟨⟨ht.field, ht.mark, ht.boost, ht.similarity, ?_, ?_⟩, hr⟩, id⟩
      · rintro i ⟨⟩
        rcases hi with ⟨-, rfl⟩ | ⟨n, m, e, hv, rfl⟩
        · exact proximityRereads_zero
        · exact proximityRereads_truncate hv
      · exact .inr (.inl ⟨hr, hq, ht.of_quoted hr hq⟩)
  | similarity hq =>
      obtain ⟨ht, hr⟩ := hp
      refine ⟨⟨⟨ht.field, ht.mark, ht.boost, ?_, ht.proximity, ?_⟩, hr⟩, id⟩
      · rintro x ⟨⟩
        cases hv : modifierValue l with
        | none => exact written_defaultSimilarity
        | some y => exact written_modifierValue hv
      · exact .inr (.inr ⟨hr, hq, ht.of_word hr hq⟩)

end Position

/-! ### Readers -/

/-- A suspended group whose clauses are joined as they may be. -/
structure Frame.Formed (strict : Prop) (f : Frame) : Prop where
  links : Linked strict f.links f.start False
  start : f.start = none ∨ f.start = some .not
  field : ∀ n ∈ f.field, isFieldName n.toList = true

/-- A reader all of whose clauses are joined as they may be. -/
structure Reader.Formed (strict : Prop) (r : Reader) : Prop where
  frames : ∀ f ∈ r.frames, f.Formed strict
  links : Linked strict r.links r.start r.position.Symbolic
  start : r.start = none ∨ r.start = some .not
  position : r.position.Formed strict

variable {r r' : Reader} {k : Kind} {l : List Char}

/-- **A lexeme begins a clause or goes on with it** so that the reader stays formed, if the operator
before the clause admits what the lexeme makes of it. -/
theorem formed_of_begun (h : r.Begun k l r') (hf : ∀ f ∈ r.frames, f.Formed strict)
    (hn : Linked strict r.links r.start False)
    (hm : ∀ p, Position.Moves k l r.position p → Linked strict r.links r.start p.Symbolic)
    (hs : r.start = none ∨ r.start = some .not) (hp : r.position.Formed strict)
    (hl : Lexical k l) (hc : strict → cost k l = 0) : r'.Formed strict := by
  have opens {f : Option String} (h : ∀ n ∈ f, isFieldName n.toList = true) :
      (r.openGroup f).Formed strict := by
    refine ⟨fun g hg => ?_, trivial, .inl rfl, trivial⟩
    rcases List.mem_cons.mp hg with rfl | hg
    · exact ⟨hn, hs, h⟩
    · exact hf g hg
  cases h with
  | move h => exact ⟨hf, hm _ h, hs, (Position.formed_of_moves h hp hl hc).1⟩
  | opens _ _ => exact opens nofun
  | opensNamed _ hr =>
      refine opens ?_
      rintro n ⟨⟩
      rwa [hr] at hp

theorem formed_of_goesOn (h : r.Begun k l r') (hr : r.Formed strict) (hl : Lexical k l)
    (hc : strict → cost k l = 0) : r'.Formed strict :=
  formed_of_begun h hr.frames (hr.links.mono False.elim)
    (fun _ hm => hr.links.mono (Position.formed_of_moves hm hr.position hl hc).2)
    hr.start hr.position hl hc

/-- The clauses before an operator and the operator. -/
theorem linked_join (hr : r.Formed strict) {c : Tree} (h : r.position.clause? = some c)
    {op : Operator} {symbolic : Prop} (hj : Joint strict op none symbolic) :
    Linked strict (r.join c op).links (r.join c op).start symbolic := by
  obtain ⟨hc, hs⟩ := Position.formed_of_clause? hr.position h
  exact ⟨hj, hc, hr.start, hr.links.mono hs⟩

theorem known_of_operator? {op : Operator} (h : operator? k = some op) :
    op ≠ .implicit ∧ ∀ t, op ≠ .other t := by
  cases k <;> cases h <;> exact ⟨nofun, nofun⟩

/-- A lexeme that is an operator leaves the clauses joined as they may be. -/
theorem formed_join (hr : r.Formed strict) {c : Tree} (h : r.position.clause? = some c)
    {op : Operator} (ho : operator? k = some op) :
    (r.join c op).Formed strict := by
  obtain ⟨hi, hk⟩ := known_of_operator? ho
  exact ⟨hr.frames, linked_join hr h ⟨hk, nofun, fun _ h => absurd h hi⟩, .inl rfl, trivial⟩

/-- A parenthesis that is closed is a clause. -/
theorem formed_closeGroup (hr : r.Formed strict) {c : Tree} (h : r.position.clause? = some c)
    (hg : r.closeGroup c = some r') : r'.Formed strict := by
  obtain ⟨hc, hs⟩ := Position.formed_of_clause? hr.position h
  obtain ⟨f, fs, hf, rfl⟩ := Reader.closeGroup_eq_some hg
  obtain ⟨hfl, hfs, hff⟩ := hr.frames f (by rw [hf]; exact List.mem_cons_self ..)
  have hnode := formed_node hr.start hc (hr.links.mono hs)
  have hp : ((node r.links r.start c).regroup fun g =>
      { g with field := f.field, parenthesized := true }).grouping.parenthesized = true := by
    rw [Tree.grouping_regroup (node_grouping r.links r.start c).1]
  exact ⟨fun g hg => hr.frames g (by rw [hf]; exact List.mem_cons_of_mem _ hg), hfl, hfs,
    hnode.regroup fun g hg => ⟨rfl, hg.start, hff⟩, Tree.notSymbolic_of_parenthesized hp,
    Tree.tight_of_parenthesized hp⟩

end SearchFilters.Query
