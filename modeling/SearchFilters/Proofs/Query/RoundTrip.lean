import SearchFilters.Proofs.Query.Row

/-!
# Proofs — Query — Round trip

What is printed reads back.

A tree is printed alike wherever it stands, but its text is read in three ways: as a clause, as a
row of clauses, or as the right side of an operator (`PrintsClause`, `PrintsRow`, `PrintsSide`).  A
group in parentheses is a clause because the text in them is a row; a row without parentheses is a
right side.  `prints` proves the three together, by induction on the tree: the left side of a group
is a clause, its right side is a right side, and so its text is a row.

`steps_chars` takes this to whole queries, and `parse_print` says that reading inverts printing.
-/

namespace SearchFilters
open Text Query

namespace Tree

theorem regroup_eq_self {t : Tree} {g : Grouping} (h : t.grouping = g) :
    (t.regroup fun _ => g) = t := by
  subst h
  cases t <;> rfl

theorem grouping_collapseRights (t : Tree) : t.collapseRights.grouping = t.grouping := by
  cases t <;> rfl

theorem unwrapBare_of_not_isBare {t : Tree} (h : t.grouping.isBare = false) :
    t.unwrapBare = t := by
  cases t with
  | single l g => exact if_neg (by simpa [grouping] using h)
  | _ => rfl

/-! ### The texts of trees -/

/-- A tree whose text reads as a clause. -/
def PrintsClause (t : Tree) : Prop := ∃ w, t.chars = .ok w ∧ Clausal w t.collapseRights

/-- A group whose clauses read as a row. -/
def PrintsRow (t : Tree) : Prop :=
  ∃ w, t.chars = .ok (t.grouping.wrap w) ∧ RowText w (t.collapseRights.regroup fun _ => {})

/-- A tree whose text reads as a right side of an operator. -/
def PrintsSide (op : Operator) (t : Tree) : Prop :=
  ∃ w, t.chars = .ok w ∧ SideText op w t.collapseRights.unwrapBare

/-- A clause alone reads as a row. -/
theorem printsRow_single {l : Tree} (h : l.PrintsClause) (g : Grouping) :
    (single l g).PrintsRow := by
  obtain ⟨w, hw, hc⟩ := h
  exact ⟨w, chars_single hw g, rowText_single hc⟩

/-- A clause, an operator and its right side read as a row. -/
theorem printsRow_binary {l r : Tree} {op : Operator} (hl : l.PrintsClause)
    (hr : r.PrintsSide op) (hknown : ∀ s, op ≠ .other s) (g : Grouping) :
    (binary l op r g).PrintsRow := by
  obtain ⟨u, hu, hc⟩ := hl
  obtain ⟨v, hv, hs⟩ := hr
  exact ⟨_, chars_binary hu hv op g, rowText_binary hc hs hknown⟩

/-- A group in parentheses reads as a clause. -/
theorem printsClause_of_row {t : Tree} (h : t.PrintsRow) (hg : t.grouping.Enclosed) :
    t.PrintsClause := by
  obtain ⟨w, hw, hrow⟩ := h
  refine ⟨_, hw, ?_⟩
  have h := clausal_group hrow hg
  rwa [regroup_regroup, regroup_eq_self (grouping_collapseRights t)] at h

theorem printsSide_of_clause {op : Operator} {t : Tree} (h : t.PrintsClause)
    (hg : t.grouping.parenthesized = true ∨ ¬t.IsGroup) (hj : Joins op t) : t.PrintsSide op := by
  obtain ⟨w, hw, hc⟩ := h
  refine ⟨w, hw, ?_⟩
  have e : t.collapseRights.unwrapBare = t.collapseRights := by
    rcases hg with hg | hg
    · exact unwrapBare_of_not_isBare (by simp [grouping_collapseRights, Grouping.isBare, hg])
    · cases t with
      | term t | range r => rfl
      | _ => exact absurd trivial hg
  rw [e]
  refine sideText_of_clausal hc fun ho u hu => hj.symbolic ho u ?_
  rwa [firstTerm?_collapseRights] at hu

/-- Reading leaves out the groups that the tree is told without. -/
theorem collapse_eq_unwrapBare {t : Tree} (h : t.grouping.Open) : t.collapse = t.unwrapBare := by
  cases t with
  | single l g =>
      obtain ⟨f, p, s⟩ := g
      obtain ⟨rfl, -, rfl⟩ := h
      cases s <;> rfl
  | _ => rfl

/-- A row without parentheses reads as a right side. -/
theorem printsSide_of_row {op : Operator} {t : Tree} (h : t.PrintsRow) (hg : t.grouping.Open)
    (hj : Joins op t) : t.PrintsSide op := by
  obtain ⟨w, hw, hrow⟩ := h
  have hp := grouping_collapseRights t
  refine ⟨_, hw, ?_⟩
  rw [← collapse_eq_unwrapBare (hp ▸ hg)]
  rcases hg.start with hs | hs
  · have hbare := hg.eq_bare hs
    rw [hbare] at hp ⊢
    rw [regroup_eq_self hp] at hrow
    have hside : SideText op w (t.collapseRights.regroup fun _ => {}).collapse :=
      sideText_of_row hrow fun ho u hu => hj.symbolic ho u (by rwa [firstTerm?_collapseRights] at hu)
    rwa [regroup_eq_self hp] at hside
  · have e : t.grouping = { start := some .not } := by
      rw [← hs, ← hg.field, ← hg.parenthesized]
    rw [e] at hp ⊢
    have hside := sideText_negated hrow (hj.negated ⟨hg.parenthesized, hs⟩)
    rwa [regroup_regroup, regroup_eq_self hp] at hside

/-- The readings of a tree's text in the places where a readable tree may stand. -/
structure Prints (t : Tree) : Prop where
  clause : t.Readable Grouping.Enclosed → t.PrintsClause
  side : ∀ op, t.Readable (fun g => g.Enclosed ∨ g.Open) → Joins op t → t.PrintsSide op
  row : ∀ outer, t.Readable outer → t.IsGroup → outer t.grouping ∧ t.PrintsRow

/-- A leaf is a clause everywhere. -/
theorem prints_of_clause {t : Tree} (hg : ¬t.IsGroup)
    (h : ∀ outer, t.Readable outer → t.PrintsClause) : t.Prints where
  clause := h _
  side := fun _ ht hj => printsSide_of_clause (h _ ht) (.inr hg) hj
  row := fun _ _ ht => absurd ht hg

/-- A group whose clauses read as a row is a clause in parentheses and a right side without. -/
theorem prints_of_row {t : Tree}
    (h : ∀ outer, t.Readable outer → outer t.grouping ∧ t.PrintsRow) : t.Prints where
  clause := fun ht => printsClause_of_row (h _ ht).2 (h _ ht).1
  side := by
    intro op ht hj
    obtain ⟨he | ho, hr⟩ := h _ ht
    · exact printsSide_of_clause (printsClause_of_row hr he) (.inl he.parenthesized) hj
    · exact printsSide_of_row hr ho hj
  row := fun outer ht _ => h outer ht

/-- **The texts of readable trees read back** wherever the trees may stand. -/
theorem prints (t : Tree) : t.Prints := by
  induction t with
  | term t =>
      refine prints_of_clause id fun outer ht => ?_
      obtain ⟨w, hw, hc⟩ := clausal_term ht
      exact ⟨w, by rw [chars, hw], hc⟩
  | range r =>
      refine prints_of_clause id fun outer hr => ?_
      exact ⟨_, by rw [chars], clausal_range hr⟩
  | single l g ih =>
      refine prints_of_row fun outer ht => ?_
      obtain ⟨h, hl⟩ := ht
      exact ⟨h, printsRow_single (ih.clause hl) g⟩
  | binary l op r g ihl ihr =>
      refine prints_of_row fun outer ht => ?_
      obtain ⟨h, hl, hj, hr⟩ := ht
      exact ⟨h, printsRow_binary (ihl.clause hl) (ihr.side op hr hj) hj.known g⟩

/-! ### Whole queries -/

/-- **A run over the text of a readable row ends with the row's tree**, its right sides collapsed.
-/
theorem steps_chars {t : Tree} (ht : t.Readable Grouping.Open) (hg : t.IsGroup) :
    ∃ w, t.chars = .ok w ∧ (∀ c ∈ w.head?, isBlank c = false) ∧
      (t.collapseRights.Tight → EndsTight w) ∧ ∃ r, Steps {} w r [] ∧ r.Complete t.collapseRights := by
  obtain ⟨ho, w, hw, hrow⟩ := (prints t).row _ ht hg
  have hp := grouping_collapseRights t
  have e := ho.wrap_eq w
  obtain ⟨links, start, p, c, hsteps, hc, hnode⟩ :=
    steps_start (r := {}) hrow ho.start rfl rfl .nil
  refine ⟨_, hw, ?_, fun ht' => ?_, _, by rw [e]; simpa using hsteps, ?_, rfl⟩
  · rw [e]
    rcases ho.start with hs | hs
    · obtain ⟨c, r, ec, hb, -⟩ := hrow.solid []
      rw [List.append_nil] at ec
      rw [Grouping.startText, hs, ec]
      rintro c ⟨⟩
      exact hb
    · rw [Grouping.startText, hs]
      rintro c ⟨⟩
      decide
  · rw [e]
    refine (hrow.tight ?_).append _
    rw [regroup_regroup]
    exact tight_of_open ht' (by rw [hp, ho.parenthesized])
  · have hself : (t.collapseRights.regroup fun _ => { start := t.grouping.start }) =
        t.collapseRights := by
      refine regroup_eq_self (hp.trans ?_)
      rw [← ho.field, ← ho.parenthesized]
    rw [Reader.finish]
    simp only [hc, hnode, regroup_regroup, hself]

theorem tight_collapseRights {t : Tree} (h : t.Tight) : t.collapseRights.Tight := by
  induction t with
  | term t | range r => exact h
  | single l g ih => exact h.imp_right ih
  | binary l op r g _ ih =>
      refine h.imp_right fun h => ?_
      have hr := ih h
      cases e : r.collapseRights with
      | single l' g' =>
          rw [e] at hr
          rw [unwrapBare]
          split
          · next hb =>
            have hp : g'.parenthesized = false := by
              simp only [Grouping.isBare, Bool.and_eq_true, Bool.not_eq_true'] at hb
              exact hb.2
            exact hr.resolve_left (ne_true_of_eq_false hp)
          · exact hr
      | _ => rw [e] at hr; exact hr

/-- A readable row that does not end in a blank of its own reads back from its text. -/
theorem parse_print_of_tight {t : Tree} (ht : t.Readable Grouping.Open) (hg : t.IsGroup)
    (hl : t.Tight) :
    ∃ text, t.print = .ok text ∧ parse text = .ok (some t.collapseRights) := by
  obtain ⟨w, hw, hhead, hend, hrun⟩ := steps_chars ht hg
  refine ⟨String.ofList w, by rw [print, hw]; rfl, ?_⟩
  rw [parse_eq_some_iff, String.toList_ofList,
    trim_eq_self hhead (hend (tight_collapseRights hl)).getLast]
  exact hrun

/-- The terms of a tree. -/
def terms : Tree → List Term
  | .term t => [t]
  | .range _ => []
  | .single l _ => l.terms
  | .binary l _ r _ => l.terms ++ r.terms

/-- A whole query that can be written without blanks in its words. -/
structure WellFormed (t : Tree) : Prop where
  group : t.IsGroup
  readable : t.Readable Grouping.Open
  unblanked : ∀ u ∈ t.terms, u.quoted = false → u.regex = false →
    ∀ c ∈ u.text.toList, isBlank c = false

/-- A text without blanks does not end in one. -/
theorem tight_of_unblanked {t : Tree} (h : ∀ u ∈ t.terms, u.quoted = false → u.regex = false →
    ∀ c ∈ u.text.toList, isBlank c = false) : t.Tight := by
  induction t with
  | term t =>
      intro hq hr _ _ c hc
      exact h t (List.mem_singleton_self t) hq hr c (List.mem_of_getLast? hc)
  | range r => trivial
  | single l g ih => exact .inr (ih h)
  | binary l op r g _ ih => exact .inr (ih fun u hu => h u (List.mem_append_right _ hu))

/-- **Reading inverts printing**: the text of a well-formed query reads as the query, its right
sides that are bare groups of one clause standing for the clause. -/
theorem parse_print {t : Tree} (ht : t.WellFormed) :
    ∃ text, t.print = .ok text ∧ parse text = .ok (some t.collapseRights) :=
  parse_print_of_tight ht.readable ht.group (tight_of_unblanked ht.unblanked)

/-- A boosted keyword under a field. -/
def sampleTerm : Term where
  field := "title"
  text := "AND"
  mark := some "+"
  boost := some (.float (.finite false 5629499534213120 (-51)))

/-- The query `NOT title:+\AND^2.5 OR NOT (a\~ n:[-1 TO *})`, its right side in a group of its
own. -/
def sample : Tree :=
  .binary (.term sampleTerm) .orNot
    (.single
      (.binary (.term { text := "a~" }) .implicit
        (.range { field := "n", low := "-1", high := "*", inclusive := .left })
        { parenthesized := true })
      {})
    { start := some .not }

theorem sample_wellFormed : sample.WellFormed := by
  have boost : Number.Rereads (.float (.finite false 5629499534213120 (-51))) := by
    have text : Binary64.text (.finite false 5629499534213120 (-51)) = "2.5".toList := by
      decide +kernel
    have value : Binary64.ofPlain? "2.5".toList = some (.finite false 5629499534213120 (-51)) := by
      decide +kernel
    have fraction : ¬Binary64.isWhole 5629499534213120 (-51) = true := by decide +kernel
    refine ⟨"2.5".toList, _, ?_, value, rfl⟩
    rw [Number.modifierText, if_neg fraction, text]
  have term : sampleTerm.Readable :=
    ⟨.inr (by decide), .inr (.inl rfl), .inr (.inr ⟨rfl, rfl,
      ⟨by decide, List.all_iff_forall_prop.mp (by decide)⟩, rfl, nofun,
      fun x hx => Option.some.inj hx ▸ boost⟩)⟩
  have word : Term.Readable { text := "a~" } :=
    ⟨.inl rfl, .inl rfl, .inr (.inr ⟨rfl, rfl,
      ⟨by decide, List.all_iff_forall_prop.mp (by decide)⟩, rfl, nofun, nofun⟩)⟩
  have range : Range.Readable { field := "n", low := "-1", high := "*", inclusive := .left } :=
    ⟨.inr (by decide), ⟨by decide, List.all_iff_forall_prop.mp (by decide)⟩,
      ⟨by decide, List.all_iff_forall_prop.mp (by decide)⟩, true, false, rfl⟩
  have enclosed : Grouping.Enclosed { parenthesized := true } := ⟨rfl, .inl rfl, nofun⟩
  have bare : Grouping.Open {} := ⟨rfl, .inl rfl, rfl⟩
  refine ⟨trivial, ⟨⟨rfl, .inr rfl, rfl⟩, term, ⟨nofun, fun h => ?_, fun h => ?_⟩, .inr bare,
    enclosed, word, ⟨nofun, fun h => ?_, fun _ u hu => ?_⟩, range⟩, fun u hu _ _ => ?_⟩
  · cases h.2
  · cases h
  · cases h.2
  · cases hu
  · simp only [sample, terms, List.mem_append, List.mem_singleton, List.not_mem_nil,
      or_false] at hu
    rcases hu with rfl | rfl <;> exact List.all_iff_forall_prop.mp (by decide)

/-- A query with a sign, a boost, an escaped keyword and a range in a group of its own. -/
theorem parse_print_sample :
    sample.WellFormed ∧ ∃ text, sample.print = .ok text ∧
      parse text = .ok (some sample.collapseRights) :=
  ⟨sample_wellFormed, parse_print sample_wellFormed⟩

end Tree
end SearchFilters
