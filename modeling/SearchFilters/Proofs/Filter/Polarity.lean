import SearchFilters.Proofs.Filter.Walking
import SearchFilters.Proofs.Query.Faithful

/-!
# Proofs — Filter — Polarity

What becomes of the negations of a query when it is split.

Splitting looks at the operators between clauses and at what opens the query.  Each clause goes to
the side that the operator in front of it says (`split_partition`).  A query says more: every group
may be opened by a `NOT` of its own.  For a query that was read and has filters, little of this is
left: it is a row of clauses, and at most one `NOT` stands between an operator and its clause
(`Walks.row`).  So the sides agree with counting the `NOT`s in front of each clause exactly if there
is no such `NOT` (`excluded_iff_negated`); where there is one, it is not seen.

`not_sorts_negatedSide` is a query with such a `NOT`.
-/

namespace SearchFilters
open Text Query

variable {q : Request} {depth : Nat} {t : Tree} {fs : List Filter}

/-! ### Every tree -/

theorem Entry.Mark.length {P : Filter → Tree → Prop} {es : List (Entry P)}
    {excluded : Clause → Bool} {cs : List Clause} (h : Entry.Mark es excluded cs) :
    es.length = cs.length := by
  simpa using congrArg List.length h

/-- Every entry is on one of the two sides. -/
theorem Entry.length_filters {P : Filter → Tree → Prop} (es : List (Entry P)) :
    (filters true es).length + (filters false es).length = es.length := by
  induction es with
  | nil => rfl
  | cons e es ih =>
      rw [filters_cons, filters_cons]
      cases e.asserted <;> simp [Request.keep] <;> omega

/-- A selection that shares clauses out has as many filters as there are clauses. -/
theorem Selection.Sorts.length {registry : Registry} {cs : List Clause} {excluded : Clause → Bool}
    {s : Selection} (h : s.Sorts registry cs excluded) :
    s.asserted.length + s.excluded.length = cs.length := by
  obtain ⟨es, hm, ha, he⟩ := h
  rw [ha, he, Entry.length_filters, hm.length]

/-- **The two polarities share the clauses of a query out.**  Whatever a tree looks like, its
clauses have one filter each, in their order and each on one side.  Only the first clause has no
operator in front of it, and is excluded if `NOT` opens the query; the others are excluded if the
operator is the negated one. -/
theorem split_partition {registry : Registry} {j : Joiner} {d : Int} {s : Selection}
    (ht : t.IsGroup) (hf : t.grouping.field = none) (h : split (some t) registry j d = .ok s) :
    t.clauses.map Clause.before = none :: t.operators.map some ∧
      s.Sorts registry t.clauses (·.isExcluded j t.grouping.start) ∧
      s.asserted.length + s.excluded.length = t.clauses.length := by
  have hs := sorts_of_split ht hf h
  exact ⟨before_clausesFrom t none [], hs, hs.length⟩

/-- The filter of a word in the implicit field. -/
def Filter.ofWord (text : String) : Filter := ⟨Registry.implicit.fields[0], .string text, rfl⟩

/-- The tree of `NOT (a NOT b) (c NOT d)`, both sides without parentheses. -/
def Tree.nestedSides : Tree :=
  .binary (.binary (.term { text := "a" }) .not (.term { text := "b" }) {}) .implicit
    (.binary (.term { text := "c" }) .not (.term { text := "d" }) {}) { start := some .not }

/-- The right side of the query, which is a group, loses the first of its clauses to the asserted
side. -/
theorem split_nestedSides : split (some Tree.nestedSides) Registry.implicit .implicit 2 =
    .ok ⟨[.ofWord "c"], [.ofWord "a", .ofWord "b", .ofWord "d"]⟩ := rfl

theorem split_partition_sample :
    Tree.nestedSides.IsGroup ∧ Tree.nestedSides.grouping.field = none ∧
      split (some Tree.nestedSides) Registry.implicit .implicit 2 =
        .ok ⟨[.ofWord "c"], [.ofWord "a", .ofWord "b", .ofWord "d"]⟩ ∧
      Tree.nestedSides.clauses.map Clause.before = [none, some .not, some .implicit, some .not] ∧
      Selection.Sorts Registry.implicit Tree.nestedSides.clauses
        (·.isExcluded .implicit (some .not))
        ⟨[.ofWord "c"], [.ofWord "a", .ofWord "b", .ofWord "d"]⟩ := by
  obtain ⟨hb, hs, -⟩ := split_partition (t := Tree.nestedSides) trivial rfl split_nestedSides
  exact ⟨trivial, rfl, split_nestedSides, hb, hs⟩

/-! ### Queries that are read -/

/-- A tree that is read as a clause and stands for a filter. -/
structure Tree.IsClause (t : Tree) : Prop where
  alone : t.StandsAlone
  formed : t.Formed False Grouping.Enclosed

/-- A clause that is read, at most a `NOT` opening a group before it. -/
structure Clause.IsRead (c : Clause) : Prop where
  clause : c.tree.IsClause
  opens : c.opens = [] ∨ c.opens = [.not]

/-- What parentheses enclose has a filter only as a clause. -/
theorem Walks.isClause (h : Walks q depth t fs) (ht : t.Formed False Grouping.Enclosed) :
    t.IsClause := by
  refine ⟨?_, ht⟩
  cases h with
  | alone h => exact h
  | single _ hp | binary _ hp => exact absurd ht.1.parenthesized (by simp [hp])

/-- A right side that has filters is a clause or a row without parentheses. -/
theorem Walks.side (h : Walks q depth t fs)
    (ht : t.Formed False fun g => g.Enclosed ∨ g.Open) :
    t.IsClause ∨ t.IsGroup ∧ t.Formed False Grouping.Open := by
  cases t with
  | term u | range r => exact .inl (h.isClause ht)
  | single l g | binary l op r g =>
      rcases ht.1 with hg | hg
      · exact .inl (h.isClause ⟨hg, ht.2⟩)
      · exact .inr ⟨trivial, hg, ht.2⟩

theorem opens_of_negatable {g : Grouping} (h : g.Negatable) :
    g.start.toList = [] ∨ g.start.toList = [.not] := by
  rcases h with h | h <;> simp [h]

/-- A part with filters lies within the depth. -/
theorem Walks.depth_le (h : Walks q depth t fs) : (depth : Int) ≤ q.maxDepth := by
  cases h with
  | alone _ hd | single _ _ hd | binary _ _ hd => exact hd

/-- **A query that is read and has filters is a row of clauses**: the first one behind what opens
the query, each of the others behind an operator and at most a `NOT` more, and no more of them than
the depth allows. -/
theorem Walks.row (h : Walks q depth t fs) (ht : t.Formed False Grouping.Open) (hg : t.IsGroup)
    (before : Option Operator) (opens : List Operator) :
    ∃ first cs, t.clausesFrom before opens =
        ⟨first, before, opens ++ t.grouping.start.toList⟩ :: cs ∧
      first.IsClause ∧ (∀ c ∈ cs, c.IsRead) ∧ (depth + max 1 cs.length : Int) ≤ q.maxDepth := by
  induction h generalizing before opens with
  | @alone depth t f h =>
      cases t with
      | term u | range r => exact absurd hg id
      | single l g | binary l op r g =>
          have hf : g.field.isSome := h
          simp [ht.1.field] at hf
  | @single depth l g fs hf hp hd hl ih =>
      have hc := hl.isClause ht.2
      refine ⟨l, [], ?_, hc, by simp, ?_⟩
      · rw [clausesFrom_single hf, clausesFrom_of_standsAlone hc.alone]
        rfl
      · simpa using hl.depth_le
  | @binary depth l r op g fs fs' drop hf hp hd hl hr hj ihl ihr =>
      obtain ⟨ho, hlf, -, hrf⟩ := ht
      have hc := hl.isClause hlf
      have split : (Tree.binary l op r g).clausesFrom before opens =
          ⟨l, before, opens ++ g.start.toList⟩ :: r.clausesFrom (some op) [] := by
        rw [clausesFrom_binary hf, clausesFrom_of_standsAlone hc.alone]
        rfl
      refine ⟨l, r.clausesFrom (some op) [], split, hc, ?_⟩
      rcases hr.side hrf with hrc | ⟨hrg, hro⟩
      · rw [clausesFrom_of_standsAlone hrc.alone]
        refine ⟨?_, by simpa using hr.depth_le⟩
        intro c h
        rw [List.mem_singleton.mp h]
        exact ⟨hrc, .inl rfl⟩
      · obtain ⟨first, cs, e, hfirst, hcs, hdepth⟩ := ihr hro hrg (some op) []
        rw [e]
        refine ⟨?_, ?_⟩
        · intro c h
          rcases List.mem_cons.mp h with rfl | h
          · exact ⟨hfirst, opens_of_negatable (hro.outer hrg).start⟩
          · exact hcs c h
        · rw [List.length_cons]
          omega

/-- **A query that is read and splits is a row of clauses**, joined by the operators that filters
are joined with and no longer than the depth allows. -/
theorem row_of_split {text : String} {registry : Registry} {j : Joiner} {d : Int} {s : Selection}
    (hp : parse text = .ok (some t)) (h : split (some t) registry j d = .ok s) :
    t.grouping.Open ∧ t.IsGroup ∧
      ∃ first cs, t.clauses = ⟨first, none, t.grouping.start.toList⟩ :: cs ∧ first.IsClause ∧
        (∀ c ∈ cs, c.IsRead ∧ (c.before = some j.asserting ∨ c.before = some j.excluding)) ∧
        (max 1 cs.length : Int) ≤ d := by
  obtain ⟨ht, hg, -⟩ := formed_of_parse False hp False.elim
  have ho := ht.outer hg
  obtain ⟨fs, hw, -⟩ := (walk_whole_iff hg ho.field).mp (split_eq_ok_iff.mp h true)
  obtain ⟨first, cs, e, hfirst, hcs, hdepth⟩ := hw.row ht hg none []
  refine ⟨ho, hg, first, cs, e, hfirst, fun c hc => ⟨hcs c hc, ?_⟩, ?_⟩
  · have hb := before_clausesFrom t none []
    rw [e, List.map_cons] at hb
    obtain ⟨op, hop, hc⟩ := List.mem_map.mp ((List.cons.inj hb).2 ▸ List.mem_map_of_mem hc)
    rw [← hc]
    exact (joins_of_split hg ho.field h op hop).imp (congrArg some) (congrArg some)
  · simpa using hdepth

/-! ### Negations -/

/-- Whether an operator has a `NOT` in it. -/
def Operator.negates : Operator → Bool
  | .not | .andNot | .orNot => true
  | _                       => false

/-- How many `NOT`s stand in front of a clause: in the operator there, and before the groups that
the clause begins. -/
def Clause.nots (c : Clause) : Nat := c.before.toList.countP Operator.negates + c.opens.count .not

/-- Whether a clause is negated: an even number of `NOT`s asserts it. -/
def Clause.isNegated (c : Clause) : Bool := decide (Odd c.nots)

/-- The first clause of a query is excluded exactly if it is negated: nothing but the `NOT` that
opens the query stands in front of it. -/
theorem isExcluded_first {c : Clause} {start : Option Operator} (h : c.before = none)
    (ho : c.opens = start.toList) (hs : start = none ∨ start = some .not) (j : Joiner) :
    c.isExcluded j start = c.isNegated := by
  rw [Clause.isExcluded, Clause.isNegated, Clause.nots, h, ho, Joiner.excludes]
  rcases hs with rfl | rfl <;> decide

/-- Behind an operator that joins filters a clause is excluded if it is negated, unless a `NOT` opens
a group before it. -/
theorem isExcluded_eq_isNegated_iff {c : Clause} {j : Joiner} {start : Option Operator}
    (h : c.before = some j.asserting ∨ c.before = some j.excluding)
    (ho : c.opens = [] ∨ c.opens = [.not]) :
    c.isExcluded j start = c.isNegated ↔ c.opens = [] := by
  rw [Clause.isExcluded, Clause.isNegated, Clause.nots]
  rcases h with h | h <;> rcases ho with ho | ho <;> rw [h, ho, Joiner.excludes] <;>
    cases j <;> decide

/-- **A query splits by its negations exactly when no `NOT` opens a group behind an operator.**
Splitting a query that is read shares its clauses out by the operators in front of them and the
`NOT` that opens the query.  An odd number of `NOT`s in front of a clause says the same, but for the
clauses with a `NOT` of their own behind the operator. -/
theorem excluded_iff_negated {text : String} {registry : Registry} {j : Joiner} {d : Int}
    {s : Selection} (hp : parse text = .ok (some t)) (h : split (some t) registry j d = .ok s) :
    s.Sorts registry t.clauses (·.isExcluded j t.grouping.start) ∧
      ((∀ c ∈ t.clauses, c.isExcluded j t.grouping.start = c.isNegated) ↔
        ∀ c ∈ t.clauses.tail, c.opens = []) := by
  obtain ⟨ho, hg, first, cs, e, -, hcs, -⟩ := row_of_split hp h
  refine ⟨sorts_of_split hg ho.field h, ?_⟩
  rw [e, List.tail_cons, List.forall_mem_cons]
  rw [and_iff_right (isExcluded_first rfl rfl ho.start j)]
  exact forall₂_congr fun c hc => isExcluded_eq_isNegated_iff (hcs c hc).2 (hcs c hc).1.opens

/-- The query `NOT a AND NOT b`. -/
def Tree.twiceNegated : Tree :=
  .binary (.term { text := "a" }) .andNot (.term { text := "b" }) { start := some .not }

theorem parse_twiceNegated : parse "NOT a AND NOT b" = .ok (some Tree.twiceNegated) :=
  parse_of_run (by decide +kernel)

theorem split_twiceNegated : split (some Tree.twiceNegated) Registry.implicit .and 1 =
    .ok ⟨[], [.ofWord "a", .ofWord "b"]⟩ := rfl

theorem excluded_iff_negated_sample :
    parse "NOT a AND NOT b" = .ok (some Tree.twiceNegated) ∧
      Selection.Sorts Registry.implicit Tree.twiceNegated.clauses (·.isExcluded .and (some .not))
        ⟨[], [.ofWord "a", .ofWord "b"]⟩ ∧
      ∀ c ∈ Tree.twiceNegated.clauses, c.isExcluded .and (some .not) = c.isNegated := by
  obtain ⟨hs, hn⟩ := excluded_iff_negated parse_twiceNegated split_twiceNegated
  refine ⟨parse_twiceNegated, hs, hn.mpr ?_⟩
  intro c hc
  rw [List.mem_singleton.mp hc]

/-- **A query whose negation is lost**: of `a && NOT b` both clauses are asserted. -/
theorem not_sorts_negatedSide :
    parse "a && NOT b" = .ok (some Tree.negatedSide) ∧
      split (some Tree.negatedSide) Registry.implicit .and 2 =
        .ok ⟨[.ofWord "a", .ofWord "b"], []⟩ ∧
      ¬Selection.Sorts Registry.implicit Tree.negatedSide.clauses Clause.isNegated
        ⟨[.ofWord "a", .ofWord "b"], []⟩ := by
  refine ⟨parse_negatedSide, rfl, ?_⟩
  rintro ⟨es, hm, -, he⟩
  have marks : es.map Entry.asserted = [true, false] := by
    have h := congrArg (List.map Prod.snd) hm
    rw [List.map_map, List.map_map] at h
    exact h.trans (by decide)
  obtain ⟨e, hes, hb⟩ : ∃ e ∈ es, e.asserted = false :=
    List.mem_map.mp (marks ▸ List.mem_cons_of_mem _ (List.mem_singleton_self _))
  have kept : e.filter ∈ Entry.filters false es :=
    List.mem_map_of_mem (List.mem_filter.mpr ⟨hes, by simp [hb]⟩)
  rw [← he] at kept
  cases kept

end SearchFilters
