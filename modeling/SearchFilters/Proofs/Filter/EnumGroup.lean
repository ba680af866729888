import SearchFilters.Proofs.Filter.Modifiers
import SearchFilters.Proofs.Filter.Writable

/-!
# Proofs — Filter — EnumGroup

What the values of an enum group say about the group.

The values are gathered along the right sides of the group, and at each of them the left side and
the operator are looked at, and nothing else.  So the group has values exactly if its clauses are
plain terms and its operators are `OR` (`Tree.IsOrRow`, `enumTerms_eq_ok_iff`, by induction on the
tree); what surrounds the groups on the right is not seen.  A row without such marks is a plain one
(`Tree.IsPlainOrRow`), and the two come to the same where no row is marked.

* `enum_group_values`: this, and that every group among the clauses of a query that splits is such a
  row, whose filter has all its values.
* `not_enumTerms_iff_isPlainOrRow`: a group that `NOT` opens is asserted.
-/

namespace SearchFilters
open Text Query

variable {t : Tree} {items : List String} {registry : Registry} {s : Selection} {x : Filter}

/-! ### Rows -/

namespace Tree

/-- The clauses of a row: the left sides of a group and of the groups on its right, and the leaf
that ends the row. -/
def rowClauses : Tree → List Tree
  | .single l _     => [l]
  | .binary l _ r _ => l :: r.rowClauses
  | t               => [t]

/-- The operators between the clauses of a row. -/
def rowOperators : Tree → List Operator
  | .binary _ op r _ => op :: r.rowOperators
  | _                => []

/-- What surrounds a group and the groups on its right, from the outside in. -/
def rowGroupings : Tree → List Grouping
  | .single _ g     => [g]
  | .binary _ _ r g => g :: r.rowGroupings
  | _               => []

/-- A term without field and modifiers that has the given text. -/
def IsPlainTerm (t : Tree) (text : String) : Prop :=
  ∃ u, t = .term u ∧ u.field = implicitField ∧ ¬u.Modified ∧ u.text = text

/-- A row of plain terms joined by `OR`, whatever surrounds the groups of the row. -/
structure IsOrRow (t : Tree) (items : List String) : Prop where
  clauses : List.Forall₂ IsPlainTerm t.rowClauses items
  operators : ∀ op ∈ t.rowOperators, op = .or

/-- A row in which no `NOT` opens a group and no group but the outermost has a field. -/
structure IsUnmarked (t : Tree) : Prop where
  start : ∀ g ∈ t.rowGroupings, g.start ≠ some .not
  field : ∀ g ∈ t.rowGroupings.tail, g.field = none

/-- **A plain `OR` row**: plain terms joined by `OR`, and no marks. -/
structure IsPlainOrRow (t : Tree) (items : List String) : Prop where
  row : t.IsOrRow items
  unmarked : t.IsUnmarked

end Tree

theorem plainTerm_eq_ok_iff {text : String} : plainTerm t = .ok text ↔ t.IsPlainTerm text := by
  cases t with
  | term u =>
      simp only [plainTerm, Tree.IsPlainTerm, Tree.term.injEq, exists_eq_left']
      by_cases hf : u.field = implicitField
      · cases hm : u.modifier? with
        | none => simp [hf, modifier?_eq_none_iff.mp hm]
        | some m =>
            have : u.Modified := not_not.mp fun h => by simp [modifier?_eq_none_iff.mpr h] at hm
            simp [hf, this]
      · simp [hf]
  | range r | single l g | binary l op r g => simp [plainTerm, Tree.IsPlainTerm]

/-- A row of a single clause has one value. -/
theorem plainTerm_singleton_iff :
    (do pure [← plainTerm t]) = .ok items ↔ List.Forall₂ Tree.IsPlainTerm [t] items := by
  rw [map_singleton, map_eq_ok_iff, List.forall₂_cons_left_iff]
  constructor
  · rintro ⟨text, h, rfl⟩
    exact ⟨text, [], plainTerm_eq_ok_iff.mp h, .nil, rfl⟩
  · rintro ⟨text, _, h, ⟨⟩, rfl⟩
    exact ⟨text, plainTerm_eq_ok_iff.mpr h, rfl⟩

/-- **A group has values exactly if it is an `OR` row**, and they are the texts of its terms. -/
theorem enumTerms_eq_ok_iff : enumTerms t = .ok items ↔ t.IsOrRow items := by
  induction t generalizing items with
  | term u | range r | single l g =>
      exact plainTerm_singleton_iff.trans ⟨fun h => ⟨h, nofun⟩, Tree.IsOrRow.clauses⟩
  | binary l op r g ihl ihr =>
      rw [enumTerms, bind_eq_ok_iff]
      constructor
      · rintro ⟨first, hl, h⟩
        split at h
        · cases h
        · next hop =>
          obtain ⟨rest, hr, h⟩ := bind_eq_ok_iff.mp h
          cases h
          obtain ⟨hc, ho⟩ := ihr.mp hr
          exact ⟨.cons (plainTerm_eq_ok_iff.mp hl) hc,
            List.forall_mem_cons.mpr ⟨not_not.mp hop, ho⟩⟩
      · rintro ⟨hc, ho⟩
        obtain ⟨first, rest, hl, hr, rfl⟩ := List.forall₂_cons_left_iff.mp hc
        obtain ⟨hop, ho⟩ := List.forall_mem_cons.mp ho
        refine ⟨first, plainTerm_eq_ok_iff.mpr hl, ?_⟩
        rw [if_neg (not_not.mpr hop), bind_eq_ok_iff]
        exact ⟨rest, ihr.mpr ⟨hr, ho⟩, rfl⟩

/-! ### Enum groups of a query -/

/-- A group has a filter exactly if it is an `OR` row, whose texts are the values. -/
theorem groupFilter_eq_ok_iff {f : Field} :
    groupFilter t f = .ok x ↔ x.field = f ∧ ∃ items, t.IsOrRow items ∧ x.value = .enum items := by
  unfold groupFilter
  split
  · next hf =>
    constructor
    · intro h
      split at h
      · next items hi =>
        cases h
        exact ⟨rfl, items, enumTerms_eq_ok_iff.mp hi, rfl⟩
      · cases h
    · rintro ⟨rfl, items, ht, hv⟩
      rw [enumTerms_eq_ok_iff.mpr ht]
      obtain ⟨f, value, fits⟩ := x
      cases hv
      rfl
  · next hf =>
    constructor
    · intro h
      cases h
    · rintro ⟨rfl, items, -, hv⟩
      exact absurd (x.fits.symm.trans (congrArg Value.type hv)) hf

/-- The filter of a group has the field that the group is written under, an enum field, and the
values of its row. -/
theorem clauseFilter_group_iff (ht : t.IsGroup) :
    clauseFilter registry t = .ok x ↔
      registry.get? (t.grouping.field.getD implicitField) = some x.field ∧
        ∃ items, t.IsOrRow items ∧ x.value = .enum items := by
  cases t with
  | term u | range r => exact absurd ht id
  | single l g | binary l op r g =>
      simp only [clauseFilter, bind_eq_ok_iff, find_eq_ok_iff, groupFilter_eq_ok_iff,
        Tree.grouping]
      constructor
      · rintro ⟨f, hf, rfl, h⟩
        exact ⟨hf, h⟩
      · rintro ⟨hf, h⟩
        exact ⟨x.field, hf, rfl, h⟩

/-- A selection that shares clauses out has a filter of every one of them on its side. -/
theorem Selection.Sorts.exists_filter {cs : List Clause} {excluded : Clause → Bool} {c : Clause}
    (h : s.Sorts registry cs excluded) (hc : c ∈ cs) :
    ∃ x ∈ if excluded c then s.excluded else s.asserted,
      clauseFilter registry c.tree = .ok x := by
  obtain ⟨es, hm, ha, he⟩ := h
  obtain ⟨e, hes, hce⟩ : ∃ e ∈ es, (e.clause, e.asserted) = (c.tree, !excluded c) := by
    rw [Entry.Mark] at hm
    exact List.mem_map.mp (hm ▸ List.mem_map_of_mem hc)
  obtain ⟨hclause, hside⟩ := Prod.mk.inj hce
  refine ⟨e.filter, ?_, hclause ▸ e.holds.filter⟩
  have mem : e.filter ∈ Entry.filters (!excluded c) es :=
    List.mem_map_of_mem (List.mem_filter.mpr ⟨hes, by simp [hside]⟩)
  cases hx : excluded c with
  | false => simpa [hx, ha] using mem
  | true => simpa [hx, he] using mem

/-- **What a group stands for.**  It has values exactly if it is an `OR` row.  These are the plain
`OR` rows unless the row is marked: a `NOT` that opens a group of the row and a field that a group
behind the first is written under are not looked at.  A query with the group among its clauses splits
only if the group is an `OR` row, and the filter of the group, asserted or excluded by what stands
before the group, has all values of the row. -/
theorem enum_group_values (t : Tree) :
    (∀ items, enumTerms t = .ok items ↔ t.IsOrRow items) ∧
      ((∀ items, enumTerms t = .ok items ↔ t.IsPlainOrRow items) ↔
        ∀ items, t.IsOrRow items → t.IsUnmarked) ∧
      ∀ {text : String} {whole : Tree} {registry : Registry} {j : Joiner} {d : Int} {s : Selection},
        parse text = .ok (some whole) → split (some whole) registry j d = .ok s →
          ∀ c ∈ whole.clauses, c.tree = t → t.IsGroup →
            ∃ x ∈ if c.isExcluded j whole.grouping.start then s.excluded else s.asserted,
              registry.get? (t.grouping.field.getD implicitField) = some x.field ∧
                ∃ items, t.IsOrRow items ∧ x.value = .enum items := by
  refine ⟨fun items => enumTerms_eq_ok_iff, ?_, ?_⟩
  · simp only [enumTerms_eq_ok_iff]
    constructor
    · intro h items hrow
      exact ((h items).mp hrow).unmarked
    · intro h items
      exact ⟨fun hrow => ⟨hrow, h items hrow⟩, Tree.IsPlainOrRow.row⟩
  · rintro text whole registry j d s hp h c hc rfl hgroup
    obtain ⟨ho, hg, -⟩ := row_of_split hp h
    obtain ⟨x, hx, hf⟩ := (sorts_of_split hg ho.field h).exists_filter hc
    exact ⟨x, hx, (clauseFilter_group_iff hgroup).mp hf⟩

/-- The group `color:(red OR shade:(blue))`. -/
def Tree.shadedColor : Tree :=
  .binary (.term { text := "red" }) .or
    (.single (.term { text := "blue" }) { field := some "shade", parenthesized := true })
    { field := some "color", parenthesized := true }

theorem parse_shadedColor :
    parse "color:(red OR shade:(blue))" = .ok (some (.single .shadedColor {})) :=
  parse_of_run (by decide +kernel)

theorem split_shadedColor :
    split (some (.single .shadedColor {})) Selection.sampleFields .implicit 1 =
      .ok ⟨[⟨Selection.sampleFields.fields[2], .enum ["red", "blue"], rfl⟩], []⟩ := rfl

/-- In `color:(red OR shade:(blue))` the field of the group on the right is not read. -/
theorem enum_group_values_sample :
    parse "color:(red OR shade:(blue))" = .ok (some (.single .shadedColor {})) ∧
      split (some (.single .shadedColor {})) Selection.sampleFields .implicit 1 =
        .ok ⟨[⟨Selection.sampleFields.fields[2], .enum ["red", "blue"], rfl⟩], []⟩ ∧
      Tree.shadedColor.IsOrRow ["red", "blue"] := by
  refine ⟨parse_shadedColor, split_shadedColor, ?_⟩
  obtain ⟨x, hx, -, items, hrow, hv⟩ := (enum_group_values .shadedColor).2.2 parse_shadedColor
    split_shadedColor ⟨.shadedColor, none, []⟩ (List.mem_singleton_self _) rfl trivial
  rw [List.mem_singleton.mp hx] at hv
  cases hv
  exact hrow

/-- The group `color:(NOT red)`. -/
def Tree.negatedColor : Tree :=
  .single (.term { text := "red" })
    { field := some "color", parenthesized := true, start := some .not }

theorem parse_negatedColor :
    parse "color:(NOT red)" = .ok (some (.single .negatedColor {})) :=
  parse_of_run (by decide +kernel)

/-- **A negated colour that is asserted**: `color:(NOT red)` splits as `color:(red)` does. -/
theorem not_enumTerms_iff_isPlainOrRow :
    parse "color:(NOT red)" = .ok (some (.single .negatedColor {})) ∧
      split (some (.single .negatedColor {})) Selection.sampleFields .implicit 1 =
        .ok ⟨[⟨Selection.sampleFields.fields[2], .enum ["red"], rfl⟩], []⟩ ∧
      ¬∀ (t : Tree) (items : List String), t.IsGroup →
        (enumTerms t = .ok items ↔ t.IsPlainOrRow items) := by
  refine ⟨parse_negatedColor, rfl, fun h => ?_⟩
  have hplain := (h .negatedColor ["red"] trivial).mp rfl
  exact hplain.unmarked.start _ (List.mem_singleton_self _) rfl

end SearchFilters
