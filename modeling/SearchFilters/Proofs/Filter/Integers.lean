import SearchFilters.Proofs.Filter.Splitting
import SearchFilters.Proofs.Number.Integers

/-!
# Proofs — Filter — Integers

Integers in float fields, which are written as integers and read as floating-point values.

The query has the digits of the integer, and they are read as the floating-point value that the
integer is nearest to, or as no number from the overflow bound on (`readNumber_of_lt`,
`readNumber_of_le`).  So the clause of a filter that holds integers gives the filter of the nearest
values, or is rejected (`clauseFilter_integers`).  Whether this is the filter that was written is a
matter of size, and the sizes agree exactly if every integer is a floating-point value
(`same_nearest_iff`).

* `deserialize_integers`: the same for filters that are written and read.
* `not_kept_beyondSignificands`: an integer that is rounded.
-/

namespace SearchFilters
open Binary64 Numeral

/-! ### Nearest values -/

/-- The floating-point value nearest to a number. -/
def Number.nearest : Number → Number
  | .int i   => .float (.ofInt i)
  | .float x => .float x

/-- A value with the nearest floating-point values in place of the integers of a float field. -/
def Value.nearest : Value → Value
  | .float x             => .float x.nearest
  | .floatRange low high => .floatRange low.nearest high.nearest
  | v                    => v

theorem Value.type_nearest (v : Value) : v.nearest.type = v.type := by
  cases v <;> rfl

/-- The filter of the nearest value. -/
def Filter.nearest (f : Filter) : Filter :=
  ⟨f.field, f.value.nearest, (Value.type_nearest _).trans f.fits⟩

/-- The integers of a value of a float field. -/
inductive Value.HoldsIntegers : Value → List Int → Prop where
  | float (i : Int) : HoldsIntegers (.float (.int i)) [i]
  | floatRange (low high : Int) : HoldsIntegers (.floatRange (.int low) (.int high)) [low, high]

variable {registry : Registry} {f : Filter} {is : List Int}

/-- **The nearest values are of the size of the integers** exactly if the integers are values. -/
theorem same_nearest_iff {v : Value} (h : v.HoldsIntegers is) :
    v.nearest.same v = true ↔ ∀ i ∈ is, Representable i := by
  cases h with
  | float i =>
      rw [List.forall_mem_singleton, ← same_ofInt_iff]
      rfl
  | floatRange low high =>
      rw [List.forall_mem_cons, List.forall_mem_singleton, ← same_ofInt_iff, ← same_ofInt_iff,
        ← Bool.and_eq_true, ← Bool.and_true (Number.same (.float (ofInt high)) _)]
      rfl

/-! ### Clauses -/

/-- Below the overflow bound the numeral of an integer is read as the value nearest to the integer.
-/
theorem readNumber_of_lt {i : Int} (h : (i.natAbs : ℚ) < overflowBound) :
    readNumber (String.ofList (Numeral.ofInt i)) = some (.float (Binary64.ofInt i)) := by
  rw [readNumber, String.toList_ofList, read_ofInt_of_lt h]
  rfl

/-- From the overflow bound on it is no number. -/
theorem readNumber_of_le {i : Int} (h : overflowBound ≤ i.natAbs) :
    readNumber (String.ofList (Numeral.ofInt i)) = none := by
  rw [readNumber, String.toList_ofList, read_ofInt_of_le h]
  rfl

/-- **The clause of integers in a float field** gives their nearest values, or is rejected if an
integer reaches the overflow bound. -/
theorem clauseFilter_integers (hf : f.field ∈ registry.fields) (h : f.value.HoldsIntegers is)
    (hs : ∀ i ∈ is, Short i) :
    ∃ t, f.serialize = .ok t ∧ t.StandsAlone ∧
      ((∀ i ∈ is, (i.natAbs : ℚ) < overflowBound) → clauseFilter registry t = .ok f.nearest) ∧
      ((∃ i ∈ is, overflowBound ≤ (i.natAbs : ℚ)) →
        ∃ r, clauseFilter registry t = .error (.rejected r)) := by
  obtain ⟨⟨name, displayName, type, default, minimum, maximum, options, autocomplete, hdef⟩,
    value, fits⟩ := f
  simp only at hf h fits
  subst fits
  cases h with
  | float i =>
      simp only [List.mem_singleton, forall_eq, exists_eq_left] at hs ⊢
      refine ⟨_, Filter.serialize_float rfl (Numeral.write_of_short hs), trivial, ?_⟩
      rw [clauseFilter_plainTermOf hf]
      constructor
      · intro hb
        simp only [termFilter, plainTermOf, readNumber_of_lt hb]
        rfl
      · intro hb
        refine ⟨.notNumber (String.ofList (Numeral.ofInt i)) name, ?_⟩
        simp only [termFilter, plainTermOf, readNumber_of_le hb]
        rfl
  | floatRange low high =>
      simp only [List.mem_cons, List.not_mem_nil, or_false, forall_eq_or_imp, forall_eq,
        exists_eq_or_imp, exists_eq_left] at hs ⊢
      refine ⟨_, Filter.serialize_floatRange rfl (Numeral.write_of_short hs.1)
        (Numeral.write_of_short hs.2), trivial, ?_⟩
      rw [clauseFilter_range hf]
      constructor
      · intro hb
        simp only [rangeFilter, readNumber_of_lt hb.1, readNumber_of_lt hb.2]
        rfl
      · intro hb
        refine ⟨.rangeNotNumeric (String.ofList (Numeral.ofInt low))
          (String.ofList (Numeral.ofInt high)) name, ?_⟩
        rcases hb with hb | hb
        · simp only [rangeFilter, readNumber_of_le hb]
          rfl
        · simp only [rangeFilter, readNumber_of_le hb]
          cases readNumber (String.ofList (Numeral.ofInt low)) <;> rfl

/-! ### Filters -/

/-- A query of one clause that stands alone has the filter of the clause. -/
theorem deserialize_single {t : Tree} (ht : t.StandsAlone) (j : Joiner) {d : Int} (hd : 1 ≤ d) :
    deserialize (.single t {}) ⟨registry, j, true, d⟩ true =
      (clauseFilter registry t).map fun f => [f] := by
  have here : ¬d < (0 : Nat) := by omega
  have below : ¬d < (0 + 1 : Nat) := by omega
  rw [deserialize, Request.walk, walk_of_standsAlone ht, if_neg here, if_neg below,
    if_neg (by simp), if_neg (by simp)]
  cases clauseFilter registry t <;> rfl

/-- **Integers in float fields are kept exactly if they are values.**  A filter that holds integers
within the digit limit is written; what is written reads as one filter of the same size exactly if
every integer has a significand.  Otherwise it reads as the filter of the nearest values, or is
rejected if an integer reaches the overflow bound. -/
theorem deserialize_integers (hf : f.field ∈ registry.fields) (h : f.value.HoldsIntegers is)
    (hs : ∀ i ∈ is, Short i) (j : Joiner) {d : Int} (hd : 1 ≤ d) :
    ∃ t, f.serialize = .ok t ∧
      ((∃ g, deserialize (.single t {}) ⟨registry, j, true, d⟩ true = .ok [g] ∧
          g.field = f.field ∧ g.value.same f.value = true) ↔ ∀ i ∈ is, Representable i) ∧
      ((∀ i ∈ is, (i.natAbs : ℚ) < overflowBound) →
        deserialize (.single t {}) ⟨registry, j, true, d⟩ true = .ok [f.nearest]) ∧
      ((∃ i ∈ is, overflowBound ≤ (i.natAbs : ℚ)) →
        ∃ r, deserialize (.single t {}) ⟨registry, j, true, d⟩ true = .error (.rejected r)) := by
  obtain ⟨t, ht, halone, hlow, hhigh⟩ := clauseFilter_integers hf h hs
  have low (hb : ∀ i ∈ is, (i.natAbs : ℚ) < overflowBound) :
      deserialize (.single t {}) ⟨registry, j, true, d⟩ true = .ok [f.nearest] := by
    rw [deserialize_single halone j hd, hlow hb]
    rfl
  have high (hb : ∃ i ∈ is, overflowBound ≤ (i.natAbs : ℚ)) :
      ∃ r, deserialize (.single t {}) ⟨registry, j, true, d⟩ true = .error (.rejected r) := by
    obtain ⟨r, hr⟩ := hhigh hb
    exact ⟨r, by rw [deserialize_single halone j hd, hr]; rfl⟩
  refine ⟨t, ht, ⟨?_, fun hi => ?_⟩, low, high⟩
  · rintro ⟨g, hg, -, hsame⟩
    by_cases hb : ∀ i ∈ is, (i.natAbs : ℚ) < overflowBound
    · rw [low hb] at hg
      cases hg
      exact (same_nearest_iff h).mp hsame
    · push Not at hb
      obtain ⟨r, hr⟩ := high hb
      rw [hr] at hg
      cases hg
  · exact ⟨_, low fun i hm => (hi i hm).lt_overflowBound, rfl, (same_nearest_iff h).mpr hi⟩

/-- A field of numbers and one of their ranges. -/
def Registry.numbers : Registry where
  fields :=
    [{ name := "size", displayName := "Size", type := .float, default := .float (.int 0),
       default_type := rfl },
     { name := "price", displayName := "Price", type := .floatRange,
       default := .floatRange (.int 0) (.int 100), default_type := rfl }]
  nodup := by decide

/-- Prices from -3 to the bound of significands, as integers. -/
def Filter.wholePrices : Filter :=
  ⟨Registry.numbers.fields[1], .floatRange (.int (-3)) (.int (2 ^ 53)), rfl⟩

theorem deserialize_integers_sample :
    Filter.wholePrices.field ∈ Registry.numbers.fields ∧
      Filter.wholePrices.value.HoldsIntegers [-3, 2 ^ 53] ∧
      (∀ i ∈ [(-3 : Int), 2 ^ 53], Short i) ∧ (1 : Int) ≤ defaultMaxDepth ∧
      ∃ t g, Filter.wholePrices.serialize = .ok t ∧
        deserialize (.single t {}) ⟨Registry.numbers, .implicit, true, defaultMaxDepth⟩ true =
          .ok [g] ∧
        g.field = Filter.wholePrices.field ∧ g.value.same Filter.wholePrices.value = true := by
  have mem : Filter.wholePrices.field ∈ Registry.numbers.fields := List.getElem_mem _
  have short : ∀ i ∈ [(-3 : Int), 2 ^ 53], Short i := by decide
  have representable : ∀ i ∈ [(-3 : Int), 2 ^ 53], Representable i := by
    intro i hi
    simp only [List.mem_cons, List.not_mem_nil, or_false] at hi
    rcases hi with rfl | rfl
    · exact ⟨-3, 0, by decide, by decide, by decide⟩
    · exact ⟨1, 53, by decide, by decide, by decide⟩
  obtain ⟨t, ht, hkept, -⟩ :=
    deserialize_integers mem (.floatRange _ _) short .implicit (d := defaultMaxDepth) (by decide)
  obtain ⟨g, hg, hfield, hsame⟩ := hkept.mpr representable
  exact ⟨mem, .floatRange _ _, short, by decide, t, g, ht, hg, hfield, hsame⟩

/-- An integer beyond the bound of significands. -/
def Filter.beyondSignificands : Filter :=
  ⟨Registry.numbers.fields[0], .float (.int (2 ^ 53 + 1)), rfl⟩

/-- **Some integer is not kept**: the one after the bound of significands is rounded to it. -/
theorem not_kept_beyondSignificands :
    ¬∀ (registry : Registry) (f : Filter) (is : List Int), f.field ∈ registry.fields →
      f.value.HoldsIntegers is → (∀ i ∈ is, Short i) →
      ∃ t g, f.serialize = .ok t ∧
        deserialize (.single t {}) ⟨registry, .implicit, true, defaultMaxDepth⟩ true = .ok [g] ∧
        g.field = f.field ∧ g.value.same f.value = true := by
  intro h
  have mem : Filter.beyondSignificands.field ∈ Registry.numbers.fields := List.getElem_mem _
  have holds : Filter.beyondSignificands.value.HoldsIntegers [2 ^ 53 + 1] := .float _
  have short : ∀ i ∈ [(2 ^ 53 + 1 : Int)], Short i := by decide
  obtain ⟨t, g, ht, hg, -, hsame⟩ := h _ _ _ mem holds short
  obtain ⟨t', ht', halone, hlow, -⟩ := clauseFilter_integers mem holds short
  rw [ht] at ht'
  cases ht'
  have below : ∀ i ∈ [(2 ^ 53 + 1 : Int)], (i.natAbs : ℚ) < overflowBound := by
    rw [List.forall_mem_singleton]
    calc ((2 ^ 53 + 1 : Int).natAbs : ℚ) = 2 ^ 53 + 1 := by norm_num
      _ ≤ (2 ^ 53 - 1 / 2) * 2 ^ (2 : Int) := by norm_num
      _ < (2 ^ 53 - 1 / 2) * 2 ^ (971 : Int) :=
        mul_lt_mul_of_pos_left (zpow_lt_zpow_right₀ (by norm_num) (by decide)) (by norm_num)
  rw [deserialize_single halone .implicit (by decide), hlow below] at hg
  cases hg
  have rounded : Filter.beyondSignificands.nearest.value.same Filter.beyondSignificands.value =
      false := by
    decide +kernel
  rw [rounded] at hsame
  cases hsame

end SearchFilters
