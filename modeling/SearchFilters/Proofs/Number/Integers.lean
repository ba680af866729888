import SearchFilters.Proofs.Number.Overflow

/-!
# Proofs — Number — Integers

Integers that are read as floating-point values.

The numeral of an integer is digits without a fraction, so that reading it rounds the integer itself
(`ofSigned?_ofInt`).  Where that ends follows from rounding: at a finite value below the overflow
bound, and at no number from there on (`read_ofInt_of_lt`, `read_ofInt_of_le`).

Whether the value has the integer's size is a matter of the integer: it has if the integer is a
number of at most 53 binary places times a power of two (`Representable`).  Such an integer is a
canonical value once its significand is filled up with zeros, and rounding gives the value that it
is nearest to, itself; conversely the value shows the significand (`same_ofInt_iff`).
-/

namespace SearchFilters
open Text Binary64 Numeral

/-! ### Numerals -/

/-- The value of a row of digits without a fraction. -/
theorem ofDigits_ofNat (negative : Bool) (n : Nat) :
    ofDigits negative (Numeral.ofNat n) [] 0 = ofRatio negative n 1 := by
  rw [ofDigits, List.append_nil, value_ofNat, List.length_nil, Nat.cast_zero, sub_zero, ofDecimal]
  by_cases hn : n = 0
  · rw [if_pos hn, ofRatio, if_pos hn]
  · rw [if_neg hn, if_neg (by decide), if_neg (by omega), if_pos (le_refl _), pow10, Int.toNat_zero,
      Nat.pow_eq, pow_zero, mul_one]

/-- **A numeral reads as the value nearest to its integer.** -/
theorem ofSigned?_ofInt (i : Int) : ofSigned? (Numeral.ofInt i) = some (Binary64.ofInt i) := by
  cases i with
  | ofNat n =>
      simp only [ofSigned?, Numeral.ofInt, sign_of_digits (ofNat_tens n), spanPlain_ofNat]
      exact congrArg some (ofDigits_ofNat false n)
  | negSucc n =>
      have negative : Binary64.ofInt (.negSucc n) = ofRatio true (n + 1) 1 := by
        rw [Binary64.ofInt, decide_eq_true (Int.negSucc_lt_zero n)]
        rfl
      simp only [ofSigned?, Numeral.ofInt, sign, spanPlain_ofNat, negative]
      exact congrArg some (ofDigits_ofNat true (n + 1))

/-- The value nearest to an integer is infinite exactly from the overflow bound on. -/
theorem ofInt_eq_infinite_iff {i : Int} {n : Bool} :
    Binary64.ofInt i = .infinite n ↔ n = decide (i < 0) ∧ overflowBound ≤ i.natAbs := by
  rw [Binary64.ofInt, ofRatio_eq_infinite_iff one_pos, Nat.cast_one, div_one]

/-- An integer below the overflow bound has a finite value. -/
theorem read_ofInt_of_lt {i : Int} (h : (i.natAbs : ℚ) < overflowBound) :
    Binary64.read (Numeral.ofInt i) = some (Binary64.ofInt i) := by
  rw [Binary64.read, ofSigned?_ofInt]
  cases hx : Binary64.ofInt i with
  | nan => exact absurd hx (ofRatio_ne_nan one_pos)
  | infinite n => exact absurd (ofInt_eq_infinite_iff.mp hx).2 (not_le.mpr h)
  | finite n m e => rfl

/-- An integer from the overflow bound on is no number. -/
theorem read_ofInt_of_le {i : Int} (h : overflowBound ≤ i.natAbs) :
    Binary64.read (Numeral.ofInt i) = none := by
  rw [Binary64.read, ofSigned?_ofInt, ofInt_eq_infinite_iff.mpr ⟨rfl, h⟩]
  rfl

/-! ### Integers that are values -/

/-- An integer that is a value: it has a significand, at an exponent up to the greatest one. -/
def Representable (i : Int) : Prop :=
  ∃ (k : Int) (n : Nat), i = k * 2 ^ n ∧ k.natAbs < 2 ^ 53 ∧ n ≤ 971

/-- A finite value and an integer are of one size. -/
theorem same_finite_int_iff {negative : Bool} {m : Nat} {e i : Int} :
    Number.same (.float (.finite negative m e)) (.int i) = true ↔
      (dyadic negative m : ℚ) * 2 ^ e = i := by
  have hp : (2 : ℚ) ^ (-e).toNat ≠ 0 := by positivity
  rw [zpow_eq_div, ← mul_div_assoc, div_eq_iff hp]
  simp only [Number.same, Number.compare?, Number.size?, if_true, Number.compareDyadic, sub_zero,
    zero_sub, beq_iff_eq, Option.some.injEq, compare_eq_iff_eq, pow2, Nat.pow_eq]
  exact_mod_cast Iff.rfl

/-- The sign of an integer is that of the value it is read as. -/
theorem dyadic_mul_eq_iff {i e : Int} {m : Nat} :
    (dyadic (decide (i < 0)) m : ℚ) * 2 ^ e = i ↔ (m : ℚ) * 2 ^ e = i.natAbs := by
  by_cases h : i < 0
  · have hi : (i : ℚ) = -(i.natAbs : ℚ) := by
      rw [Nat.cast_natAbs, abs_of_neg h, Int.cast_neg, neg_neg]
    rw [decide_eq_true h, dyadic, if_pos rfl, hi, Int.cast_neg, Int.cast_natCast, neg_mul, neg_inj]
  · have hi : (i : ℚ) = (i.natAbs : ℚ) := by
      rw [Nat.cast_natAbs, abs_of_nonneg (not_lt.mp h)]
    rw [decide_eq_false h, dyadic, if_neg Bool.false_ne_true, hi, Int.cast_natCast]

/-- A value of an integer's size shows the integer's significand. -/
theorem representable_of_eq {i e : Int} {m : Nat} (hc : Canonical m e)
    (h : (m : ℚ) * 2 ^ e = i.natAbs) : Representable i := by
  rcases le_or_gt 0 e with he | he
  · obtain ⟨n, rfl⟩ := Int.eq_ofNat_of_zero_le he
    have hi := dyadic_mul_eq_iff.mpr h
    rw [zpow_natCast] at hi
    have hi : dyadic (decide (i < 0)) m * 2 ^ n = i := by exact_mod_cast hi
    have hn : (n : Int) ≤ 971 := hc.greatest
    have hm : (dyadic (decide (i < 0)) m).natAbs = m := by
      unfold dyadic
      split <;> simp
    exact ⟨dyadic (decide (i < 0)) m, n, hi.symm, by rw [hm]; exact hc.bound, by omega⟩
  · obtain ⟨n, hn⟩ := Int.eq_ofNat_of_zero_le (show 0 ≤ -e by omega)
    obtain rfl : e = -n := by omega
    rw [zpow_neg, zpow_natCast, mul_inv_eq_iff_eq_mul₀ (by positivity)] at h
    have h : m = i.natAbs * 2 ^ n := by exact_mod_cast h
    have hle : i.natAbs ≤ m := h ▸ Nat.le_mul_of_pos_right _ (by positivity)
    exact ⟨i, 0, by rw [pow_zero, mul_one], hle.trans_lt hc.bound, Nat.zero_le _⟩

/-- **An integer with a significand is a value.** -/
theorem Representable.exists_canonical {i : Int} (h : Representable i) :
    ∃ m q, Canonical m q ∧ (m : ℚ) * 2 ^ q = i.natAbs := by
  obtain ⟨k, n, rfl, hk, hn⟩ := h
  rcases Nat.eq_zero_or_pos k.natAbs with h₀ | hpos
  · obtain rfl : k = 0 := Int.natAbs_eq_zero.mp h₀
    obtain ⟨m, q, hc, e⟩ := Binary64.exists_canonical hk
    exact ⟨m, q, hc, by rw [← e, zero_mul]⟩
  · obtain ⟨m, p, hc, full, e⟩ := exists_canonical_of_pos hpos hk
    refine ⟨m, -p + n, ⟨hc.bound, ?_, ?_, .inl full⟩, ?_⟩
    · have := hc.least
      omega
    · rw [maxExponent]
      omega
    · rw [zpow_add₀ (by norm_num), zpow_natCast, ← mul_assoc, ← e, Int.natAbs_mul, Int.natAbs_pow]
      push_cast
      rfl

/-- A value lies below the overflow bound. -/
theorem Representable.lt_overflowBound {i : Int} (h : Representable i) :
    (i.natAbs : ℚ) < overflowBound := by
  obtain ⟨m, q, hc, e⟩ := h.exists_canonical
  have half := hc.half_lt
  calc (i.natAbs : ℚ) = m * 2 ^ q := e.symm
    _ ≤ m * 2 ^ (971 : Int) :=
      mul_le_mul_of_nonneg_left (two_zpow_le hc.greatest) (Nat.cast_nonneg m)
    _ < overflowBound := mul_lt_mul_of_pos_right (by linarith) (by positivity)

/-- **An integer keeps its size exactly if it is a value.** -/
theorem same_ofInt_iff {i : Int} :
    Number.same (.float (Binary64.ofInt i)) (.int i) = true ↔ Representable i := by
  constructor
  · intro h
    cases hx : Binary64.ofInt i with
    | nan => exact absurd hx (ofRatio_ne_nan one_pos)
    | infinite n =>
        rw [hx] at h
        cases n <;> cases h
    | finite n m e =>
        obtain ⟨hc, rfl⟩ := canonical_of_ofRatio one_pos hx
        rw [hx, same_finite_int_iff, dyadic_mul_eq_iff] at h
        exact representable_of_eq hc h
  · intro h
    obtain ⟨m, q, hc, e⟩ := h.exists_canonical
    have value : Binary64.ofInt i = .finite (decide (i < 0)) m q := by
      rcases Nat.eq_zero_or_pos m with rfl | hm
      · have hi : i = 0 := by simpa using e.symm
        have hq : q = minExponent := hc.normal.resolve_left (by decide)
        rw [hi, hq]
        rfl
      · refine ofRatio_eq one_pos hc hm ?_ _
        rw [Nat.cast_one, div_one, ← e]
        exact rounds_self m q
    rw [value, same_finite_int_iff, dyadic_mul_eq_iff]
    exact e

end SearchFilters
