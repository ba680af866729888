import SearchFilters.Proofs.Number.Signed

/-!
# Proofs — Number — Modifier

The texts of numbers behind the mark of a modifier.

Such a text is a plain decimal unless it has an exponent, and it has one where the point of the
shortest decimal is far off its digits.  So whether a value is written with an exponent depends on
the decimal that it is written as; what is shown is that it depends on the value alone: the decimal
lies below `0.0001` exactly if the value does (`shortest_lt_iff`).  Around `0.0001` values are
multiples of `2 ^ -66`.  The decimal of a value is among the numbers that round to it, and for every
value but one all of these are on one side of `0.0001`; the value that is left is the one that
`0.0001` rounds to, and its decimal is `0.0001` itself.

At the upper end there is nothing to show: large values are whole, and are written as integers.

* `Number.Writable`: the numbers that have such a text.
* `exponent_mem_modifierText_iff`, `ofPlain?_modifierText_iff`: the text of a value has an exponent
  exactly if the value is tiny, and is a plain decimal if it is not.
* `read_modifierText`: as a number with an exponent or without, the text reads as the value.
-/

namespace SearchFilters
namespace Binary64
open Text Numeral

variable {m : Nat} {q : Int} {v : ℚ}

/-! ### Values near the least one written without an exponent -/

/-- The least number that is written without an exponent. -/
def leastPositional : ℚ := 10 ^ (-4 : Int)

/-- A value that is not zero but below that number, whatever its sign. -/
def Tiny : Binary64 → Prop
  | .finite _ m q => 0 < m ∧ (m : ℚ) * 2 ^ q < leastPositional
  | _ => False

/-- The significand of the value that the number rounds to; its exponent is `-66`. -/
def leastSignificand : Nat := 7378697629483821

/-- Around the number values are multiples of `2 ^ -66`. -/
theorem lt_leastPositional_iff :
    (m : ℚ) * 2 ^ (-66 : Int) < leastPositional ↔ m < leastSignificand := by
  constructor
  · intro h
    by_contra hm
    have hm : (leastSignificand : ℚ) ≤ m := by exact_mod_cast not_lt.mp hm
    refine absurd h (not_lt.mpr ?_)
    calc leastPositional ≤ leastSignificand * 2 ^ (-66 : Int) := by
          norm_num [leastPositional, leastSignificand]
      _ ≤ m * 2 ^ (-66 : Int) := mul_le_mul_of_nonneg_right hm (by positivity)
  · intro hm
    have hm : (m : ℚ) + 1 ≤ leastSignificand := by exact_mod_cast hm
    calc (m : ℚ) * 2 ^ (-66 : Int) ≤ (leastSignificand - 1) * 2 ^ (-66 : Int) :=
          mul_le_mul_of_nonneg_right (by linarith) (by positivity)
      _ < leastPositional := by norm_num [leastPositional, leastSignificand]

/-- A value with a lower exponent lies below the number, with all that rounds to it. -/
theorem Canonical.below_of_lt (hc : Canonical m q) (hq : q < -66) :
    ((m : ℚ) + 1 / 2) * 2 ^ q < leastPositional :=
  calc ((m : ℚ) + 1 / 2) * 2 ^ q < 2 ^ 53 * 2 ^ q :=
        mul_lt_mul_of_pos_right hc.half_lt (by positivity)
    _ ≤ 2 ^ 53 * 2 ^ (-67 : Int) := mul_le_mul_of_nonneg_left (two_zpow_le (by omega)) (by norm_num)
    _ < leastPositional := by norm_num [leastPositional]

/-- A value with a greater exponent lies above the number, with all that rounds to it. -/
theorem Canonical.above_of_lt (hc : Canonical m q) (hq : -66 < q) :
    leastPositional ≤ ((m : ℚ) - gap m q) * 2 ^ q := by
  have hm : 2 ^ 52 ≤ m := hc.normal.resolve_right (by rw [minExponent]; omega)
  have hm : (2 : ℚ) ^ 52 ≤ m := by exact_mod_cast hm
  have hg := (gap_le m q).2
  calc leastPositional ≤ (2 ^ 52 - 1 / 2) * 2 ^ (-65 : Int) := by norm_num [leastPositional]
    _ ≤ (m - gap m q) * 2 ^ q :=
        mul_le_mul (by linarith) (two_zpow_le (by omega)) (by positivity) (by linarith)

/-- All that rounds to a value below the number lies below it. -/
theorem Canonical.below (hc : Canonical m q) (h : (m : ℚ) * 2 ^ q < leastPositional) :
    ((m : ℚ) + 1 / 2) * 2 ^ q < leastPositional := by
  rcases lt_trichotomy q (-66) with hq | rfl | hq
  · exact hc.below_of_lt hq
  · have hm : m + 1 ≤ leastSignificand := lt_leastPositional_iff.mp h
    have hm : (m : ℚ) + 1 ≤ leastSignificand := by exact_mod_cast hm
    calc ((m : ℚ) + 1 / 2) * 2 ^ (-66 : Int) ≤ (leastSignificand - 1 / 2) * 2 ^ (-66 : Int) :=
          mul_le_mul_of_nonneg_right (by linarith) (by positivity)
      _ < leastPositional := by norm_num [leastPositional, leastSignificand]
  · have hle : ((m : ℚ) - gap m q) * 2 ^ q ≤ m * 2 ^ q :=
      mul_le_mul_of_nonneg_right (by linarith [(gap_le m q).1]) (by positivity)
    exact absurd h (not_lt.mpr ((hc.above_of_lt hq).trans hle))

/-- All that rounds to a value from the number on lies from it on, or the value is the one that the
number itself rounds to. -/
theorem Canonical.above (hc : Canonical m q) (h : leastPositional ≤ (m : ℚ) * 2 ^ q) :
    m = leastSignificand ∧ q = -66 ∨ leastPositional ≤ ((m : ℚ) - gap m q) * 2 ^ q := by
  rcases lt_trichotomy q (-66) with hq | rfl | hq
  · have hle : (m : ℚ) * 2 ^ q ≤ (m + 1 / 2) * 2 ^ q :=
      mul_le_mul_of_nonneg_right (by linarith) (by positivity)
    exact absurd (hle.trans_lt (hc.below_of_lt hq)) (not_lt.mpr h)
  · have hm : leastSignificand ≤ m := not_lt.mp (mt lt_leastPositional_iff.mpr (not_lt.mpr h))
    refine (Nat.eq_or_lt_of_le hm).imp (fun e => ⟨e.symm, rfl⟩) fun hm => ?_
    have hm : (leastSignificand : ℚ) + 1 ≤ m := by exact_mod_cast hm
    have hg := (gap_le m (-66)).2
    calc leastPositional ≤ (leastSignificand + 1 / 2) * 2 ^ (-66 : Int) := by
          norm_num [leastPositional, leastSignificand]
      _ ≤ (m - gap m (-66)) * 2 ^ (-66 : Int) :=
          mul_le_mul_of_nonneg_right (by linarith) (by positivity)
  · exact .inr (hc.above_of_lt hq)

/-- That value is written as the number. -/
theorem shortest_leastPositional : shortest leastSignificand (-66) = ⟨1, -4⟩ := by decide +kernel

/-- **A value lies below the number exactly if the decimal that it is written as does.** -/
theorem shortest_lt_iff (hc : Canonical m q) (hm : 0 < m) :
    (shortest m q).value < leastPositional ↔ (m : ℚ) * 2 ^ q < leastPositional := by
  have bounds := (rounds_shortest q hm).bounds
  constructor
  · intro h
    by_contra hv
    rcases hc.above (not_lt.mp hv) with ⟨rfl, rfl⟩ | hv
    · rw [shortest_leastPositional, Decimal.value, Nat.cast_one, one_mul] at h
      exact lt_irrefl _ h
    · exact absurd h (not_lt.mpr (hv.trans bounds.1))
  · exact fun h => bounds.2.trans_lt (hc.below h)

/-! ### Where the point of a decimal stands -/

/-- A number lies below the power of ten of its length. -/
theorem lt_pow_length (n : Nat) : n < 10 ^ (ofNat n).length := by
  simpa only [value_ofNat] using value_lt (ofNat n)

theorem pow_length_le {n : Nat} (hn : 0 < n) : 10 ^ ((ofNat n).length - 1) ≤ n := by
  rcases Nat.eq_zero_or_pos ((ofNat n).length - 1) with h | h
  · rwa [h]
  · by_contra hlt
    have : (ofNat n).length ≤ (ofNat n).length - 1 :=
      (Nat.length_toDigits_le_iff (by decide) h).mpr (not_le.mp hlt)
    omega

/-- **The point of a decimal** stands where its size says. -/
theorem Decimal.point_le_iff {d : Decimal} (hd : 0 < d.digits) (k : Int) :
    (ofNat d.digits).length + d.exponent ≤ k ↔ d.value < 10 ^ k := by
  have hne : 0 < (ofNat d.digits).length := List.length_pos_iff.mpr (ofNat_ne_nil _)
  have hlt : (d.digits : ℚ) < 10 ^ (ofNat d.digits).length := by
    exact_mod_cast lt_pow_length d.digits
  have hle : (10 : ℚ) ^ ((ofNat d.digits).length - 1) ≤ d.digits := by
    exact_mod_cast pow_length_le hd
  generalize (ofNat d.digits).length = n at hne hlt hle
  have hp : (0 : ℚ) < 10 ^ d.exponent := by positivity
  rw [Decimal.value]
  constructor
  · intro h
    calc (d.digits : ℚ) * 10 ^ d.exponent < 10 ^ n * 10 ^ d.exponent :=
          mul_lt_mul_of_pos_right hlt hp
      _ = 10 ^ (n + d.exponent) := by rw [zpow_add₀ (by norm_num), zpow_natCast]
      _ ≤ 10 ^ k := zpow_le_zpow_right₀ (by norm_num) h
  · intro h
    by_contra hk
    refine absurd h (not_lt.mpr ?_)
    calc (10 : ℚ) ^ k ≤ 10 ^ (((n - 1 : Nat) : Int) + d.exponent) :=
          zpow_le_zpow_right₀ (by norm_num) (by omega)
      _ = 10 ^ (n - 1) * 10 ^ d.exponent := by rw [zpow_add₀ (by norm_num), zpow_natCast]
      _ ≤ d.digits * 10 ^ d.exponent := mul_le_mul_of_nonneg_right hle hp.le

/-- A text is laid out with an exponent exactly where its point is far off. -/
theorem exponent_mem_layOut_iff {ds : List Char} (hds : ∀ c ∈ ds, isDigit c = true) (hne : ds ≠ [])
    {point : Int} : 'e' ∈ layOut ds point ↔ point < -3 ∨ 16 < point := by
  refine ⟨fun h => ?_, mem_layOut_exponent hne⟩
  by_contra hp
  obtain ⟨w, f, e, hw, hf, -⟩ := layOut_positional hds hp
  have digit : isDigit 'e' = false := by decide
  rw [e, List.mem_append, List.mem_cons] at h
  rcases h with h | h | h
  · exact absurd (hw _ h) (by simp [digit])
  · exact absurd h (by decide)
  · exact absurd (hf _ h) (by simp [digit])

/-- **The text of a fraction has an exponent** exactly if the fraction is too small for a text
without one; it is never too large. -/
theorem exponent_mem_magnitudeText_iff (hc : Canonical m q) (hm : 0 < m) (hq : q < 0) :
    'e' ∈ magnitudeText m q ↔ (m : ℚ) * 2 ^ q < leastPositional := by
  have hr := rounds_shortest q hm
  have hd := digits_shortest_pos q hm
  have lt := shortest_lt_iff hc hm
  rw [magnitudeText, if_neg hm.ne']
  simp only
  generalize shortest m q = d at hr hd lt
  have small : d.value < 10 ^ (16 : Int) :=
    calc d.value ≤ (m + 1 / 2) * 2 ^ q := hr.bounds.2
      _ ≤ 2 ^ 53 * 2 ^ (-1 : Int) :=
        mul_le_mul hc.half_lt.le (two_zpow_le (by omega)) (by positivity) (by positivity)
      _ < 10 ^ (16 : Int) := by norm_num
  have hp := (Decimal.point_le_iff hd 16).mpr small
  rw [exponent_mem_layOut_iff (fun c hc => (ofNat_tens _ c (dropZeros_subset _ c hc)).isDigit)
    (dropZeros_ofNat_ne_nil hd), ← lt, leastPositional, ← Decimal.point_le_iff hd (-4)]
  omega

/-! ### Reading with an exponent -/

/-- A plain decimal is read alike where signs and exponents may stand. -/
theorem read_of_ofPlain? {s : List Char} {n : Bool} (h : ofPlain? s = some (.finite n m q)) :
    read s = some (.finite n m q) := by
  obtain ⟨w, f, hs⟩ := spanPlain_of_ofPlain? h
  have unsigned : sign s = (false, s) :=
    sign_of_head fun c hc => (chars_of_ofPlain? h).2 c (List.mem_of_mem_head? hc)
  have signed : ofSigned? s = ofPlain? s := by
    rw [ofSigned?_eq, unsigned, ofUnsigned?, ofPlain?, hs]
    cases f <;> rfl
  rw [read, signed, h]
  rfl

end Binary64

open Binary64

namespace Number

variable {m : Nat} {q : Int} {l : List Char}

/-- A number that can be written: an integer within the digit limit or a finite value. -/
inductive Writable : Number → Prop where
  | int {i : Int} (h : Numeral.Short i) : Writable (.int i)
  | float (negative : Bool) {m : Nat} {q : Int} (h : Canonical m q) :
      Writable (.float (.finite negative m q))

/-- **A number that can be written has a text.** -/
theorem Writable.exists_text {x : Number} (h : x.Writable) : ∃ l, x.modifierText = .ok l := by
  cases h with
  | int h => exact ⟨_, Numeral.write_of_short h⟩
  | float negative hc =>
      rcases modifierText_finite hc negative with ⟨k, -, hl⟩ | ⟨-, -, hl⟩
      · exact ⟨_, hl⟩
      · exact ⟨_, hl⟩

/-- **The text of a value has an exponent** exactly if the value is tiny. -/
theorem exponent_mem_modifierText_iff (hc : Canonical m q)
    (h : (Number.float (.finite false m q)).modifierText = .ok l) :
    'e' ∈ l ↔ (finite false m q).Tiny := by
  rcases modifierText_finite hc false with ⟨k, hk, hl⟩ | ⟨hm, hq, hl⟩
  · cases h.symm.trans hl
    have plain : 'e' ∉ Numeral.ofNat k := fun he => (Numeral.ofNat_tens k _ he).ne.2.2.2.1 rfl
    refine iff_of_false plain ?_
    -- a whole number is zero or at least one
    rintro ⟨hm, hlt⟩
    have pos : (0 : ℚ) < k := hk ▸ by positivity
    have one : (1 : ℚ) ≤ k := by exact_mod_cast pos
    exact absurd (one.trans hk.le) (not_le.mpr (hlt.trans (by norm_num [leastPositional])))
  · cases h.symm.trans hl
    exact (exponent_mem_magnitudeText_iff hc hm hq).trans (and_iff_right hm).symm

/-- **The text of a value is a plain decimal** exactly if the value is not tiny. -/
theorem ofPlain?_modifierText_iff (hc : Canonical m q)
    (h : (Number.float (.finite false m q)).modifierText = .ok l) :
    (∃ y, ofPlain? l = some y) ↔ ¬(finite false m q).Tiny := by
  rw [← exponent_mem_modifierText_iff hc h]
  refine ⟨fun ⟨y, hy⟩ he => ?_, fun he => ⟨_, modifierText_reads hc h he⟩⟩
  exact absurd ((chars_of_ofPlain? hy).2 'e' he) (by decide)

/-- **The text of a value reads as the value** where exponents are read. -/
theorem read_modifierText (hc : Canonical m q)
    (h : (Number.float (.finite false m q)).modifierText = .ok l) :
    Binary64.read l = some (.finite false m q) := by
  rcases modifierText_finite hc false with ⟨k, hk, hl⟩ | ⟨-, -, hl⟩
  · cases h.symm.trans hl
    exact read_of_ofPlain? (ofPlain?_ofNat hc hk)
  · cases h.symm.trans hl
    exact read_text hc false

end Number
end SearchFilters
