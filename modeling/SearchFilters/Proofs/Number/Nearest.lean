import Mathlib.Algebra.Order.Field.Power
import Mathlib.Data.Rat.Cast.Order
import Mathlib.Tactic.FieldSimp
import Mathlib.Tactic.Linarith
import Mathlib.Tactic.Ring
import SearchFilters.Number.Shortest

/-!
# Proofs — Number — Nearest

Rounding to floating-point values, in rational numbers.

A finite value is `m · 2 ^ q` with a significand and an exponent that are determined by it
(`Canonical`).  The rational numbers that round to it make up an interval around it: half a unit to
either side, but only a quarter below a power of two, where the values below are twice as close; the
ends belong to it if the significand is even (`Rounds`).  `ofRatio_eq` says that rounding a quotient
gives the value whose interval the quotient lies in.

Rounding scales the quotient so that its whole part fills a significand, and there is only one
exponent that does (`Fills.unique`).  Mostly that is the exponent of the value.  Right below a power
of two it is one less, and the rounded significand reaches the bound and is carried into the next
exponent; the two cases are proved apart (`ofRatio_eq_of_fills`, `ofRatio_eq_of_below`).

A decimal is rounded as a quotient, unless it is so small or so large that its value is known
without (`DecimalRounds`).  In each case it gives the value that it is nearest to (`ofDecimal_eq`).
-/

namespace SearchFilters

/-! ### Quotients -/

/-- A tie is rounded to an even number. -/
theorem roundDiv_even (num den : Nat)
    (h : 2 * num = 2 * (roundDiv num den * den) + den ∨
      2 * (roundDiv num den * den) = 2 * num + den) (hd : 0 < den) :
    roundDiv num den % 2 = 0 := by
  have hq := Nat.div_add_mod' num den
  have hr := Nat.mod_lt num hd
  unfold roundDiv at h ⊢
  simp only at h ⊢
  split at h
  · rw [if_pos ‹_›]
    omega
  · split at h
    · rw [Nat.add_mul] at h
      omega
    · rw [if_neg ‹_›, if_neg ‹_›]
      omega

/-- The nearest whole number, an even one at a tie. -/
theorem roundDiv_eq {num den m : Nat} (hd : 0 < den)
    (hl : 2 * (m * den) ≤ 2 * num + den) (hh : 2 * num ≤ 2 * (m * den) + den)
    (he : 2 * (m * den) = 2 * num + den ∨ 2 * num = 2 * (m * den) + den → m % 2 = 0) :
    roundDiv num den = m := by
  obtain ⟨h₁, h₂⟩ := roundDiv_near num hd
  have heven := roundDiv_even num den
  generalize roundDiv num den = w at *
  rcases Nat.lt_trichotomy w m with h | h | h
  · have : (w + 1) * den ≤ m * den := Nat.mul_le_mul_right _ h
    rw [Nat.add_mul] at this
    have hm := he (by omega)
    have hw := heven (by omega) hd
    obtain ⟨k, hk⟩ : ∃ k, m = w + 2 + k := ⟨m - w - 2, by omega⟩
    subst hk
    rw [Nat.add_mul, Nat.add_mul] at hl hh
    omega
  · exact h
  · have : (m + 1) * den ≤ w * den := Nat.mul_le_mul_right _ h
    rw [Nat.add_mul] at this
    have hm := he (by omega)
    have hw := heven (by omega) hd
    obtain ⟨k, hk⟩ : ∃ k, w = m + 2 + k := ⟨w - m - 2, by omega⟩
    subst hk
    rw [Nat.add_mul, Nat.add_mul] at h₁ h₂
    omega

/-- The same for a quotient as a rational number. -/
theorem roundDiv_eq_of_rat {n d m : Nat} (hd : 0 < d)
    (hl : (m : ℚ) - 1 / 2 < n / d ∨ m % 2 = 0 ∧ (m : ℚ) - 1 / 2 = n / d)
    (hh : (n : ℚ) / d < m + 1 / 2 ∨ m % 2 = 0 ∧ (n : ℚ) / d = m + 1 / 2) : roundDiv n d = m := by
  have hd' : (0 : ℚ) < d := by exact_mod_cast hd
  have el : (m : ℚ) - 1 / 2 < n / d ↔ 2 * (m * d) < 2 * n + d := by
    rw [lt_div_iff₀ hd', ← Nat.cast_lt (α := ℚ)]
    push_cast
    constructor <;> intro h <;> linarith
  have eh : (n : ℚ) / d < m + 1 / 2 ↔ 2 * n < 2 * (m * d) + d := by
    rw [div_lt_iff₀ hd', ← Nat.cast_lt (α := ℚ)]
    push_cast
    constructor <;> intro h <;> linarith
  have el' : (m : ℚ) - 1 / 2 = n / d ↔ 2 * (m * d) = 2 * n + d := by
    rw [eq_div_iff hd'.ne', ← Nat.cast_inj (R := ℚ)]
    push_cast
    constructor <;> intro h <;> linarith
  have eh' : (n : ℚ) / d = m + 1 / 2 ↔ 2 * n = 2 * (m * d) + d := by
    rw [div_eq_iff hd'.ne', ← Nat.cast_inj (R := ℚ)]
    push_cast
    constructor <;> intro h <;> linarith
  rw [el, el'] at hl
  rw [eh, eh'] at hh
  refine roundDiv_eq hd (by omega) (by omega) ?_
  rintro (h | h) <;> omega

namespace Binary64

/-! ### Powers -/

/-- A power of an integer exponent as a quotient. -/
theorem zpow_eq_div (b : ℚ) (e : Int) :
    b ^ e = b ^ e.toNat / b ^ (-e).toNat := by
  rcases le_total 0 e with h | h
  · obtain ⟨n, rfl⟩ := Int.eq_ofNat_of_zero_le h
    simp
  · obtain ⟨n, hn⟩ := Int.eq_ofNat_of_zero_le (Int.neg_nonneg.mpr h)
    obtain rfl : e = -n := by omega
    simp

/-- Maps that keep the order keep comparisons. -/
theorem compare_of_lt_iff {α β : Type} [LinearOrder α] [LinearOrder β] {a b : α} {x y : β}
    (hl : a < b ↔ x < y) (hg : b < a ↔ y < x) : compare a b = compare x y := by
  rcases lt_trichotomy a b with h | h | h
  · rw [compare_lt_iff_lt.mpr h, compare_lt_iff_lt.mpr (hl.mp h)]
  · have : x = y := le_antisymm (not_lt.mp fun h' => (hg.mpr h').ne' h)
      (not_lt.mp fun h' => (hl.mpr h').ne h)
    rw [compare_eq_iff_eq.mpr h, compare_eq_iff_eq.mpr this]
  · rw [compare_gt_iff_gt.mpr h, compare_gt_iff_gt.mpr (hg.mp h)]

/-- Comparing products of integers compares the rational numbers they are scaled from. -/
theorem compareScaled_eq (a : Nat) (i : Int) (n : Nat) (j : Int) :
    compareScaled a i n j = compare ((a : ℚ) * 10 ^ i) (n * 2 ^ j) := by
  have h₁ : (0 : ℚ) < 10 ^ (-i).toNat := by positivity
  have h₂ : (0 : ℚ) < 2 ^ (-j).toNat := by positivity
  rw [compareScaled, zpow_eq_div _ i, zpow_eq_div _ j]
  simp only [pow10, pow2, Nat.pow_eq]
  refine compare_of_lt_iff ?_ ?_
  · rw [← mul_div_assoc, ← mul_div_assoc, div_lt_div_iff₀ h₁ h₂]
    exact_mod_cast Iff.rfl
  · rw [← mul_div_assoc, ← mul_div_assoc, div_lt_div_iff₀ h₂ h₁]
    exact_mod_cast Iff.rfl

/-! ### Canonical values -/

/-- The significands and exponents of finite values: normal ones, and those of the least
exponent. -/
structure Canonical (m : Nat) (q : Int) : Prop where
  bound : m < 2 ^ 53
  least : minExponent ≤ q
  greatest : q ≤ maxExponent
  normal : 2 ^ 52 ≤ m ∨ q = minExponent

theorem Canonical.half_lt {m : Nat} {q : Int} (h : Canonical m q) : (m : ℚ) + 1 / 2 < 2 ^ 53 := by
  have : m + 1 ≤ 2 ^ 53 := h.bound
  have : (m : ℚ) + 1 ≤ 2 ^ 53 := by exact_mod_cast this
  linarith

/-- The exponent at which a positive number fills a significand. -/
structure Fills (v : ℚ) (e : Int) : Prop where
  bound : v < 2 ^ 53 * 2 ^ e
  least : minExponent ≤ e
  normal : 2 ^ 52 * (2 : ℚ) ^ e ≤ v ∨ e = minExponent

theorem two_zpow_succ (e : Int) : (2 : ℚ) ^ (e + 1) = 2 * 2 ^ e := by
  rw [zpow_add₀ (by norm_num), zpow_one, mul_comm]

theorem two_zpow_le {e f : Int} (h : e ≤ f) : (2 : ℚ) ^ e ≤ 2 ^ f :=
  zpow_le_zpow_right₀ (by norm_num) h

/-- Only one exponent fills a significand. -/
theorem Fills.unique {v : ℚ} {e f : Int} (he : Fills v e) (hf : Fills v f) : e = f := by
  have step {e f : Int} (he : Fills v e) (hf : Fills v f) (h : e < f) : False := by
    have h₁ := hf.normal.resolve_right (by have := he.least; omega)
    have h₂ : (2 : ℚ) ^ (e + 1) ≤ 2 ^ f := two_zpow_le h
    rw [two_zpow_succ] at h₂
    have h₃ := he.bound
    linarith
  rcases lt_trichotomy e f with h | h | h
  · exact (step he hf h).elim
  · exact h
  · exact (step hf he h).elim

/-- Scaling moves the exponent from the quotient to its numerator or denominator. -/
theorem scaleDown_spec (num : Nat) {den : Nat} (hd : 0 < den) (e : Int) :
    0 < (scaleDown num den e).2 ∧
      ((scaleDown num den e).1 : ℚ) / (scaleDown num den e).2 = num / den / 2 ^ e := by
  have hd' : (den : ℚ) ≠ 0 := by exact_mod_cast hd.ne'
  rw [zpow_eq_div _ e]
  unfold scaleDown
  split
  · next h =>
    refine ⟨Nat.mul_pos hd (Nat.pow_pos (by decide)), ?_⟩
    rw [show (-e).toNat = 0 by omega]
    simp only [pow2, Nat.pow_eq]
    push_cast
    field_simp
  · next h =>
    refine ⟨hd, ?_⟩
    rw [show e.toNat = 0 by omega]
    simp only [pow2, Nat.pow_eq]
    push_cast
    field_simp

theorem two_zpow_sub (a b : Nat) : (2 : ℚ) ^ ((a : Int) - b) = 2 ^ a / 2 ^ b := by
  rw [zpow_sub₀ (by norm_num), zpow_natCast, zpow_natCast]

/-- A quotient lies within a factor of two of the quotient of its leading binary places. -/
theorem quotient_between {num den : Nat} (hn : 0 < num) (hd : 0 < den) :
    2 ^ 51 * (2 : ℚ) ^ ((num.log2 : Int) - den.log2 - 52) < (num : ℚ) / den ∧
      (num : ℚ) / den < 2 ^ 53 * 2 ^ ((num.log2 : Int) - den.log2 - 52) := by
  have hd' : (0 : ℚ) < den := by exact_mod_cast hd
  have nl : (2 : ℚ) ^ num.log2 ≤ num := by exact_mod_cast Nat.log2_self_le hn.ne'
  have nh : (num : ℚ) < 2 ^ (num.log2 + 1) := by exact_mod_cast Nat.lt_log2_self
  have dl : (2 : ℚ) ^ den.log2 ≤ den := by exact_mod_cast Nat.log2_self_le hd.ne'
  have dh : (den : ℚ) < 2 ^ (den.log2 + 1) := by exact_mod_cast Nat.lt_log2_self
  have hp : (0 : ℚ) < 2 ^ den.log2 := by positivity
  have e : (2 : ℚ) ^ ((num.log2 : Int) - den.log2 - 52) =
      2 ^ num.log2 / 2 ^ den.log2 / 2 ^ 52 := by
    rw [zpow_sub₀ (by norm_num), two_zpow_sub]
    norm_num
  rw [pow_succ] at nh dh
  rw [e]
  constructor
  · rw [lt_div_iff₀ hd']
    calc 2 ^ 51 * ((2 : ℚ) ^ num.log2 / 2 ^ den.log2 / 2 ^ 52) * den
        = 2 ^ num.log2 * (den / (2 ^ den.log2 * 2)) := by field_simp
      _ < 2 ^ num.log2 * 1 := by
          refine mul_lt_mul_of_pos_left ?_ (by positivity)
          rw [div_lt_iff₀ (by positivity), one_mul]
          exact dh
      _ ≤ num := by rw [mul_one]; exact nl
  · rw [div_lt_iff₀ hd']
    calc (num : ℚ) < 2 ^ num.log2 * 2 := nh
      _ ≤ 2 ^ num.log2 * 2 * (den / 2 ^ den.log2) := by
          refine le_mul_of_one_le_right (by positivity) ?_
          rw [le_div_iff₀ hp, one_mul]
          exact dl
      _ = 2 ^ 53 * (2 ^ num.log2 / 2 ^ den.log2 / 2 ^ 52) * den := by field_simp

/-- **The exponent that rounding takes is the one at which the quotient fills a significand.** -/
theorem fills_fillExponent {num den : Nat} (hn : 0 < num) (hd : 0 < den) :
    Fills ((num : ℚ) / den) (fillExponent num den) := by
  obtain ⟨hl, hh⟩ := quotient_between hn hd
  unfold fillExponent
  simp only
  generalize (num.log2 : Int) - den.log2 - 52 = e at *
  obtain ⟨hs, es⟩ := scaleDown_spec num hd e
  have hs' : (0 : ℚ) < (scaleDown num den e).2 := by exact_mod_cast hs
  have hp : (0 : ℚ) < 2 ^ e := by positivity
  -- the first guess is one too high exactly when the quotient lies below it
  have guess : (scaleDown num den e).1 < (scaleDown num den e).2 * pow2 52 ↔
      (num : ℚ) / den < 2 ^ 52 * 2 ^ e := by
    rw [← div_lt_iff₀ hp, ← es, div_lt_iff₀ hs']
    simp only [pow2, Nat.pow_eq]
    rw [mul_comm]
    exact_mod_cast Iff.rfl
  have best (f : Int) (h₁ : 2 ^ 52 * (2 : ℚ) ^ f ≤ (num : ℚ) / den)
      (h₂ : (num : ℚ) / den < 2 ^ 53 * 2 ^ f) : Fills ((num : ℚ) / den) (max minExponent f) := by
    rcases le_total minExponent f with h | h
    · rw [max_eq_right h]
      exact ⟨h₂, h, .inl h₁⟩
    · rw [max_eq_left h]
      exact ⟨h₂.trans_le (mul_le_mul_of_nonneg_left (two_zpow_le h) (by norm_num)), le_refl _,
        .inr rfl⟩
  split
  · next h =>
    have h := guess.mp h
    have e' : (2 : ℚ) ^ e = 2 * 2 ^ (e - 1) := by rw [← two_zpow_succ, sub_add_cancel]
    rw [e'] at hl h
    exact best _ (by linarith) (by linarith)
  · next h =>
    have h := not_lt.mp (mt guess.mpr h)
    exact best _ h hh

/-! ### The numbers nearest to a value -/

/-- How far below a significand the numbers nearest to it reach: half the way to the one below,
which is nearer where the exponent changes. -/
def gap (m : Nat) (q : Int) : ℚ := if m = 2 ^ 52 ∧ minExponent < q then 1 / 4 else 1 / 2

/-- The numbers that round to `m · 2 ^ q`: ties go to even significands. -/
structure Rounds (m : Nat) (q : Int) (v : ℚ) : Prop where
  low : (m - gap m q) * 2 ^ q < v ∨ m % 2 = 0 ∧ (m - gap m q) * 2 ^ q = v
  high : v < (m + 1 / 2) * 2 ^ q ∨ m % 2 = 0 ∧ v = (m + 1 / 2) * 2 ^ q

/-- Below a power of two the values are twice as close. -/
theorem gap_cases (m : Nat) (q : Int) :
    (m = 2 ^ 52 ∧ minExponent < q ∧ gap m q = 1 / 4) ∨ gap m q = 1 / 2 := by
  unfold gap
  split
  · next h => exact .inl ⟨h.1, h.2, rfl⟩
  · exact .inr rfl

theorem gap_le (m : Nat) (q : Int) : 1 / 4 ≤ gap m q ∧ gap m q ≤ 1 / 2 := by
  rcases gap_cases m q with ⟨-, -, h⟩ | h <;> rw [h] <;> norm_num

/-- A value is among the numbers nearest to it. -/
theorem rounds_self (m : Nat) (q : Int) : Rounds m q (m * 2 ^ q) := by
  have hp : (0 : ℚ) < 2 ^ q := by positivity
  have hg := (gap_le m q).1
  refine ⟨.inl (mul_lt_mul_of_pos_right (by linarith) hp), .inl (mul_lt_mul_of_pos_right ?_ hp)⟩
  linarith

/-- The numbers nearest to a value lie in a closed interval around it. -/
theorem Rounds.bounds {m : Nat} {q : Int} {v : ℚ} (h : Rounds m q v) :
    (m - gap m q) * 2 ^ q ≤ v ∧ v ≤ (m + 1 / 2) * 2 ^ q :=
  ⟨h.low.elim le_of_lt fun h => h.2.le, h.high.elim le_of_lt fun h => h.2.le⟩

theorem Rounds.pos {m : Nat} {q : Int} {v : ℚ} (h : Rounds m q v) (hm : 0 < m) : 0 < v := by
  have hp : (0 : ℚ) < 2 ^ q := by positivity
  have hm' : (1 : ℚ) ≤ m := by exact_mod_cast hm
  have hg := (gap_le m q).2
  exact (mul_pos (by linarith) hp).trans_le h.bounds.1

/-- Rounding at a given exponent. -/
theorem ofRatio_of_fills {num den : Nat} {e : Int} (hn : 0 < num) (hd : 0 < den)
    (he : Fills ((num : ℚ) / den) e) (negative : Bool) {w : Nat}
    (hw : roundDiv (scaleDown num den e).1 (scaleDown num den e).2 = w) :
    ofRatio negative num den =
      let (m, e) := if w = significandBound then (significandBound / 2, e + 1) else (w, e)
      if maxExponent < e then .infinite negative else .finite negative m e := by
  rw [ofRatio, if_neg hn.ne', (fills_fillExponent hn hd).unique he]
  simp only [hw]

/-- A quotient that fills a significand at the exponent of the value it is nearest to. -/
theorem ofRatio_eq_of_fills {num den m : Nat} {q : Int} (hn : 0 < num) (hd : 0 < den)
    (hc : Canonical m q) (h : Rounds m q ((num : ℚ) / den)) (hfill : Fills ((num : ℚ) / den) q)
    (negative : Bool) :
    ofRatio negative num den = .finite negative m q := by
  have hp : (0 : ℚ) < 2 ^ q := by positivity
  obtain ⟨hs, es⟩ := scaleDown_spec num hd q
  have hw : roundDiv (scaleDown num den q).1 (scaleDown num den q).2 = m := by
    refine roundDiv_eq_of_rat hs ?_ ?_
    · rw [es, lt_div_iff₀ hp, eq_div_iff hp.ne']
      rcases gap_cases m q with ⟨-, -, hg⟩ | hg
      · refine .inl (lt_of_lt_of_le (mul_lt_mul_of_pos_right ?_ hp) h.bounds.1)
        rw [hg]
        norm_num
      · have := h.low
        rwa [hg] at this
    · rw [es, div_lt_iff₀ hp, div_eq_iff hp.ne']
      exact h.high
  have hsig : significandBound = 2 ^ 53 := rfl
  rw [ofRatio_of_fills hn hd hfill negative hw, if_neg (by rw [hsig]; exact hc.bound.ne)]
  exact if_neg (by have := hc.greatest; omega)

/-- A quotient that lies below the power of two it is nearest to: there the values are twice as
close, and the rounded significand is carried into the next exponent. -/
theorem ofRatio_eq_of_below {num den : Nat} {q : Int} (hn : 0 < num) (hd : 0 < den)
    (hq : minExponent < q) (hq' : q ≤ maxExponent)
    (hlow : (2 ^ 52 - 1 / 4) * (2 : ℚ) ^ q ≤ (num : ℚ) / den)
    (hhigh : (num : ℚ) / den < 2 ^ 52 * 2 ^ q) (negative : Bool) :
    ofRatio negative num den = .finite negative (2 ^ 52) q := by
  have e₁ : (2 : ℚ) ^ q = 2 * 2 ^ (q - 1) := by rw [← two_zpow_succ, sub_add_cancel]
  have hp : (0 : ℚ) < 2 ^ (q - 1) := by positivity
  rw [e₁] at hlow hhigh
  have hfill : Fills ((num : ℚ) / den) (q - 1) := ⟨by linarith, by omega, .inl (by linarith)⟩
  obtain ⟨hs, es⟩ := scaleDown_spec num hd (q - 1)
  have hw : roundDiv (scaleDown num den (q - 1)).1 (scaleDown num den (q - 1)).2 = 2 ^ 53 := by
    refine roundDiv_eq_of_rat hs ?_ (.inl ?_)
    · rw [es, lt_div_iff₀ hp, eq_div_iff hp.ne']
      push_cast
      rcases hlow.lt_or_eq with h | h
      · exact .inl (by linarith)
      · exact .inr ⟨by norm_num, by linarith⟩
    · rw [es, div_lt_iff₀ hp]
      push_cast
      linarith
  have hsig : 2 ^ 53 = significandBound := rfl
  have hhalf : significandBound / 2 = 2 ^ 52 := rfl
  rw [ofRatio_of_fills hn hd hfill negative hw, if_pos hsig]
  simp only [sub_add_cancel, hhalf]
  exact if_neg (by omega)

/-- A number nearest to a value but below all that fill a significand at its exponent: the value is
a power of two. -/
theorem Rounds.below {m : Nat} {q : Int} {v : ℚ} (h : Rounds m q v) (hc : Canonical m q)
    (hq : q ≠ minExponent) (hlt : v < 2 ^ 52 * 2 ^ q) :
    m = 2 ^ 52 ∧ (2 ^ 52 - 1 / 4) * (2 : ℚ) ^ q ≤ v := by
  have hlow := h.bounds.1
  have hm : m = 2 ^ 52 := by
    have h52 := hc.normal.resolve_right hq
    by_contra hne
    have : 2 ^ 52 + 1 ≤ m := by omega
    have : (2 : ℚ) ^ 52 + 1 ≤ m := by exact_mod_cast this
    have hgap := (gap_le m q).2
    have : 2 ^ 52 * (2 : ℚ) ^ q ≤ (m - gap m q) * 2 ^ q :=
      mul_le_mul_of_nonneg_right (by linarith) (by positivity)
    linarith
  have hg : gap m q = 1 / 4 := if_pos ⟨hm, lt_of_le_of_ne hc.least (Ne.symm hq)⟩
  rw [hg, hm] at hlow
  push_cast at hlow
  exact ⟨hm, hlow⟩

/-- **Rounding a quotient** gives the value that the quotient is nearest to. -/
theorem ofRatio_eq {num den m : Nat} {q : Int} (hd : 0 < den) (hc : Canonical m q) (hm : 0 < m)
    (h : Rounds m q ((num : ℚ) / den)) (negative : Bool) :
    ofRatio negative num den = .finite negative m q := by
  have hn : 0 < num := by
    have := h.pos hm
    rcases Nat.eq_zero_or_pos num with rfl | hn
    · simp at this
    · exact hn
  have hbound : (num : ℚ) / den < 2 ^ 53 * 2 ^ q :=
    h.bounds.2.trans_lt (mul_lt_mul_of_pos_right (hc.half_lt) (by positivity))
  by_cases hnormal : 2 ^ 52 * (2 : ℚ) ^ q ≤ (num : ℚ) / den ∨ q = minExponent
  · exact ofRatio_eq_of_fills hn hd hc h ⟨hbound, hc.least, hnormal⟩ negative
  · rw [not_or, not_le] at hnormal
    obtain ⟨rfl, hlow⟩ := h.below hc hnormal.2 hnormal.1
    exact ofRatio_eq_of_below hn hd (lt_of_le_of_ne hc.least (Ne.symm hnormal.2)) hc.greatest hlow
      hnormal.1 negative

/-- A rounded quotient is within half a unit. -/
theorem roundDiv_between {n d : Nat} (hd : 0 < d) :
    (roundDiv n d : ℚ) - 1 / 2 ≤ n / d ∧ (n : ℚ) / d ≤ roundDiv n d + 1 / 2 := by
  obtain ⟨h₁, h₂⟩ := roundDiv_near n hd
  have hd' : (0 : ℚ) < d := by exact_mod_cast hd
  have h₁ : (2 * (roundDiv n d * d) : ℚ) ≤ 2 * n + d := by exact_mod_cast h₁
  have h₂ : (2 * n : ℚ) ≤ 2 * (roundDiv n d * d) + d := by exact_mod_cast h₂
  rw [le_div_iff₀ hd', div_le_iff₀ hd']
  exact ⟨by linarith, by linarith⟩

/-- A number that fills a significand rounds to one, or to the bound of all. -/
theorem Fills.rounded {num den : Nat} {e : Int} (h : Fills ((num : ℚ) / den) e) (hd : 0 < den) :
    let w := roundDiv (scaleDown num den e).1 (scaleDown num den e).2
    w ≤ 2 ^ 53 ∧ (2 ^ 52 ≤ w ∨ e = minExponent) := by
  intro w
  have hp : (0 : ℚ) < 2 ^ e := by positivity
  obtain ⟨hs, es⟩ := scaleDown_spec num hd e
  obtain ⟨h₁, h₂⟩ := roundDiv_between (n := (scaleDown num den e).1) hs
  rw [es] at h₁ h₂
  change (w : ℚ) - 1 / 2 ≤ _ at h₁
  change _ ≤ (w : ℚ) + 1 / 2 at h₂
  constructor
  · have hx : (num : ℚ) / den / 2 ^ e < 2 ^ 53 := (div_lt_iff₀ hp).mpr h.bound
    have : (w : ℚ) < 2 ^ 53 + 1 := by linarith
    have : w < 2 ^ 53 + 1 := by exact_mod_cast this
    omega
  · refine h.normal.imp_left fun hnormal => ?_
    have hx : (2 : ℚ) ^ 52 ≤ (num : ℚ) / den / 2 ^ e := (le_div_iff₀ hp).mpr hnormal
    have : (2 : ℚ) ^ 52 < w + 1 := by linarith
    have : 2 ^ 52 < w + 1 := by exact_mod_cast this
    omega

/-- **Rounding gives canonical values.** -/
theorem canonical_of_ofRatio {negative n : Bool} {num den m : Nat} {e : Int} (hd : 0 < den)
    (h : ofRatio negative num den = .finite n m e) : Canonical m e ∧ n = negative := by
  rcases Nat.eq_zero_or_pos num with rfl | hn
  · cases h
    exact ⟨⟨by decide, by decide, by decide, .inr rfl⟩, rfl⟩
  · have hf := fills_fillExponent hn hd
    generalize fillExponent num den = f at hf
    obtain ⟨hw, hnormal⟩ := hf.rounded hd
    rw [ofRatio_of_fills hn hd hf negative rfl] at h
    generalize roundDiv (scaleDown num den f).1 (scaleDown num den f).2 = w at h hw hnormal
    have hleast := hf.least
    split at h
    next w' e' hwe =>
    split at hwe
    · -- the significand is carried into the next exponent
      cases hwe
      split at h
      · cases h
      · cases h
        exact ⟨⟨by decide, by omega, by omega, .inl (by decide)⟩, rfl⟩
    · next hc =>
      cases hwe
      split at h
      · cases h
      · cases h
        exact ⟨⟨lt_of_le_of_ne hw hc, hleast, by omega, hnormal⟩, rfl⟩

/-! ### Decimals -/

/-- A power of ten below one lies below the same power of eight. -/
theorem ten_zpow_le {e : Int} (h : e ≤ 0) : (10 : ℚ) ^ e ≤ 2 ^ (3 * e) := by
  obtain ⟨n, hn⟩ := Int.eq_ofNat_of_zero_le (Int.neg_nonneg.mpr h)
  obtain rfl : e = -n := by omega
  rw [show 3 * (-(n : Int)) = -((3 * n : Nat) : Int) by push_cast; ring, zpow_neg, zpow_neg,
    zpow_natCast, zpow_natCast, pow_mul]
  refine inv_anti₀ (by positivity) ?_
  exact pow_le_pow_left₀ (by norm_num) (by norm_num) n

/-- A decimal of moderate size is rounded as the quotient of two natural numbers. -/
theorem ofRatio_of_ofDecimal (negative : Bool) {digits : Nat} {exponent : Int}
    (h₀ : digits ≠ 0) (h₁ : ¬309 < exponent)
    (h₂ : ¬(digits.log2 : Int) + 3 * exponent < -1080) :
    ∃ num den : Nat, 0 < den ∧ (num : ℚ) / den = digits * 10 ^ exponent ∧
      ofDecimal negative digits exponent = ofRatio negative num den := by
  rw [ofDecimal, if_neg h₀, if_neg h₁, if_neg h₂]
  rw [zpow_eq_div _ exponent]
  split
  · next h =>
    refine ⟨_, _, by decide, ?_, rfl⟩
    rw [show (-exponent).toNat = 0 by omega, pow_zero, div_one, Nat.cast_one, div_one, pow10,
      Nat.pow_eq]
    push_cast
    rfl
  · next h =>
    refine ⟨_, _, Nat.pow_pos (by decide), ?_, rfl⟩
    rw [show exponent.toNat = 0 by omega]
    push_cast
    rw [pow_zero, mul_one_div]

/-- **What a decimal rounds to**: zero if it is zero or far too small, the infinite value if its
power of ten is far too large, and otherwise what a quotient of its size rounds to. -/
inductive DecimalRounds (negative : Bool) (digits : Nat) (exponent : Int) : Binary64 → Prop where
  | zero (h : digits = 0 ∨ (digits.log2 : Int) + 3 * exponent < -1080) :
      DecimalRounds negative digits exponent (.zero negative)
  | infinite (h₀ : digits ≠ 0) (h : 309 < exponent) :
      DecimalRounds negative digits exponent (.infinite negative)
  | quotient {num den : Nat} (hd : 0 < den) (hv : (num : ℚ) / den = digits * 10 ^ exponent) :
      DecimalRounds negative digits exponent (ofRatio negative num den)

theorem decimalRounds_ofDecimal (negative : Bool) (digits : Nat) (exponent : Int) :
    DecimalRounds negative digits exponent (ofDecimal negative digits exponent) := by
  by_cases h₀ : digits = 0
  · rw [ofDecimal, if_pos h₀]
    exact .zero (.inl h₀)
  · by_cases h₁ : 309 < exponent
    · rw [ofDecimal, if_neg h₀, if_pos h₁]
      exact .infinite h₀ h₁
    · by_cases h₂ : (digits.log2 : Int) + 3 * exponent < -1080
      · rw [ofDecimal, if_neg h₀, if_neg h₁, if_pos h₂]
        exact .zero (.inr h₂)
      · obtain ⟨num, den, hd, hv, e⟩ := ofRatio_of_ofDecimal negative h₀ h₁ h₂
        rw [e]
        exact .quotient hd hv

/-- A large power of ten lies beyond all that rounds to a finite value. -/
theorem lt_ten_zpow {e : Int} (h : 309 < e) : (2 : ℚ) ^ 53 * 2 ^ (971 : Int) < 10 ^ e := by
  have hlt : 2 ^ 53 * 2 ^ 971 < 10 ^ 310 := by decide +kernel
  calc (2 : ℚ) ^ 53 * 2 ^ (971 : Int) < 10 ^ (310 : Int) := by
        rw [zpow_ofNat, zpow_ofNat]
        exact_mod_cast hlt
    _ ≤ 10 ^ e := zpow_le_zpow_right₀ (by norm_num) (by omega)

/-- A decimal that is nearest to a finite value has no large exponent. -/
theorem Rounds.exponent_le {digits m : Nat} {exponent q : Int}
    (h : Rounds m q (digits * 10 ^ exponent)) (hc : Canonical m q) (h₀ : digits ≠ 0) :
    exponent ≤ 309 := by
  have hd : (1 : ℚ) ≤ digits := by exact_mod_cast Nat.pos_of_ne_zero h₀
  by_contra he
  have hq : (2 : ℚ) ^ q ≤ 2 ^ (971 : Int) := two_zpow_le hc.greatest
  have : (10 : ℚ) ^ exponent ≤ 2 ^ 53 * 2 ^ (971 : Int) :=
    calc (10 : ℚ) ^ exponent ≤ digits * 10 ^ exponent := le_mul_of_one_le_left (by positivity) hd
      _ ≤ (m + 1 / 2) * 2 ^ q := h.bounds.2
      _ ≤ 2 ^ 53 * 2 ^ (971 : Int) := mul_le_mul hc.half_lt.le hq (by positivity) (by positivity)
  exact absurd (lt_ten_zpow (not_le.mp he)) (not_lt.mpr this)

theorem lt_two_zpow_log2 (n : Nat) : (n : ℚ) < 2 ^ ((n.log2 : Int) + 1) := by
  rw [show (n.log2 : Int) + 1 = ((n.log2 + 1 : Nat) : Int) by push_cast; rfl, zpow_natCast]
  exact_mod_cast Nat.lt_log2_self

/-- A decimal of few places and a low exponent lies below half the least positive value. -/
theorem decimal_lt {digits : Nat} {exponent : Int}
    (h : (digits.log2 : Int) + 3 * exponent < -1080) :
    (digits : ℚ) * 10 ^ exponent < 2 ^ (-1079 : Int) :=
  calc (digits : ℚ) * 10 ^ exponent
      ≤ digits * 2 ^ (3 * exponent) :=
        mul_le_mul_of_nonneg_left (ten_zpow_le (by omega)) (by positivity)
    _ < 2 ^ ((digits.log2 : Int) + 1) * 2 ^ (3 * exponent) :=
        mul_lt_mul_of_pos_right (lt_two_zpow_log2 digits) (by positivity)
    _ = 2 ^ ((digits.log2 : Int) + 1 + 3 * exponent) :=
        (zpow_add₀ (by norm_num) _ _).symm
    _ ≤ 2 ^ (-1079 : Int) := two_zpow_le (by omega)

/-- A decimal that is nearest to a value but zero is not too small for one. -/
theorem Rounds.le_log2 {digits m : Nat} {exponent q : Int}
    (h : Rounds m q (digits * 10 ^ exponent)) (hc : Canonical m q) (hm : 0 < m) :
    -1080 ≤ (digits.log2 : Int) + 3 * exponent := by
  by_contra he
  have hsmall := decimal_lt (not_le.mp he)
  have hq : (2 : ℚ) ^ (-1074 : Int) ≤ 2 ^ q := two_zpow_le hc.least
  have hg := (gap_le m q).2
  have hm' : (1 : ℚ) ≤ m := by exact_mod_cast hm
  have hlarge : (1 / 2 : ℚ) * 2 ^ (-1074 : Int) ≤ digits * 10 ^ exponent :=
    (mul_le_mul (by linarith) hq (by positivity) (by linarith)).trans h.bounds.1
  have e : (2 : ℚ) ^ (-1074 : Int) = 2 ^ (5 : Int) * 2 ^ (-1079 : Int) := by
    rw [← zpow_add₀ (by norm_num)]
    norm_num
  have hp : (0 : ℚ) < 2 ^ (-1079 : Int) := by positivity
  rw [e] at hlarge
  generalize (2 : ℚ) ^ (-1079 : Int) = x at *
  norm_num at hlarge
  linarith

/-- **Rounding a decimal** gives the value that the decimal is nearest to. -/
theorem ofDecimal_eq {digits m : Nat} {exponent q : Int} (hc : Canonical m q) (hm : 0 < m)
    (h : Rounds m q (digits * 10 ^ exponent)) (negative : Bool) :
    ofDecimal negative digits exponent = .finite negative m q := by
  have h₀ : digits ≠ 0 := by
    rintro rfl
    simpa using h.pos hm
  obtain ⟨num, den, hden, hv, e⟩ := ofRatio_of_ofDecimal negative h₀
    (not_lt.mpr (h.exponent_le hc h₀)) (not_lt.mpr (h.le_log2 hc hm))
  rw [e]
  exact ofRatio_eq hden hc hm (hv ▸ h) negative

/-- Rounding a decimal gives a canonical value with the sign of the decimal. -/
theorem canonical_of_ofDecimal {negative n : Bool} {digits m : Nat} {exponent e : Int}
    (h : ofDecimal negative digits exponent = .finite n m e) : Canonical m e ∧ n = negative := by
  have rounds := decimalRounds_ofDecimal negative digits exponent
  generalize ofDecimal negative digits exponent = x at h rounds
  cases rounds with
  | zero =>
      cases h
      exact ⟨⟨by decide, by decide, by decide, .inr rfl⟩, rfl⟩
  | infinite => cases h
  | quotient hd => exact canonical_of_ofRatio hd h

end Binary64
end SearchFilters
