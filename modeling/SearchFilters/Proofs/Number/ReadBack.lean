import Mathlib.Data.List.Induction
import SearchFilters.Number.Basic
import SearchFilters.Proofs.Number.Nearest
import SearchFilters.Proofs.Number.Numeral
import SearchFilters.Proofs.Number.Plain
import SearchFilters.Proofs.Number.Text

/-!
# Proofs — Number — ReadBack

The texts of floating-point values read back.

The text of a value is made of the shortest decimal that the search for it accepts, and the search
accepts a decimal if comparing integers says that it lies in the interval of the value.
`rounds_of_readsBack` turns that test into the numbers that round to the value, and
`rounds_shortest` says that the decimal is one of them, as is the value written out where the search
finds nothing shorter.  It remains that the text stands for the decimal: laying digits out moves the
point and adds zeros (`layOut_positional`), and a text without an exponent is read as the value that
its number rounds to (`ofPlain?_layOut`).

Numbers behind the mark of a modifier are written in this way or, if they are whole, as integers
(`modifierText_reads`).  The proximity of a phrase is the whole part of a value, which is a value
again (`exists_canonical_truncate`).  And an integer that is read is within the digit limit
(`Numeral.short_of_read`), so that it can be written.
-/

namespace SearchFilters
namespace Binary64
open Text Numeral

/-! ### The shortest decimal -/

/-- The number that a decimal stands for. -/
def Decimal.value (d : Decimal) : ℚ := d.digits * 10 ^ d.exponent

/-- Two places below the last one, units are quarters. -/
theorem quarters (x : ℚ) (q : Int) : 4 * x * 2 ^ (q - 2) = x * 2 ^ q := by
  rw [zpow_sub₀ (by norm_num)]
  norm_num
  ring

/-- Comparing a decimal with quarters of a unit is comparing its value. -/
theorem compareScaled_quarters (d : Decimal) {n : Nat} {x : ℚ} (q : Int) (h : (n : ℚ) = 4 * x) :
    compareScaled d.digits d.exponent n (q - 2) = compare d.value (x * 2 ^ q) := by
  rw [compareScaled_eq, h, quarters]
  rfl

/-- The test of the search finds the numbers that round to a value. -/
theorem rounds_of_readsBack {m : Nat} {q : Int} {d : Decimal} (hm : 0 < m)
    (h : readsBack m q d = true) : Rounds m q d.value := by
  have hl : ((if m = significandBound / 2 ∧ minExponent < q then 4 * m - 1 else 4 * m - 2 : Nat) :
      ℚ) = 4 * (m - gap m q) := by
    have e : significandBound / 2 = 2 ^ 52 := by decide
    rw [gap, e]
    split
    · rw [Nat.cast_sub (by omega)]
      push_cast
      ring
    · rw [Nat.cast_sub (by omega)]
      push_cast
      ring
  have hh : ((4 * m + 2 : Nat) : ℚ) = 4 * (m + 1 / 2) := by
    push_cast
    ring
  simp only [readsBack, compareScaled_quarters d q hl, compareScaled_quarters d q hh,
    Bool.and_eq_true, Bool.or_eq_true, beq_iff_eq] at h
  exact ⟨h.1.imp compare_gt_iff_gt.mp fun ⟨e, h⟩ => ⟨e, (compare_eq_iff_eq.mp h).symm⟩,
    h.2.imp compare_lt_iff_lt.mp fun ⟨e, h⟩ => ⟨e, compare_eq_iff_eq.mp h⟩⟩

/-- What the search finds on a grid has passed the test. -/
theorem readsBack_of_nearestOnGrid? {m : Nat} {q g : Int} {d : Decimal}
    (h : nearestOnGrid? m q g = some d) : readsBack m q d = true := by
  unfold nearestOnGrid? at h
  simp only at h
  split at h
  · next hl hh =>
    rw [Bool.and_eq_true] at hl
    split at h
    · cases h
      exact hl.2
    · cases h
      exact hh
    · split at h
      · cases h
        exact hl.2
      · cases h
        exact hh
  · next hl _ =>
    rw [Bool.and_eq_true] at hl
    cases h
    exact hl.2
  · next _ hh =>
    cases h
    exact hh
  · cases h

/-- A value written out: a power of two is a power of ten without its fives. -/
theorem value_exact (m : Nat) (q : Int) :
    Decimal.value ⟨m * pow2 q.toNat * Nat.pow 5 (-q).toNat, if q < 0 then q else 0⟩ =
      m * 2 ^ q := by
  unfold Decimal.value
  simp only [pow2, Nat.pow_eq]
  push_cast
  split
  · next hq =>
    obtain ⟨n, hn⟩ := Int.eq_ofNat_of_zero_le (show 0 ≤ -q by omega)
    obtain rfl : q = -n := by omega
    have : (5 : ℚ) ^ n * (10 ^ n)⁻¹ = (2 ^ n)⁻¹ := by
      rw [show (10 : ℚ) = 5 * 2 by norm_num, mul_pow]
      field_simp
    simp only [neg_neg, Int.toNat_natCast, zpow_neg, zpow_natCast]
    rw [show (-(n : Int)).toNat = 0 by omega, pow_zero, mul_one, mul_assoc, this]
  · next hq =>
    obtain ⟨n, rfl⟩ := Int.eq_ofNat_of_zero_le (not_lt.mp hq)
    simp

/-- **The shortest decimal of a value** is among the numbers nearest to it. -/
theorem rounds_shortest {m : Nat} (q : Int) (hm : 0 < m) : Rounds m q (shortest m q).value := by
  unfold shortest
  simp only
  cases e : (List.range 17).findSome? fun (n : Nat) =>
      nearestOnGrid? m q (magnitude m q - (n + 1)) with
  | some d =>
      obtain ⟨_, _, _, -, h, -⟩ := List.findSome?_eq_some_iff.mp e
      exact rounds_of_readsBack hm (readsBack_of_nearestOnGrid? h)
  | none =>
      rw [Option.getD_none, value_exact]
      exact rounds_self m q

/-! ### Positional texts -/

theorem value_append (a b : List Char) :
    Numeral.value (a ++ b) = Numeral.value a * 10 ^ b.length + Numeral.value b := by
  induction b using List.reverseRecOn with
  | nil => simp [Numeral.value]
  | append_singleton b c ih =>
      rw [← List.append_assoc, value_append_singleton, ih, value_append_singleton,
        List.length_append, List.length_singleton]
      ring

theorem value_zeros (n : Nat) : Numeral.value (List.replicate n '0') = 0 := by
  induction n with
  | zero => rfl
  | succ n ih =>
      rw [List.replicate_succ', value_append_singleton, ih]
      decide

/-- Digits are those that are left without the zeros at their end, and these zeros. -/
theorem dropZeros_append (ds : List Char) :
    ∃ n, dropZeros ds ++ List.replicate n '0' = ds := by
  refine ⟨(ds.reverse.takeWhile (· == '0')).length, List.reverse_injective ?_⟩
  have zeros : ds.reverse.takeWhile (· == '0') =
      List.replicate (ds.reverse.takeWhile (· == '0')).length '0' := by
    refine List.eq_replicate_iff.mpr ⟨rfl, fun c hc => ?_⟩
    exact beq_iff_eq.mp (List.all_eq_true.mp List.all_takeWhile c hc)
  rw [List.reverse_append, List.reverse_replicate, ← zeros, dropZeros, List.reverse_reverse,
    List.takeWhile_append_dropWhile]

/-- The number that digits before and after a point stand for. -/
def pointed (w f : List Char) : ℚ := Numeral.value (w ++ f) * 10 ^ (-(f.length : Int))

/-- Digits with a point read as the value that their number rounds to. -/
theorem ofDigits_eq {w f : List Char} {m : Nat} {q : Int} (hc : Canonical m q) (hm : 0 < m)
    (h : Rounds m q (pointed w f)) : ofDigits false w f 0 = .finite false m q := by
  refine ofDecimal_eq hc hm ?_ false
  rw [zero_sub]
  exact h

/-- **A positional text** has its point where it should stand. -/
theorem layOut_positional {ds : List Char} (hds : ∀ c ∈ ds, isDigit c = true) {point : Int}
    (hp : ¬(point < -3 ∨ 16 < point)) :
    ∃ w f, layOut ds point = w ++ '.' :: f ∧ (∀ c ∈ w, isDigit c = true) ∧
      (∀ c ∈ f, isDigit c = true) ∧ (ds ≠ [] → f ≠ []) ∧
      pointed w f = Numeral.value ds * 10 ^ (point - ds.length) := by
  have zeros (n : Nat) : ∀ c ∈ List.replicate n '0', isDigit c = true := fun c hc =>
    List.eq_of_mem_replicate hc ▸ (by decide)
  have zero : ∀ c ∈ ['0'], isDigit c = true := List.forall_mem_singleton.mpr (by decide)
  have both {p : Char → Prop} {a b : List Char} (ha : ∀ c ∈ a, p c) (hb : ∀ c ∈ b, p c) :
      ∀ c ∈ a ++ b, p c := fun c hc => (List.mem_append.mp hc).elim (ha c) (hb c)
  rw [layOut.eq_def, if_neg hp]
  split
  · next h =>
    refine ⟨['0'], List.replicate (-point).toNat '0' ++ ds, rfl, zero, both (zeros _) hds,
      fun hne => List.append_ne_nil_of_right_ne_nil _ hne, ?_⟩
    have e : Numeral.value (['0'] ++ (List.replicate (-point).toNat '0' ++ ds)) =
        Numeral.value ds := by
      rw [← List.append_assoc, value_append, ← List.replicate_one, List.replicate_append_replicate,
        value_zeros, zero_mul, zero_add]
    rw [pointed, e, List.length_append, List.length_replicate]
    congr 2
    push_cast
    omega
  · next h =>
    split
    · next hl =>
      refine ⟨ds ++ List.replicate (point.toNat - ds.length) '0', ['0'], by simp,
        both hds (zeros _), zero, fun _ => List.cons_ne_nil _ _, ?_⟩
      rw [pointed, List.append_assoc, ← List.replicate_one, List.replicate_append_replicate,
        value_append, value_zeros, List.length_replicate]
      have e : point - ds.length = ((point.toNat - ds.length + 1 : Nat) : Int) - 1 := by omega
      rw [e, zpow_sub₀ (by norm_num), zpow_natCast, List.length_replicate]
      push_cast
      field_simp
      simp
    · next hl =>
      refine ⟨ds.take point.toNat, ds.drop point.toNat, rfl,
        fun c hc => hds c (List.mem_of_mem_take hc), fun c hc => hds c (List.mem_of_mem_drop hc),
        fun _ => ?_, ?_⟩
      · intro e
        have := List.drop_eq_nil_iff.mp e
        omega
      · rw [pointed, List.take_append_drop, List.length_drop]
        congr 2
        omega

/-- Such a text reads as the value that its number rounds to. -/
theorem ofPlain?_layOut {ds : List Char} (hds : ∀ c ∈ ds, isDigit c = true) (hne : ds ≠ [])
    {point : Int} (hp : ¬(point < -3 ∨ 16 < point)) {m : Nat} {q : Int} (hc : Canonical m q)
    (hm : 0 < m) (h : Rounds m q (Numeral.value ds * 10 ^ (point - ds.length))) :
    ofPlain? (layOut ds point) = some (.finite false m q) := by
  obtain ⟨w, f, e, hw, hf, hfn, hv⟩ := layOut_positional hds hp
  have hs := spanPlain_fraction hw hf (hfn hne) (t := []) trivial
  rw [List.append_nil] at hs
  rw [ofPlain?, e, hs]
  exact congrArg some (ofDigits_eq hc hm (hv ▸ h))

/-- Far from its digits the point is told by an exponent. -/
theorem mem_layOut_exponent {ds : List Char} (hne : ds ≠ []) {point : Int}
    (hp : point < -3 ∨ 16 < point) : 'e' ∈ layOut ds point := by
  have he (e : Int) : 'e' ∈ exponentText e := List.mem_cons_self ..
  rw [layOut.eq_def, if_pos hp]
  split
  · exact absurd rfl hne
  · exact List.mem_cons_of_mem _ (he _)
  · exact List.mem_append_right _ (he _)

/-- Zeros left out at the end of the digits of a decimal move its point. -/
theorem Decimal.value_dropZeros (d : Decimal) :
    (Numeral.value (dropZeros (ofNat d.digits)) : ℚ) *
      10 ^ ((ofNat d.digits).length + d.exponent - (dropZeros (ofNat d.digits)).length) =
        d.value := by
  obtain ⟨n, hn⟩ := dropZeros_append (ofNat d.digits)
  have hlen : (ofNat d.digits).length = (dropZeros (ofNat d.digits)).length + n := by
    rw [← hn, List.length_append, List.length_replicate, hn]
  have hval : d.digits = Numeral.value (dropZeros (ofNat d.digits)) * 10 ^ n := by
    have := value_append (dropZeros (ofNat d.digits)) (List.replicate n '0')
    rwa [hn, value_ofNat, value_zeros, List.length_replicate, add_zero] at this
  have hval : (d.digits : ℚ) = Numeral.value (dropZeros (ofNat d.digits)) * 10 ^ n := by
    exact_mod_cast hval
  rw [Decimal.value, hval, hlen, mul_assoc, ← zpow_natCast, ← zpow_add₀ (by norm_num)]
  congr 2
  push_cast
  ring

/-- The shortest decimal of a positive value has digits. -/
theorem digits_shortest_pos {m : Nat} (q : Int) (hm : 0 < m) : 0 < (shortest m q).digits := by
  refine Nat.pos_of_ne_zero fun h => ?_
  have := (rounds_shortest q hm).pos hm
  rw [Decimal.value, h, Nat.cast_zero, zero_mul] at this
  exact lt_irrefl 0 this

theorem dropZeros_ofNat_ne_nil {n : Nat} (hn : 0 < n) : dropZeros (ofNat n) ≠ [] := by
  intro h
  obtain ⟨k, hk⟩ := dropZeros_append (ofNat n)
  rw [h, List.nil_append] at hk
  have := value_ofNat n
  rw [← hk, value_zeros] at this
  omega

/-- The text of a positive value lays out digits that stand for a number which rounds to it. -/
theorem exists_layOut {m : Nat} (q : Int) (hm : 0 < m) :
    ∃ ds point, magnitudeText m q = layOut ds point ∧ (∀ c ∈ ds, isDigit c = true) ∧ ds ≠ [] ∧
      Rounds m q (Numeral.value ds * 10 ^ (point - ds.length)) := by
  rw [magnitudeText, if_neg hm.ne']
  refine ⟨_, _, rfl, fun c hc => (ofNat_tens _ c (dropZeros_subset _ c hc)).isDigit,
    dropZeros_ofNat_ne_nil (digits_shortest_pos q hm), ?_⟩
  rw [Decimal.value_dropZeros]
  exact rounds_shortest q hm

/-- **The text of a positive value** reads back unless it has an exponent. -/
theorem ofPlain?_magnitudeText {m : Nat} {q : Int} (hc : Canonical m q) (hm : 0 < m)
    (he : 'e' ∉ magnitudeText m q) : ofPlain? (magnitudeText m q) = some (.finite false m q) := by
  obtain ⟨ds, point, ht, digits, hne, hr⟩ := exists_layOut q hm
  rw [ht] at he ⊢
  exact ofPlain?_layOut digits hne (fun hp => he (mem_layOut_exponent hne hp)) hc hm hr

/-! ### Whole numbers -/

theorem truncate_of_eq {m n : Nat} {q : Int} (h : (n : ℚ) = m * 2 ^ q) (negative : Bool) :
    truncate negative m q = dyadic negative n := by
  refine congrArg (dyadic negative) ?_
  simp only [pow2, Nat.pow_eq]
  split
  · next hq =>
    obtain ⟨k, rfl⟩ := Int.eq_ofNat_of_zero_le hq
    rw [zpow_natCast] at h
    have h : n = m * 2 ^ k := by exact_mod_cast h
    rw [Int.toNat_natCast, h]
  · next hq =>
    obtain ⟨k, hk⟩ := Int.eq_ofNat_of_zero_le (show 0 ≤ -q by omega)
    obtain rfl : q = -k := by omega
    rw [zpow_neg, zpow_natCast, eq_mul_inv_iff_mul_eq₀ (by positivity)] at h
    have h : n * 2 ^ k = m := by exact_mod_cast h
    rw [neg_neg, Int.toNat_natCast, ← h, Nat.mul_div_cancel _ (by positivity)]

/-- A value that passes as whole is a whole number. -/
theorem exists_of_isWhole {m : Nat} {q : Int} (h : isWhole m q = true) :
    ∃ n : Nat, (n : ℚ) = m * 2 ^ q := by
  simp only [isWhole, Bool.or_eq_true, decide_eq_true_eq, pow2, Nat.pow_eq] at h
  rcases le_or_gt 0 q with hq | hq
  · obtain ⟨k, rfl⟩ := Int.eq_ofNat_of_zero_le hq
    exact ⟨m * 2 ^ k, by push_cast; rw [zpow_natCast]⟩
  · obtain ⟨k, hk⟩ := Int.eq_ofNat_of_zero_le (show 0 ≤ -q by omega)
    obtain rfl : q = -k := by omega
    rw [neg_neg, Int.toNat_natCast] at h
    have hmod := of_decide_eq_true (h.resolve_left (by omega))
    obtain ⟨n, rfl⟩ := Nat.dvd_of_mod_eq_zero hmod
    refine ⟨n, ?_⟩
    push_cast
    rw [zpow_neg, zpow_natCast]
    field_simp

/-- A finite whole number is written within the digit limit. -/
theorem short_of_eq {m n : Nat} {q : Int} (hc : Canonical m q) (h : (n : ℚ) ≤ m * 2 ^ q) :
    Short n := by
  have hm : (m : ℚ) ≤ 2 ^ 53 := by exact_mod_cast hc.bound.le
  have hq : (2 : ℚ) ^ q ≤ 2 ^ 971 := by
    rw [← zpow_natCast]
    exact two_zpow_le hc.greatest
  have hlt : (n : ℚ) ≤ 2 ^ 53 * 2 ^ 971 :=
    h.trans (mul_le_mul hm hq (by positivity) (by positivity))
  have hlt : n ≤ 2 ^ 53 * 2 ^ 971 := by exact_mod_cast hlt
  refine (Nat.length_toDigits_le_iff (by decide) (by decide)).mpr ?_
  calc n ≤ 2 ^ 53 * 2 ^ 971 := hlt
    _ = 2 ^ (53 + 971) := (pow_add 2 53 971).symm
    _ < 2 ^ 4300 := Nat.pow_lt_pow_right (by decide) (by decide)
    _ ≤ 10 ^ 4300 := Nat.pow_le_pow_left (by decide) 4300

theorem spanPlain_ofNat (n : Nat) : spanPlain (ofNat n) = some ((ofNat n, []), []) := by
  have h := spanPlain_whole (fun c hc => (ofNat_tens n c hc).isDigit) (ofNat_ne_nil n)
    (t := []) trivial
  rwa [List.append_nil] at h

/-- The numeral of a whole number reads as the value of that size. -/
theorem ofPlain?_ofNat {m n : Nat} {q : Int} (hc : Canonical m q) (h : (n : ℚ) = m * 2 ^ q) :
    ofPlain? (ofNat n) = some (.finite false m q) := by
  rw [ofPlain?, spanPlain_ofNat]
  refine congrArg some ?_
  rcases Nat.eq_zero_or_pos m with rfl | hm
  · have hn : n = 0 := by simpa using h
    have hq : q = minExponent := hc.normal.resolve_left (by decide)
    rw [hn, hq]
    decide
  · refine ofDigits_eq hc hm ?_
    have e : pointed (ofNat n) [] = m * 2 ^ q := by
      rw [pointed, List.append_nil, value_ofNat, ← h]
      simp
    rw [e]
    exact rounds_self m q

/-- A positive whole number within a significand is a value whose significand is full. -/
theorem exists_canonical_of_pos {n : Nat} (hn : 0 < n) (h : n < 2 ^ 53) :
    ∃ m k : Nat, Canonical m (-k) ∧ 2 ^ 52 ≤ m ∧ (n : ℚ) = m * 2 ^ (-k : Int) := by
  have hlog : n.log2 < 53 := (Nat.log2_lt hn.ne').mpr h
  obtain ⟨k, hk⟩ := Nat.exists_eq_add_of_le (Nat.le_of_lt_succ hlog)
  have hl := Nat.mul_le_mul_right (2 ^ k) (Nat.log2_self_le hn.ne')
  have hh := Nat.mul_lt_mul_of_pos_right (Nat.lt_log2_self (n := n)) (Nat.two_pow_pos k)
  rw [← pow_add, ← hk] at hl
  rw [← pow_add, show n.log2 + 1 + k = 53 by omega] at hh
  refine ⟨n * 2 ^ k, k, ⟨hh, ?_, ?_, .inl hl⟩, hl, ?_⟩
  · rw [minExponent]
    omega
  · rw [maxExponent]
    omega
  · push_cast
    rw [zpow_neg, zpow_natCast]
    field_simp

/-- A whole number within a significand is a value. -/
theorem exists_canonical {n : Nat} (h : n < 2 ^ 53) :
    ∃ m q, Canonical m q ∧ (n : ℚ) = m * 2 ^ q := by
  rcases Nat.eq_zero_or_pos n with rfl | hn
  · exact ⟨0, minExponent, ⟨by decide, le_refl _, by decide, .inr rfl⟩, by simp⟩
  · obtain ⟨m, k, hc, -, e⟩ := exists_canonical_of_pos hn h
    exact ⟨m, -k, hc, e⟩

end Binary64

open Text Binary64 Numeral

/-! ### The size of what is read -/

theorem Numeral.digit?_lt {c : Char} {d : Nat} (h : digit? c = some d) : d < 10 := by
  obtain ⟨first, -, rfl⟩ := Option.map_eq_some_iff.mp h
  exact Nat.mod_lt _ (by decide)

/-- A row of digits has a value below the power of ten of its length. -/
theorem Numeral.value_lt (ds : List Char) : value ds < 10 ^ ds.length := by
  induction ds using List.reverseRecOn with
  | nil => exact Nat.one_pos
  | append_singleton ds c ih =>
      have hc : (digit? c).getD 0 < 10 := by
        cases h : digit? c with
        | none => exact Nat.succ_pos 9
        | some d => exact digit?_lt h
      rw [value_append_singleton, List.length_append, List.length_singleton, Nat.pow_succ]
      omega

/-- **An integer that is read is within the digit limit.** -/
theorem Numeral.short_of_read {s : List Char} {i : Int} (h : read s = .ok (some i)) : Short i := by
  unfold read at h
  simp only at h
  split at h
  · cases h
  · next hd =>
    split at h
    · next hl =>
      have value : i.natAbs = Numeral.value (sign s).2 := by
        cases h
        split <;> simp
      have ne : (sign s).2 ≠ [] := by
        intro e
        simp [isDigits, e] at hd
      rw [Short, value]
      exact Nat.le_trans ((Nat.length_toDigits_le_iff (by decide) (List.length_pos_iff.mpr ne)).mpr
        (value_lt _)) hl
    · cases h

/-! ### Modifiers -/

/-- **How a finite value is written behind a mark**: a whole one as an integer, any other one as a
decimal. -/
theorem Number.modifierText_finite {m : Nat} {q : Int} (hc : Canonical m q) (negative : Bool) :
    (∃ k : Nat, (k : ℚ) = m * 2 ^ q ∧
      (Number.float (.finite negative m q)).modifierText = .ok (ofInt (dyadic negative k))) ∨
    (0 < m ∧ q < 0 ∧ (Number.float (.finite negative m q)).modifierText =
      .ok (Binary64.finite negative m q).text) := by
  rw [modifierText]
  split
  · next hw =>
    obtain ⟨k, hk⟩ := exists_of_isWhole hw
    have short : Short (dyadic negative k) := by
      have size : (dyadic negative k).natAbs = k := by cases negative <;> simp [dyadic]
      rw [Short, size]
      exact short_of_eq hc hk.le
    exact .inl ⟨k, hk, by rw [truncate_of_eq hk, write_of_short short]⟩
  · next hw =>
    simp only [isWhole, Bool.or_eq_true, decide_eq_true_eq, not_or, not_le] at hw
    refine .inr ⟨Nat.pos_of_ne_zero ?_, hw.1, rfl⟩
    rintro rfl
    exact hw.2 (Nat.zero_mod _)

/-- **The number of a modifier reads back** unless its text has an exponent. -/
theorem Number.modifierText_reads {m : Nat} {q : Int} (hc : Canonical m q) {l : List Char}
    (h : (Number.float (.finite false m q)).modifierText = .ok l) (he : 'e' ∉ l) :
    ofPlain? l = some (.finite false m q) := by
  rcases Number.modifierText_finite hc false with ⟨k, hk, hl⟩ | ⟨hm, -, hl⟩
  · cases h.symm.trans hl
    exact ofPlain?_ofNat hc hk
  · cases h.symm.trans hl
    exact ofPlain?_magnitudeText hc hm he

/-- What a plain decimal reads as. -/
theorem Binary64.canonical_of_ofPlain? {s : List Char} {n : Bool} {m : Nat} {q : Int}
    (h : ofPlain? s = some (.finite n m q)) : Canonical m q ∧ n = false := by
  unfold ofPlain? at h
  split at h
  · exact canonical_of_ofDecimal (Option.some.inj h)
  · cases h

/-- **The whole part of a value** is a value. -/
theorem Binary64.exists_canonical_truncate {m : Nat} {q : Int} (hc : Canonical m q) :
    ∃ n m' q', truncate false m q = Int.ofNat n ∧ Canonical m' q' ∧ (n : ℚ) = m' * 2 ^ q' := by
  rcases le_or_gt 0 q with hq | hq
  · obtain ⟨n, e⟩ := exists_of_isWhole (m := m) (q := q) (by simp [isWhole, hq])
    exact ⟨n, m, q, truncate_of_eq e false, hc, e⟩
  · have ht : truncate false m q = Int.ofNat (m / pow2 (-q).toNat) := by
      rw [truncate, if_neg (by omega)]
      rfl
    obtain ⟨m', q', hc', e⟩ := exists_canonical ((Nat.div_le_self m _).trans_lt hc.bound)
    exact ⟨_, m', q', ht, hc', e⟩

/-- It is written as a numeral that reads as a value of that size. -/
theorem Number.proximity_reads {m : Nat} {q : Int} (hc : Canonical m q) :
    ∃ n : Nat, truncate false m q = n ∧ Short n ∧ ∃ m' q',
      ofPlain? (ofNat n) = some (.finite false m' q') ∧ truncate false m' q' = n := by
  obtain ⟨n, m', q', hn, hc', e⟩ := exists_canonical_truncate hc
  exact ⟨n, hn, short_of_eq hc' e.le, m', q', ofPlain?_ofNat hc' e, truncate_of_eq e false⟩

end SearchFilters
