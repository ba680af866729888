import SearchFilters.Proofs.Number.ReadBack

/-!
# Proofs — Number — Overflow

Which numbers round to the infinite values.

`overflowBound` lies halfway from the greatest finite value to the next power of two, whose
significand would be even; so it rounds up itself.  A quotient is scaled until it fills a
significand, and it becomes infinite in two ways: its exponent is beyond the greatest one already,
or it is the greatest one and the significand is rounded up to its bound.  Both together say that
the quotient reaches the overflow bound (`Fills.overflowBound_le_iff`), from which the same follows
for quotients, decimals and texts (`ofRatio_eq_infinite_iff`, `ofDecimal_eq_infinite_iff`,
`ofPlain?_eq_infinite_iff`).
-/

namespace SearchFilters.Binary64
open Text Numeral

/-- The least number that rounds to the infinite: it lies as far from the greatest finite value as
from the next power of two, whose significand would be even. -/
def overflowBound : ℚ := (2 ^ 53 - 1 / 2) * 2 ^ (971 : Int)

theorem overflowBound_pos : 0 < overflowBound := by
  rw [overflowBound]
  positivity

/-- The bound lies below the next power of two. -/
theorem overflowBound_le : overflowBound ≤ 2 ^ 53 * 2 ^ (971 : Int) :=
  mul_le_mul_of_nonneg_right (by norm_num) (by positivity)

/-! ### Quotients -/

/-- A quotient below the bound of significands is rounded up to it from half a unit below on. -/
theorem roundDiv_eq_bound_iff {n d : Nat} (hd : 0 < d) (h : (n : ℚ) / d < 2 ^ 53) :
    roundDiv n d = 2 ^ 53 ↔ (2 : ℚ) ^ 53 - 1 / 2 ≤ n / d := by
  constructor
  · intro e
    have := (roundDiv_between (n := n) hd).1
    rw [e] at this
    push_cast at this
    exact this
  · intro hl
    refine roundDiv_eq_of_rat hd ?_ (.inl ?_)
    · push_cast
      exact hl.lt_or_eq.imp_right fun e => ⟨by norm_num, e⟩
    · push_cast
      linarith

/-- Where a number fills a significand, it reaches the bound if the exponent is beyond the greatest
one, or if it is the greatest one and the number is rounded up to the next power of two. -/
theorem Fills.overflowBound_le_iff {v : ℚ} {e : Int} (h : Fills v e) :
    overflowBound ≤ v ↔ maxExponent < e ∨ e = maxExponent ∧ (2 : ℚ) ^ 53 - 1 / 2 ≤ v / 2 ^ e := by
  rw [maxExponent]
  rcases lt_trichotomy e 971 with he | rfl | he
  · have hlt : v < overflowBound :=
      calc v < 2 ^ 53 * 2 ^ e := h.bound
        _ ≤ 2 ^ 53 * 2 ^ (970 : Int) :=
          mul_le_mul_of_nonneg_left (two_zpow_le (by omega)) (by norm_num)
        _ < overflowBound := by
          rw [overflowBound, show (971 : Int) = 970 + 1 from rfl, two_zpow_succ, ← mul_assoc]
          exact mul_lt_mul_of_pos_right (by norm_num) (by positivity)
    exact ⟨fun hb => absurd hb (not_le.mpr hlt), fun hb => by omega⟩
  · rw [le_div_iff₀ (by positivity), overflowBound]
    exact ⟨fun hb => .inr ⟨rfl, hb⟩, fun hb => hb.elim (fun hb => by omega) (·.2)⟩
  · have hle : overflowBound ≤ v :=
      calc overflowBound ≤ 2 ^ 53 * 2 ^ (971 : Int) := overflowBound_le
        _ = 2 ^ 52 * 2 ^ (972 : Int) := by
          rw [show (972 : Int) = 971 + 1 from rfl, two_zpow_succ]
          ring
        _ ≤ 2 ^ 52 * 2 ^ e := mul_le_mul_of_nonneg_left (two_zpow_le (by omega)) (by norm_num)
        _ ≤ v := h.normal.resolve_right (by rw [minExponent]; omega)
    exact ⟨fun _ => .inl he, fun _ => hle⟩

theorem finite_eq_infinite_iff {negative m n : Bool} {significand : Nat} {exponent : Int} {p : Prop}
    (h : ¬p) : finite negative significand exponent = .infinite n ↔ n = m ∧ p := by
  simp only [reduceCtorEq, h, and_false]

theorem infinite_eq_infinite_iff {m n : Bool} {p : Prop} (h : p) :
    infinite m = .infinite n ↔ n = m ∧ p := by
  simp only [infinite.injEq, h, and_true, eq_comm]

/-- **A quotient rounds to the infinite exactly from the bound on.** -/
theorem ofRatio_eq_infinite_iff {negative n : Bool} {num den : Nat} (hd : 0 < den) :
    ofRatio negative num den = .infinite n ↔ n = negative ∧ overflowBound ≤ (num : ℚ) / den := by
  rcases Nat.eq_zero_or_pos num with rfl | hn
  · rw [ofRatio, if_pos rfl, Nat.cast_zero, zero_div]
    exact finite_eq_infinite_iff (not_le.mpr overflowBound_pos)
  · have hf := fills_fillExponent hn hd
    generalize fillExponent num den = e at hf
    have hp : (0 : ℚ) < 2 ^ e := by positivity
    obtain ⟨hs, es⟩ := scaleDown_spec num hd e
    have hlt : ((scaleDown num den e).1 : ℚ) / (scaleDown num den e).2 < 2 ^ 53 := by
      rw [es, div_lt_iff₀ hp]
      exact hf.bound
    rw [hf.overflowBound_le_iff, ← es, ← roundDiv_eq_bound_iff hs hlt,
      ofRatio_of_fills hn hd hf negative rfl]
    generalize roundDiv (scaleDown num den e).1 (scaleDown num den e).2 = w
    have hsig : significandBound = 2 ^ 53 := rfl
    rw [hsig]
    by_cases hw : w = 2 ^ 53
    · rw [if_pos hw]
      simp only
      split
      · exact infinite_eq_infinite_iff (by omega)
      · exact finite_eq_infinite_iff (by omega)
    · rw [if_neg hw]
      simp only
      split
      · exact infinite_eq_infinite_iff (by omega)
      · exact finite_eq_infinite_iff (by omega)

/-! ### Decimals -/

/-- **A decimal rounds to the infinite exactly from the bound on.** -/
theorem ofDecimal_eq_infinite_iff {negative n : Bool} {digits : Nat} {exponent : Int} :
    ofDecimal negative digits exponent = .infinite n ↔
      n = negative ∧ overflowBound ≤ (digits : ℚ) * 10 ^ exponent := by
  have rounds := decimalRounds_ofDecimal negative digits exponent
  generalize ofDecimal negative digits exponent = x at rounds
  cases rounds with
  | zero h =>
      have hlt : (digits : ℚ) * 10 ^ exponent < overflowBound := by
        rcases h with rfl | h
        · rw [Nat.cast_zero, zero_mul]
          exact overflowBound_pos
        · calc (digits : ℚ) * 10 ^ exponent < 2 ^ (-1079 : Int) := decimal_lt h
            _ ≤ 1 * 2 ^ (971 : Int) := by rw [one_mul]; exact two_zpow_le (by decide)
            _ ≤ overflowBound := mul_le_mul_of_nonneg_right (by norm_num) (by positivity)
      exact finite_eq_infinite_iff (not_le.mpr hlt)
  | infinite h₀ h =>
      have hd : (1 : ℚ) ≤ digits := by exact_mod_cast Nat.pos_of_ne_zero h₀
      refine infinite_eq_infinite_iff ?_
      calc overflowBound ≤ 2 ^ 53 * 2 ^ (971 : Int) := overflowBound_le
        _ ≤ 10 ^ exponent := (lt_ten_zpow h).le
        _ ≤ digits * 10 ^ exponent := le_mul_of_one_le_left (by positivity) hd
  | quotient hden hv => rw [← hv, ofRatio_eq_infinite_iff hden]

/-- A rounded quotient is a number or infinite. -/
theorem ofRatio_ne_nan {negative : Bool} {num den : Nat} (hd : 0 < den) :
    ofRatio negative num den ≠ .nan := by
  intro h
  rcases Nat.eq_zero_or_pos num with rfl | hn
  · cases h
  · have hf := fills_fillExponent hn hd
    generalize fillExponent num den = e at hf
    rw [ofRatio_of_fills hn hd hf negative rfl] at h
    generalize roundDiv (scaleDown num den e).1 (scaleDown num den e).2 = w at h
    split at h
    split at h
    · cases h
    · cases h

/-- Every decimal has a value. -/
theorem ofDecimal_ne_nan (negative : Bool) (digits : Nat) (exponent : Int) :
    ofDecimal negative digits exponent ≠ .nan := by
  intro h
  have rounds := decimalRounds_ofDecimal negative digits exponent
  generalize ofDecimal negative digits exponent = x at h rounds
  cases rounds with
  | zero | infinite => cases h
  | quotient hd => exact ofRatio_ne_nan hd h

/-! ### Plain decimals -/

/-- The number that a plain decimal stands for. -/
def plain? (s : List Char) : Option ℚ :=
  match spanPlain s with
  | some ((whole, fraction), []) => some (pointed whole fraction)
  | _ => none

/-- The size of a plain decimal is that of its digits and its point. -/
theorem plain?_eq_some {s : List Char} {v : ℚ} (h : plain? s = some v) :
    ∃ w f, spanPlain s = some ((w, f), []) ∧ pointed w f = v := by
  unfold plain? at h
  split at h
  · next w f e => exact ⟨w, f, e, Option.some.inj h⟩
  · cases h

/-- **A plain decimal reads as the infinite value exactly from the bound on.** -/
theorem ofPlain?_eq_infinite_iff {s : List Char} {n : Bool} :
    ofPlain? s = some (.infinite n) ↔ n = false ∧ ∃ v, plain? s = some v ∧ overflowBound ≤ v := by
  have reads {w f : List Char} (e : spanPlain s = some ((w, f), [])) :
      ofPlain? s = some (.infinite n) ↔ n = false ∧ overflowBound ≤ pointed w f := by
    rw [ofPlain?, e, Option.some.injEq, ofDigits, ofDecimal_eq_infinite_iff, zero_sub, pointed]
  constructor
  · intro h
    obtain ⟨w, f, e⟩ := spanPlain_of_ofPlain? h
    exact ⟨((reads e).mp h).1, _, by rw [plain?, e], ((reads e).mp h).2⟩
  · rintro ⟨hn, v, hv, hb⟩
    obtain ⟨w, f, e, rfl⟩ := plain?_eq_some hv
    exact (reads e).mpr ⟨hn, hb⟩

/-- A plain decimal never reads as no number. -/
theorem ofPlain?_ne_nan {s : List Char} : ofPlain? s ≠ some .nan := by
  intro h
  unfold ofPlain? at h
  split at h
  · exact ofDecimal_ne_nan _ _ _ (Option.some.inj h)
  · cases h

end SearchFilters.Binary64
