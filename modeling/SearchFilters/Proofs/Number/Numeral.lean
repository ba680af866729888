import Mathlib.Algebra.Group.Int.Defs
import Mathlib.Algebra.Group.Nat.Defs
import SearchFilters.Number.Numeral
import SearchFilters.Number.Reading

/-!
# Proofs — Number — Numeral

A written integer reads back.

Writing a natural number divides by ten and puts the last digit at the end; reading multiplies by
ten as it goes along.  So the two are inverse by induction on the number, one digit at a time
(`value_ofNat`).  What remains are signs, and the limit on digits, which both ways have: an integer
within it is written and reads back (`read_ofInt`), and one beyond it is neither written nor read
(`write_of_not_short`, `read_eq_error_iff`).  The limit bounds the size of integers (`short_iff`).
-/

namespace SearchFilters.Numeral
open Text

/-! ### The ten digits -/

/-- One of the digits 0 to 9. -/
def IsTen (c : Char) : Prop := ∃ d < 10, c = Nat.digitChar d

theorem digit?_digitChar : ∀ d < 10, digit? (Nat.digitChar d) = some d := by decide

theorem IsTen.isDigit {c : Char} (h : IsTen c) : isDigit c = true := by
  obtain ⟨d, hd, rfl⟩ := h
  rw [Text.isDigit, digit?_digitChar d hd]
  rfl

/-- The ten digits are none of the signs, marks and letters of numerals. -/
theorem IsTen.ne {c : Char} (h : IsTen c) :
    c ≠ '+' ∧ c ≠ '-' ∧ c ≠ '.' ∧ c ≠ 'e' ∧ c ≠ 'E' := by
  obtain ⟨d, hd, rfl⟩ := h
  have : ∀ d < 10, Nat.digitChar d ≠ '+' ∧ Nat.digitChar d ≠ '-' ∧ Nat.digitChar d ≠ '.' ∧
      Nat.digitChar d ≠ 'e' ∧ Nat.digitChar d ≠ 'E' := by decide
  exact this d hd

/-! ### Digits of natural numbers -/

theorem ofNat_of_lt {n : Nat} (h : n < 10) : ofNat n = [Nat.digitChar n] :=
  Nat.toDigits_of_lt_base h

/-- A number is written as the number without its last digit and that digit. -/
theorem ofNat_of_le {n : Nat} (h : 10 ≤ n) :
    ofNat n = ofNat (n / 10) ++ [Nat.digitChar (n % 10)] :=
  Nat.toDigits_of_base_le (by decide) h

theorem ofNat_ne_nil (n : Nat) : ofNat n ≠ [] := Nat.toDigits_ne_nil

theorem ofNat_tens (n : Nat) : ∀ c ∈ ofNat n, IsTen c := by
  induction n using Nat.strongRecOn with
  | ind n ih =>
      intro c hc
      rcases Nat.lt_or_ge n 10 with h | h
      · rw [ofNat_of_lt h, List.mem_singleton] at hc
        exact ⟨n, h, hc⟩
      · rw [ofNat_of_le h, List.mem_append, List.mem_singleton] at hc
        rcases hc with hc | hc
        · exact ih (n / 10) (by omega) c hc
        · exact ⟨n % 10, by omega, hc⟩

theorem isDigits_ofNat (n : Nat) : isDigits (ofNat n) = true := by
  rw [isDigits, Bool.and_eq_true, List.all_eq_true]
  exact ⟨by simpa using ofNat_ne_nil n, fun c hc => (ofNat_tens n c hc).isDigit⟩

/-! ### The value of digits -/

/-- One more digit is worth ten times the rest and itself. -/
theorem value_append_singleton (ds : List Char) (c : Char) :
    value (ds ++ [c]) = 10 * value ds + (digit? c).getD 0 := by
  simp only [value, List.foldl_append, List.foldl_cons, List.foldl_nil]

/-- **The digits of a natural number have that number as their value**, by induction on the number.
-/
theorem value_ofNat (n : Nat) : value (ofNat n) = n := by
  induction n using Nat.strongRecOn with
  | ind n ih =>
      rcases Nat.lt_or_ge n 10 with h | h
      · rw [ofNat_of_lt h, ← List.nil_append [n.digitChar], value_append_singleton,
          digit?_digitChar n h]
        simp [value]
      · rw [ofNat_of_le h, value_append_singleton, ih (n / 10) (by omega),
          digit?_digitChar _ (Nat.mod_lt n (by decide)), Option.getD_some]
        omega

/-! ### Integers -/

theorem sign_of_digits {ds : List Char} (h : ∀ c ∈ ds, IsTen c) : sign ds = (false, ds) := by
  cases ds with
  | nil => rfl
  | cons c r =>
      have hc := (h c (List.mem_cons_self ..)).ne
      unfold sign
      split
      · next e => cases e; exact absurd rfl hc.1
      · next e => cases e; exact absurd rfl hc.2.1
      · rfl

theorem read_ofNat {n : Nat} (h : (ofNat n).length ≤ digitLimit) :
    read (ofNat n) = .ok (some (n : Int)) := by
  simp only [read, sign_of_digits (ofNat_tens n), isDigits_ofNat, h, value_ofNat, if_true,
    Bool.not_true, Bool.false_eq_true, if_false]

theorem read_neg_ofNat {n : Nat} (h : (ofNat n).length ≤ digitLimit) :
    read ('-' :: ofNat n) = .ok (some (-(n : Int))) := by
  simp only [read, sign, isDigits_ofNat, h, value_ofNat, if_true, Bool.not_true,
    Bool.false_eq_true, if_false]

/-- An integer of at most `digitLimit` digits. -/
def Short (i : Int) : Prop := (ofNat i.natAbs).length ≤ digitLimit

instance (i : Int) : Decidable (Short i) := inferInstanceAs (Decidable (_ ≤ _))

theorem write_of_short {i : Int} (h : Short i) : write i = .ok (ofInt i) := if_pos h

theorem write_of_not_short {i : Int} (h : ¬Short i) : write i = .error .tooManyDigits := if_neg h

/-- The digit limit as a bound on the size of integers. -/
theorem short_iff {i : Int} : Short i ↔ i.natAbs < 10 ^ digitLimit :=
  Nat.length_toDigits_le_iff (by decide) (by decide)

/-- **A numeral within the digit limit reads back.** -/
theorem read_ofInt {i : Int} (h : Short i) : read (ofInt i) = .ok (some i) := by
  cases i with
  | ofNat n => exact read_ofNat h
  | negSucc n => exact read_neg_ofNat h

theorem ofInt_ne_nil (i : Int) : ofInt i ≠ [] := by
  cases i with
  | ofNat n => exact ofNat_ne_nil n
  | negSucc n => exact List.cons_ne_nil _ _

theorem ofInt_chars (i : Int) : ∀ c ∈ ofInt i, IsTen c ∨ c = '-' := by
  intro c hc
  cases i with
  | ofNat n => exact .inl (ofNat_tens n c hc)
  | negSucc n =>
      rcases List.mem_cons.mp hc with rfl | hc
      · exact .inr rfl
      · exact .inl (ofNat_tens _ c hc)

/-! ### Numerals that are not read -/

/-- An integer of more digits than are read. -/
def Overlong (s : List Char) : Prop := isDigits (sign s).2 = true ∧ digitLimit < (sign s).2.length

/-- Digits alone are overlong if there are too many. -/
theorem overlong_of_tens {ds : List Char} (h : ∀ c ∈ ds, IsTen c) (hl : digitLimit < ds.length) :
    Overlong ds := by
  rw [Overlong, sign_of_digits h, isDigits, Bool.and_eq_true, List.all_eq_true]
  exact ⟨⟨by cases ds <;> simp at hl ⊢, fun c hc => (h c hc).isDigit⟩, hl⟩

/-- **Reading an integer fails** exactly if it has more digits than are read. -/
theorem read_eq_error_iff {s : List Char} {e : NumberFault} :
    read s = .error e ↔ e = .tooManyDigits ∧ Overlong s := by
  unfold read Overlong
  generalize sign s = p
  obtain ⟨negative, ds⟩ := p
  cases hd : isDigits ds with
  | false =>
      simp only [Bool.not_false, if_true, hd, Bool.false_eq_true, false_and, and_false, reduceCtorEq]
  | true =>
      simp only [Bool.not_true, Bool.false_eq_true, if_false, hd, true_and]
      split
      · next hl => simp only [reduceCtorEq, Nat.not_lt.mpr hl, and_false]
      · next hl => simp only [Except.error.injEq, Nat.not_le.mp hl, and_true, eq_comm]

end SearchFilters.Numeral
