import SearchFilters.Proofs.Number.ReadBack
import SearchFilters.Proofs.Text.Split

/-!
# Proofs — Number — Signed

The texts of finite values read back with their sign and exponent.

Writing and reading meet in a description of texts: `Writes v s` says that `s` is made of digits, a
fraction or none, and an exponent or none, and stands for the number `v`.  The texts of values are
such texts, for a number that rounds to the value (`writes_layOut`, `writes_magnitudeText`), and
such texts are read as what their number rounds to (`Writes.reads`).  So the text of a finite value
reads back (`read_text`), and a value that is read has a text that reads back, since what is read is
finite (`read_text_of_read`).

The same description shows that no two points stand side by side in the text of a number, nor at its
end (`not_infix_text`).
-/

namespace SearchFilters.Binary64
open Text Numeral

variable {s t : List Char} {m : Nat} {q e : Int} {v : ℚ}

/-! ### Exponents -/

/-- The rest of a text behind its digits, with the exponent that it stands for. -/
structure EndsWith (t : List Char) (e : Int) : Prop where
  plain : EndsPlain t
  exponent : exponent? t = some e
  point : '.' ∉ t

theorem endsWith_nil : EndsWith [] 0 := ⟨trivial, rfl, List.not_mem_nil⟩

/-- The digits of an exponent have its value, also with a zero in front of a single one. -/
theorem exponentText_eq (e : Int) : ∃ ds,
    exponentText e = 'e' :: (if e < 0 then '-' else '+') :: ds ∧
      (∀ c ∈ ds, IsTen c) ∧ ds ≠ [] ∧ Numeral.value ds = e.natAbs := by
  have zero : IsTen '0' := ⟨0, by decide, rfl⟩
  refine ⟨_, rfl, ?_⟩
  split
  · refine ⟨List.forall_mem_cons.mpr ⟨zero, ofNat_tens _⟩, List.cons_ne_nil _ _, ?_⟩
    rw [← List.singleton_append, value_append, value_ofNat]
    simp [Numeral.value, show digit? '0' = some 0 by decide]
  · exact ⟨ofNat_tens _, ofNat_ne_nil _, value_ofNat _⟩

/-- **An exponent is read as it was written.** -/
theorem endsWith_exponentText (e : Int) : EndsWith (exponentText e) e := by
  obtain ⟨ds, hds, tens, hne, value⟩ := exponentText_eq e
  have digits : isDigits ds = true := by
    rw [isDigits, Bool.and_eq_true, List.all_eq_true]
    exact ⟨by simpa using hne, fun c hc => (tens c hc).isDigit⟩
  have point : '.' ∉ ds := fun h => (tens _ h).ne.2.2.1 rfl
  rw [hds]
  by_cases he : e < 0
  · rw [if_pos he]
    refine ⟨⟨by decide, by decide⟩, ?_, by simp [point]⟩
    have : -(e.natAbs : Int) = e := by omega
    simp only [exponent?, sign, digits, value, this]
    rfl
  · rw [if_neg he]
    refine ⟨⟨by decide, by decide⟩, ?_, by simp [point]⟩
    have : (e.natAbs : Int) = e := by omega
    simp only [exponent?, sign, digits, value, this]
    rfl

/-! ### Texts and what they stand for -/

/-- **A text of digits**, a fraction of at least one digit or none, and an exponent or none, with
the number that it stands for. -/
inductive Writes (v : ℚ) : List Char → Prop where
  | whole {w t : List Char} {e : Int} (hw : ∀ c ∈ w, isDigit c = true) (hne : w ≠ [])
      (ht : EndsWith t e) (hv : (Numeral.value w : ℚ) * 10 ^ e = v) : Writes v (w ++ t)
  | fraction {w f t : List Char} {e : Int} (hw : ∀ c ∈ w, isDigit c = true)
      (hf : ∀ c ∈ f, isDigit c = true) (hne : f ≠ []) (ht : EndsWith t e)
      (hv : (Numeral.value (w ++ f) : ℚ) * 10 ^ (e - f.length) = v) : Writes v (w ++ '.' :: f ++ t)

/-- The texts of values are laid out like this. -/
theorem writes_layOut {ds : List Char} (hds : ∀ c ∈ ds, isDigit c = true) (hne : ds ≠ [])
    (point : Int) : Writes (Numeral.value ds * 10 ^ (point - ds.length)) (layOut ds point) := by
  by_cases hp : point < -3 ∨ 16 < point
  · have single : ∀ d ∈ ds, ∀ c ∈ [d], isDigit c = true := fun d hd =>
      List.forall_mem_singleton.mpr (hds d hd)
    rw [layOut.eq_def, if_pos hp]
    split
    · exact absurd rfl hne
    · next d =>
      exact .whole (w := [d]) hds hne (endsWith_exponentText _) rfl
    · next d r hr =>
      refine .fraction (w := [d]) (single d List.mem_cons_self)
        (fun c hc => hds c (List.mem_cons_of_mem _ hc)) hr (endsWith_exponentText _) ?_
      rw [List.singleton_append, List.length_cons (a := d), Nat.cast_succ, sub_sub,
        add_comm (1 : Int)]
  · obtain ⟨w, f, hl, hw, hf, hfn, hv⟩ := layOut_positional hds hp
    rw [hl, ← hv, ← List.append_nil (w ++ '.' :: f)]
    refine .fraction hw hf (hfn hne) endsWith_nil ?_
    rw [zero_sub, pointed]

/-- **The text of a finite value** stands for zero, or for a number that rounds to it. -/
theorem writes_magnitudeText (m : Nat) (q : Int) :
    ∃ v, Writes v (magnitudeText m q) ∧ (m = 0 → v = 0) ∧ (0 < m → Rounds m q v) := by
  rcases Nat.eq_zero_or_pos m with rfl | hm
  · have zero : ∀ c ∈ ['0'], isDigit c = true := List.forall_mem_singleton.mpr (by decide)
    refine ⟨0, ?_, fun _ => rfl, fun h => absurd h (lt_irrefl 0)⟩
    exact .fraction (w := ['0']) (f := ['0']) (t := []) zero zero (List.cons_ne_nil _ _)
      endsWith_nil (by rw [show Numeral.value (['0'] ++ ['0']) = 0 by decide]; simp)
  · obtain ⟨ds, point, ht, digits, hne, hr⟩ := exists_layOut q hm
    exact ⟨_, ht ▸ writes_layOut digits hne point, fun h => absurd h hm.ne', fun _ => hr⟩

/-! ### Reading -/

/-- Without a point at its front. -/
def dropPoint : List Char → List Char
  | '.' :: r => r
  | r        => r

theorem dropPoint_of_plain (h : EndsPlain t) : dropPoint t = t := by
  unfold dropPoint
  split
  · exact absurd rfl h.2
  · rfl

/-- The value of a decimal behind its sign. -/
def ofUnsigned? (negative : Bool) (s : List Char) : Option Binary64 := do
  let ((whole, fraction), r) ← spanPlain s
  let e ← exponent? (if fraction.isEmpty then dropPoint r else r)
  pure (ofDigits negative whole fraction e)

/-- A sign is read before the number. -/
theorem ofSigned?_eq (s : List Char) : ofSigned? s = ofUnsigned? (sign s).1 (sign s).2 := rfl

/-- A text that a digit or a point begins has no sign. -/
theorem sign_of_head (h : ∀ c ∈ s.head?, isDigit c = true ∨ c = '.') : sign s = (false, s) := by
  unfold sign
  split
  · exact absurd (h '+' rfl) (by decide)
  · exact absurd (h '-' rfl) (by decide)
  · rfl

/-- Such a text has no sign of its own. -/
theorem Writes.sign_eq (h : Writes v s) : sign s = (false, s) := by
  refine sign_of_head ?_
  cases h with
  | @whole w t e hw hne _ _ =>
      cases w with
      | nil => exact absurd rfl hne
      | cons c w =>
          rintro _ ⟨⟩
          exact .inl (hw c List.mem_cons_self)
  | @fraction w f t e hw _ _ _ _ =>
      cases w with
      | nil =>
          rintro _ ⟨⟩
          exact .inr rfl
      | cons c w =>
          rintro _ ⟨⟩
          exact .inl (hw c List.mem_cons_self)

/-- **Such a text is read as what it stands for.** -/
theorem Writes.reads (h : Writes v s) (negative : Bool) :
    ∃ (n : Nat) (k : Int), (n : ℚ) * 10 ^ k = v ∧
      ofUnsigned? negative s = some (ofDecimal negative n k) := by
  cases h with
  | whole hw hne ht hv =>
      refine ⟨_, _, hv, ?_⟩
      rw [ofUnsigned?, spanPlain_whole hw hne ht.plain]
      simp [dropPoint_of_plain ht.plain, ht.exponent, ofDigits]
  | fraction hw hf hne ht hv =>
      refine ⟨_, _, hv, ?_⟩
      rw [ofUnsigned?, spanPlain_fraction hw hf hne ht.plain]
      simp [hne, ht.exponent, ofDigits]

/-- The text of a value but for its sign. -/
theorem ofUnsigned?_magnitudeText (hc : Canonical m q) (negative : Bool) :
    ofUnsigned? negative (magnitudeText m q) = some (.finite negative m q) := by
  obtain ⟨v, hw, hz, hp⟩ := writes_magnitudeText m q
  obtain ⟨n, k, hv, h⟩ := hw.reads negative
  rw [h]
  rcases Nat.eq_zero_or_pos m with rfl | hm
  · have hn : n = 0 := by
      have := (mul_eq_zero.mp (hv.trans (hz rfl))).resolve_right (by positivity)
      exact_mod_cast this
    have hq : q = minExponent := hc.normal.resolve_left (by decide)
    rw [ofDecimal, if_pos hn, hq, zero]
  · exact congrArg some (ofDecimal_eq hc hm (hv ▸ hp hm) negative)

/-- **The text of a finite value reads back.** -/
theorem read_text (hc : Canonical m q) (negative : Bool) :
    read (text (.finite negative m q)) = some (.finite negative m q) := by
  obtain ⟨v, hw, -⟩ := writes_magnitudeText m q
  have signed : ofSigned? (text (.finite negative m q)) = some (.finite negative m q) := by
    cases negative with
    | false => rw [text, ofSigned?_eq, hw.sign_eq, ofUnsigned?_magnitudeText hc]
    | true => exact ofUnsigned?_magnitudeText hc true
  rw [read, signed]
  rfl

/-- What is read is finite, with a significand and an exponent of its own. -/
theorem canonical_of_read {x : Binary64} (h : read s = some x) :
    ∃ negative m q, x = .finite negative m q ∧ Canonical m q := by
  obtain ⟨h, hx⟩ := Option.filter_eq_some_iff.mp h
  cases x with
  | nan | infinite => cases hx
  | finite negative m q =>
      rw [ofSigned?_eq, ofUnsigned?] at h
      obtain ⟨⟨⟨w, f⟩, r⟩, -, h⟩ := Option.bind_eq_some_iff.mp h
      obtain ⟨e, -, h⟩ := Option.bind_eq_some_iff.mp h
      exact ⟨negative, m, q, rfl, (canonical_of_ofDecimal (Option.some.inj h)).1⟩

/-- **A value that is read has a text that reads back.** -/
theorem read_text_of_read {x : Binary64} (h : read s = some x) : read x.text = some x := by
  obtain ⟨negative, m, q, rfl, hc⟩ := canonical_of_read h
  exact read_text hc negative

/-! ### Points -/

/-- No two points stand side by side in such a text, nor at its end. -/
theorem Writes.not_infix (h : Writes v s) : ¬['.', '.'] <:+: s ++ ['.'] := by
  have point : isDigit '.' = false := by decide
  have digits {w : List Char} (hw : ∀ c ∈ w, isDigit c = true) : '.' ∉ w := fun h =>
    absurd (hw _ h) (point ▸ Bool.false_ne_true)
  cases h with
  | whole hw hne ht hv =>
      rw [List.append_assoc, infix_pair_append_iff (digits hw), infix_pair_append_iff ht.point]
      decide
  | @fraction w f t e hw hf hne ht hv =>
      rw [List.append_assoc, List.append_assoc, infix_pair_append_iff (digits hw), List.cons_append,
        List.infix_cons_iff, infix_pair_append_iff (digits hf), infix_pair_append_iff ht.point]
      rintro (h | h)
      · -- a digit stands behind the point
        cases f with
        | nil => exact hne rfl
        | cons c f =>
            have hc : '.' = c := by simpa [List.cons_prefix_cons] using h
            exact digits hf (hc ▸ List.mem_cons_self)
      · exact absurd h (by decide)

/-- **No two points stand side by side in a text that reads back**, nor at its end. -/
theorem not_infix_text {x : Binary64} (h : read x.text = some x) :
    ¬['.', '.'] <:+: x.text ++ ['.'] := by
  obtain ⟨negative, m, q, rfl, -⟩ := canonical_of_read h
  obtain ⟨v, hw, -⟩ := writes_magnitudeText m q
  cases negative with
  | false => exact hw.not_infix
  | true =>
      rw [text, ← List.singleton_append (l := magnitudeText m q), List.append_assoc,
        infix_pair_append_iff (by decide)]
      exact hw.not_infix

end SearchFilters.Binary64
