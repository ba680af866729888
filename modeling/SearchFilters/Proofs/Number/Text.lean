import Mathlib.Data.Bool.AllAny
import SearchFilters.Number.Shortest
import SearchFilters.Proofs.Number.Numeral

/-!
# Proofs — Number — Text

The characters of the texts of floating-point values: the ten digits, signs, a point, and the
letters of exponents and of what is no number (`Binary64.text_chars`).  None of them is a blank, a
bracket, a backslash or a symbol of an operator, so that these texts stand in ranges and behind
marks as they are.
-/

namespace SearchFilters.Binary64
open Numeral

/-- A character of the texts of floating-point values. -/
def IsTextual (c : Char) : Prop := IsTen c ∨ c ∈ ['.', '+', '-', 'e', 'i', 'n', 'f', 'a']

theorem dropZeros_subset (ds : List Char) : ∀ c ∈ dropZeros ds, c ∈ ds := by
  intro c hc
  rw [dropZeros, List.mem_reverse] at hc
  exact List.mem_reverse.mp ((List.dropWhile_subset _) hc)

theorem exponentText_chars (e : Int) : ∀ c ∈ exponentText e, IsTextual c := by
  have tens := ofNat_tens e.natAbs
  have zero : IsTen '0' := ⟨0, by decide, rfl⟩
  intro c hc
  rw [exponentText] at hc
  rcases List.mem_cons.mp hc with rfl | hc
  · exact .inr (by decide)
  · rcases List.mem_cons.mp hc with rfl | hc
    · split
      · exact .inr (by decide)
      · exact .inr (by decide)
    · split at hc
      · rcases List.mem_cons.mp hc with rfl | hc
        · exact .inl zero
        · exact .inl (tens c hc)
      · exact .inl (tens c hc)

/-- Digits are laid out with a point, zeros and an exponent. -/
theorem layOut_chars {ds : List Char} (hds : ∀ c ∈ ds, IsTen c) (point : Int) :
    ∀ c ∈ layOut ds point, IsTextual c := by
  have zero : IsTextual '0' := .inl ⟨0, by decide, rfl⟩
  have dot : IsTextual '.' := .inr (by decide)
  have zeros (n : Nat) : ∀ c ∈ List.replicate n '0', IsTextual c := fun c hc =>
    List.eq_of_mem_replicate hc ▸ zero
  have digits : ∀ c ∈ ds, IsTextual c := fun c hc => .inl (hds c hc)
  intro c hc
  unfold layOut at hc
  split at hc
  · split at hc
    · cases hc
    · rcases List.mem_cons.mp hc with rfl | hc
      · exact digits _ (List.mem_cons_self ..)
      · exact exponentText_chars _ c hc
    · simp only [List.cons_append, List.mem_cons, List.mem_append] at hc
      rcases hc with rfl | rfl | hc | hc
      · exact digits _ (List.mem_cons_self ..)
      · exact dot
      · exact digits _ (List.mem_cons_of_mem _ hc)
      · exact exponentText_chars _ c hc
  · split at hc
    · simp only [List.cons_append, List.mem_cons, List.mem_append] at hc
      rcases hc with rfl | rfl | hc | hc
      · exact zero
      · exact dot
      · exact zeros _ c hc
      · exact digits c hc
    · split at hc
      · simp only [List.mem_cons, List.mem_append, List.not_mem_nil, or_false] at hc
        rcases hc with (hc | hc) | rfl | rfl
        · exact digits c hc
        · exact zeros _ c hc
        · exact dot
        · exact zero
      · simp only [List.mem_append, List.mem_cons] at hc
        rcases hc with hc | rfl | hc
        · exact digits c (List.mem_of_mem_take hc)
        · exact dot
        · exact digits c (List.mem_of_mem_drop hc)

theorem magnitudeText_chars (m : Nat) (q : Int) : ∀ c ∈ magnitudeText m q, IsTextual c := by
  intro c hc
  unfold magnitudeText at hc
  split at hc
  · have tens : ∀ c ∈ ['0', '.', '0'], c = '0' ∨ c = '.' := by simp
    rcases tens c hc with rfl | rfl
    · exact .inl ⟨0, by decide, rfl⟩
    · exact .inr (by decide)
  · exact layOut_chars (fun c hc => ofNat_tens _ c (dropZeros_subset _ c hc)) _ c hc

/-- **The characters of the text of a value.** -/
theorem text_chars (x : Binary64) : ∀ c ∈ x.text, IsTextual c := by
  have word : ∀ c ∈ "nan".toList ++ "-inf".toList, IsTextual c := fun c hc =>
    .inr (List.all_iff_forall_prop.mp (by decide) c hc)
  intro c hc
  unfold text at hc
  split at hc
  · exact word c (List.mem_append_left _ hc)
  · exact word c (List.mem_append_right _ (List.mem_cons_of_mem _ hc))
  · exact word c (List.mem_append_right _ hc)
  · exact magnitudeText_chars _ _ c hc
  · rcases List.mem_cons.mp hc with rfl | hc
    · exact .inr (by decide)
    · exact magnitudeText_chars _ _ c hc

end SearchFilters.Binary64
