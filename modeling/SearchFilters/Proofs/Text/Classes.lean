import Mathlib.Data.Bool.AllAny
import SearchFilters.Query.Lexeme
import SearchFilters.Text.DecimalDigit

/-!
# Proofs — Text — Classes

What trimming keeps of a text, and how blanks lie to the other classes of characters: no blank is a
word character, a digit or a character of a field name.  The classes are ranges of code points, so
that two of them are apart is a comparison of their ranges (`Ranges.Apart`).
-/

namespace SearchFilters.Text

/-- Two sets of code points no range of which meets one of the other. -/
def Ranges.Apart (rs ss : Ranges) : Prop := ∀ a ∈ rs, ∀ b ∈ ss, a.2 < b.1 ∨ b.2 < a.1

instance (rs ss : Ranges) : Decidable (rs.Apart ss) :=
  inferInstanceAs (Decidable (∀ a ∈ rs, ∀ b ∈ ss, a.2 < b.1 ∨ b.2 < a.1))

/-- No character is of two classes that are apart. -/
theorem Ranges.Apart.not_has {rs ss : Ranges} (h : rs.Apart ss) {n : Nat} (hn : rs.has n = true) :
    ss.has n = false := by
  rw [Ranges.has, List.any_eq_true] at hn
  obtain ⟨a, ha, hn⟩ := hn
  rw [Ranges.has, List.any_eq_false]
  intro b hb hb'
  simp only [Bool.and_eq_true, decide_eq_true_eq] at hn hb'
  have := h a ha b hb
  omega

/-! ### Blanks at the ends -/

/-- Trimming stops at a character that is not blank. -/
theorem dropBlanksRight_concat {c : Char} (h : isBlank c = false) (s : List Char) :
    dropBlanksRight (s ++ [c]) = s ++ [c] := by
  rw [dropBlanksRight, List.reverse_append, List.reverse_singleton, List.singleton_append,
    List.dropWhile_cons_of_neg (by simp [h]), List.reverse_cons, List.reverse_reverse]

/-- Blanks at the end are dropped. -/
theorem dropBlanksRight_append_blanks {b : List Char} (hb : ∀ c ∈ b, isBlank c = true)
    (s : List Char) : dropBlanksRight (s ++ b) = dropBlanksRight s := by
  rw [dropBlanksRight, List.reverse_append, List.dropWhile_append_of_pos, dropBlanksRight]
  exact fun c hc => hb c (List.mem_reverse.mp hc)

/-- Blanks are all that is dropped. -/
theorem dropBlanksRight_append (s : List Char) :
    ∃ b, dropBlanksRight s ++ b = s ∧ ∀ c ∈ b, isBlank c = true := by
  refine ⟨(s.reverse.takeWhile isBlank).reverse, ?_, fun c hc => ?_⟩
  · rw [dropBlanksRight, ← List.reverse_append, List.takeWhile_append_dropWhile,
      List.reverse_reverse]
  · exact List.all_eq_true.mp List.all_takeWhile c (List.mem_reverse.mp hc)

/-- Blanks are all that is trimmed. -/
theorem trim_append (s : List Char) :
    ∃ a b, a ++ trim s ++ b = s ∧ (∀ c ∈ a, isBlank c = true) ∧ ∀ c ∈ b, isBlank c = true := by
  obtain ⟨b, e, hb⟩ := dropBlanksRight_append (s.dropWhile isBlank)
  refine ⟨s.takeWhile isBlank, b, ?_, List.all_eq_true.mp List.all_takeWhile, hb⟩
  rw [trim, List.append_assoc, e, List.takeWhile_append_dropWhile]

/-- A trimmed text does not begin with a blank. -/
theorem head?_trim (s : List Char) : ∀ c ∈ (trim s).head?, isBlank c = false := by
  intro c hc
  obtain ⟨b, e, -⟩ := dropBlanksRight_append (s.dropWhile isBlank)
  have := List.head?_dropWhile_not isBlank s
  rw [← e, List.head?_append, show (dropBlanksRight (s.dropWhile isBlank)).head? = some c from hc]
    at this
  simpa using this

/-- A trimmed text does not end in a blank. -/
theorem getLast?_trim (s : List Char) : ∀ c ∈ (trim s).getLast?, isBlank c = false := by
  intro c hc
  rw [trim, dropBlanksRight, List.getLast?_reverse] at hc
  have := List.head?_dropWhile_not isBlank (s.dropWhile isBlank).reverse
  rw [hc] at this
  simpa using this

/-- A text without blanks at its ends is not trimmed. -/
theorem trim_eq_self {s : List Char} (hd : ∀ c ∈ s.head?, isBlank c = false)
    (hl : ∀ c ∈ s.getLast?, isBlank c = false) : trim s = s := by
  have e : s.dropWhile isBlank = s := by
    cases s with
    | nil => rfl
    | cons c s => rw [List.dropWhile_cons_of_neg (by simp [hd c rfl])]
  rw [trim, e]
  rcases List.eq_nil_or_concat s with rfl | ⟨l, c, rfl⟩
  · rfl
  · rw [List.concat_eq_append]
    exact dropBlanksRight_concat (hl c (by simp)) l

/-- Blanks in front of a text are trimmed. -/
theorem trim_blanks_append {a : List Char} (ha : ∀ c ∈ a, isBlank c = true) (s : List Char) :
    trim (a ++ s) = trim s := by
  rw [trim, trim, List.dropWhile_append_of_pos ha]

/-- Blanks behind a text are trimmed. -/
theorem trim_append_blanks {b : List Char} (hb : ∀ c ∈ b, isBlank c = true) (s : List Char) :
    trim (s ++ b) = trim s := by
  rw [trim, trim, List.dropWhile_append]
  split
  · next h =>
    have e : (b ++ []).dropWhile isBlank = [] := List.dropWhile_append_of_pos hb
    rw [List.append_nil] at e
    rw [List.isEmpty_iff.mp h, e]
  · exact dropBlanksRight_append_blanks hb _

/-- What stands between two trimmed texts is not trimmed. -/
theorem trim_between {a b : List Char} (ha : trim a = a) (hb : trim b = b) (hna : a ≠ [])
    (hnb : b ≠ []) (m : List Char) : trim (a ++ (m ++ b)) = a ++ (m ++ b) := by
  refine trim_eq_self (fun c hc => head?_trim a c ?_) fun c hc => getLast?_trim b c ?_
  · rw [ha]
    cases a with
    | nil => exact absurd rfl hna
    | cons d a => exact hc
  · rw [hb]
    rwa [← List.append_assoc, List.getLast?_append, List.getLast?_eq_some_getLast hnb,
      Option.some_or, ← List.getLast?_eq_some_getLast hnb] at hc

/-! ### Blanks and words -/

theorem blankRanges_apart_wordRanges : blankRanges.Apart wordRanges := by decide +kernel

/-- The blanks among the first 128 code points. -/
theorem isBlank_ascii : ∀ n < 128, blankRanges.has n = true →
    (9 ≤ n ∧ n ≤ 13) ∨ (28 ≤ n ∧ n ≤ 32) := by decide

theorem not_isWord_of_isBlank {c : Char} (h : isBlank c = true) : isWord c = false := by
  unfold isBlank at h
  unfold isWord
  split
  · next hc =>
    have hn := isBlank_ascii c.toNat hc h
    have hu : c ≠ '_' := by
      rintro rfl
      revert hn
      decide
    unfold Char.isAlphanum Char.isAlpha Char.isUpper Char.isLower Char.isDigit
    simp only [Bool.or_eq_false_iff, Bool.and_eq_false_iff, decide_eq_false_iff_not,
      beq_eq_false_iff_ne, ge_iff_le, UInt32.le_iff_toNat_le, Char.toNat_val]
    refine ⟨⟨⟨?_, ?_⟩, ?_⟩, hu⟩ <;> simp <;> omega
  · exact blankRanges_apart_wordRanges.not_has h

theorem blankRanges_apart_digitRanges : blankRanges.Apart digitRanges := by decide +kernel

theorem not_isBlank_of_isDigit {c : Char} (h : isDigit c = true) : isBlank c = false := by
  rw [← Bool.not_eq_true]
  intro hb
  have hd := blankRanges_apart_digitRanges.not_has hb
  rw [Ranges.has, List.any_eq_false] at hd
  have : digitRanges.start? c.toNat = none := by
    rw [Ranges.start?, List.find?_eq_none.mpr hd, Option.map_none]
  rw [isDigit, digit?, this] at h
  cases h

end SearchFilters.Text

namespace SearchFilters.Query
open Text

theorem not_isBlank_of_isNameChar {c : Char} (h : isNameChar c = true) : isBlank c = false := by
  rw [← Bool.not_eq_true]
  intro hb
  simp only [isNameChar, isNameStart, not_isWord_of_isBlank hb, Bool.false_or, Bool.or_eq_true,
    beq_iff_eq] at h
  rcases h with ((((rfl | rfl) | rfl) | rfl)) | rfl <;> revert hb <;> decide

theorem isNameChar_of_isNameStart {c : Char} (h : isNameStart c = true) : isNameChar c = true := by
  rw [isNameChar, h, Bool.true_or]

end SearchFilters.Query
