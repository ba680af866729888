import SearchFilters.Proofs.Text.Classes
import SearchFilters.Query.Escape

/-!
# Proofs — Query — Escape

Writing escapes and reading them.

`Escaped p s` says that `s` is a row of units, each a character of the class `p` or a backslash with
the character it escapes; reading such a row goes to its end (`Escaped.span`), and dropping the
escapes of what was written gives the text written (`unescape_escapeQuoted`, `unescape_escapeWord`).

A text is *legible* when it can be written as a word: it is not empty, and its only blanks are those
that are escaped.  What is written for a text is such a row exactly if all its characters are those
of legible texts (`escaped_escapeWord_iff`).
-/

namespace SearchFilters.Query
open Text

/-- A row of characters of a class and of escaped characters. -/
inductive Escaped (p : Char → Bool) : List Char → Prop where
  | nil : Escaped p []
  | plain {c : Char} {s : List Char} (hc : c ≠ '\\') (hp : p c = true) (h : Escaped p s) :
      Escaped p (c :: s)
  | pair {c : Char} {s : List Char} (hc : c ≠ '\n') (h : Escaped p s) : Escaped p ('\\' :: c :: s)

theorem unescape_cons {c : Char} (hc : c ≠ '\\') (s : List Char) :
    unescape (c :: s) = c :: unescape s := by
  rw [unescape]
  exact fun d u e _ => hc e

/-- A row goes on over every character of the class. -/
theorem spanEscaped_cons {p : Char → Bool} {c : Char} (hc : c ≠ '\\') (s : List Char) :
    spanEscaped p (c :: s) =
      if p c then (c :: (spanEscaped p s).1, (spanEscaped p s).2) else ([], c :: s) := by
  rw [spanEscaped]
  · simp [hc]
  · exact fun d t e _ => hc e

namespace Escaped
variable {p : Char → Bool} {s : List Char}

/-- **A row is read to its end**, and on into what follows it. -/
theorem span (h : Escaped p s) (r : List Char) :
    spanEscaped p (s ++ r) = (s ++ (spanEscaped p r).1, (spanEscaped p r).2) := by
  induction h with
  | nil => rfl
  | plain hc hp _ ih =>
      rw [List.cons_append, spanEscaped_cons hc, if_pos hp, ih]
      rfl
  | @pair c s hc _ ih =>
      have e : spanEscaped p ('\\' :: c :: (s ++ r)) =
          ('\\' :: c :: (spanEscaped p (s ++ r)).1, (spanEscaped p (s ++ r)).2) := by
        rw [spanEscaped, if_neg (by simpa using hc)]
      rw [List.cons_append, List.cons_append, e, ih]
      rfl

/-- What is read is a row. -/
theorem of_span (p : Char → Bool) (s : List Char) : Escaped p (spanEscaped p s).1 := by
  fun_induction spanEscaped p s with
  | case1 c r hc => exact .nil
  | case2 c r hc l r' e ih => rw [e] at ih; exact .pair (by simpa using hc) ih
  | case3 c r _ hc l r' e ih =>
      rw [e] at ih
      simp only [Bool.and_eq_true, bne_iff_ne] at hc
      exact .plain hc.1 hc.2 ih
  | case4 c r _ _ | case5 => exact .nil

theorem plain_iff {c : Char} (hc : c ≠ '\\') : Escaped p (c :: s) ↔ p c = true ∧ Escaped p s := by
  refine ⟨fun h => ?_, fun ⟨hp, h⟩ => .plain hc hp h⟩
  cases h with
  | plain _ hp h => exact ⟨hp, h⟩
  | pair _ _ => exact absurd rfl hc

theorem pair_iff {c : Char} : Escaped p ('\\' :: c :: s) ↔ c ≠ '\n' ∧ Escaped p s := by
  refine ⟨fun h => ?_, fun ⟨hn, h⟩ => .pair hn h⟩
  cases h with
  | plain hne _ _ => exact absurd rfl hne
  | pair hn h => exact ⟨hn, h⟩

/-- A row stops where neither a backslash nor a character of the class follows. -/
theorem span_of_stop {c : Char} (h : Escaped p s) (hc : c ≠ '\\') (hp : p c = false)
    (r : List Char) : spanEscaped p (s ++ c :: r) = (s, c :: r) := by
  rw [h.span, spanEscaped_cons hc, if_neg (by simp [hp]), List.append_nil]

end Escaped

/-- A text of escaped characters ends as the text without the escapes does. -/
theorem getLast?_unescape {p : Char → Bool} {l : List Char} (h : Escaped p l) :
    (unescape l).getLast? = l.getLast? := by
  induction h with
  | nil => rfl
  | @plain c s hc hp hs ih =>
      rw [unescape_cons hc, List.getLast?_cons, List.getLast?_cons, ih]
  | @pair c s hc hs ih =>
      rw [unescape, List.getLast?_cons, List.getLast?_cons, List.getLast?_cons, ih]
      rfl

theorem unescape_ne_nil {p : Char → Bool} {l : List Char} (h : Escaped p l) (hne : l ≠ []) :
    unescape l ≠ [] := by
  intro e
  have := getLast?_unescape h
  rw [e] at this
  exact hne (List.getLast?_eq_none_iff.mp this.symm)

/-! ### Writing escapes -/

/-- A text with a backslash before the characters of a class. -/
def escapeAll (q : Char → Bool) (s : List Char) : List Char :=
  s.flatMap fun c => if q c then ['\\', c] else [c]

theorem escapeQuoted_eq (s : List Char) :
    escapeQuoted s = escapeAll (fun c => c == '\\' || c == '"') s := rfl

/-- The escapes of words are of this form, and so are those of phrases. -/
theorem escapeSpecials_eq (s : List Char) : escapeSpecials s = escapeAll wordSpecials.contains s :=
  rfl

theorem escapeAll_cons (q : Char → Bool) (c : Char) (s : List Char) :
    escapeAll q (c :: s) = (if q c then ['\\', c] else [c]) ++ escapeAll q s := rfl

/-- What is written is a row if each character may stand as it is written. -/
theorem escaped_escapeAll_iff {p q : Char → Bool} (hq : q '\\' = true) {s : List Char} :
    Escaped p (escapeAll q s) ↔ ∀ c ∈ s, if q c = true then c ≠ '\n' else p c = true := by
  induction s with
  | nil => exact iff_of_true .nil (List.forall_mem_nil _)
  | cons c s ih =>
      rw [List.forall_mem_cons, ← ih, escapeAll_cons]
      cases h : q c with
      | true => exact Escaped.pair_iff
      | false =>
          have hc : c ≠ '\\' := fun e => by rw [e, hq] at h; cases h
          exact Escaped.plain_iff hc

/-- Dropping the escapes undoes writing them, if backslashes are escaped. -/
theorem unescape_escapeAll {q : Char → Bool} (hq : q '\\' = true) (s : List Char) :
    unescape (escapeAll q s) = s := by
  induction s with
  | nil => rfl
  | cons c s ih =>
      rw [escapeAll_cons]
      cases h : q c with
      | true => exact congrArg (c :: ·) ih
      | false =>
          have hc : c ≠ '\\' := fun e => by rw [e, hq] at h; cases h
          exact (unescape_cons hc _).trans (congrArg (c :: ·) ih)

/-! ### Phrases -/

/-- A written phrase does not end before its quote. -/
theorem escaped_escapeQuoted (s : List Char) : Escaped (· != '"') (escapeQuoted s) := by
  rw [escapeQuoted_eq, escaped_escapeAll_iff rfl]
  intro c _
  split
  · rintro rfl
    revert ‹_›
    decide
  · next h =>
    simp only [Bool.or_eq_true, not_or, beq_iff_eq] at h
    simpa using h.2

theorem unescape_escapeQuoted (s : List Char) : unescape (escapeQuoted s) = s :=
  unescape_escapeAll rfl s

/-! ### Words -/

/-- A character that a word may hold: no blank but those that are escaped in a line. -/
def isLegible (c : Char) : Bool := !isBlank c || c == ' ' || c == '\t' || c == '\r'

/-- A text that can be written as a word. -/
def Legible (s : List Char) : Prop := s ≠ [] ∧ ∀ c ∈ s, isLegible c = true

/-- A legible character that need not be escaped stands in a word. -/
theorem isWordChar_of_not_special {c : Char} (h : isLegible c = true)
    (hc : wordSpecials.contains c = false) : c ≠ '\\' ∧ isWordChar c = true := by
  have hne : ∀ d ∈ wordSpecials, c ≠ d := by
    rintro d hd rfl
    rw [List.contains_iff_mem.mpr hd] at hc
    cases hc
  refine ⟨hne _ (by decide), ?_⟩
  have hb : isBlank c = false := by
    simp only [isLegible, Bool.or_eq_true, beq_iff_eq, Bool.not_eq_true'] at h
    rcases h with ((h | h) | h) | h
    · exact h
    · exact absurd h (hne _ (by decide))
    · exact absurd h (hne _ (by decide))
    · exact absurd h (hne _ (by decide))
  have hm : (":\\()\x7b\x7d[]\"/^~".toList.contains c) = false := by
    rw [← Bool.not_eq_true, List.contains_iff_mem]
    intro hm
    have : ∀ d ∈ ":\\()\x7b\x7d[]\"/^~".toList, d ∈ wordSpecials :=
      List.all_iff_forall_prop.mp (by decide)
    exact hne c (this c hm) rfl
  rw [isWordChar, hb, hm]
  rfl

theorem ne_newline_of_isLegible {c : Char} (h : isLegible c = true) : c ≠ '\n' := by
  rintro rfl
  revert h
  decide

/-- **The characters of words** are those that may stand as they are written. -/
theorem isLegible_iff {c : Char} :
    isLegible c = true ↔
      if wordSpecials.contains c = true then c ≠ '\n' else isWordChar c = true := by
  split
  · next h =>
    have special : ∀ d ∈ wordSpecials, d ≠ '\n' → isLegible d = true :=
      List.all_iff_forall_prop.mp (by decide)
    exact ⟨ne_newline_of_isLegible, special c (List.contains_iff_mem.mp h)⟩
  · next h =>
    refine ⟨fun hc => (isWordChar_of_not_special hc (Bool.eq_false_iff.mpr h)).2, fun hc => ?_⟩
    rw [isWordChar, Bool.and_eq_true] at hc
    rw [isLegible, hc.1]
    rfl

/-- With its special characters escaped a text is a row exactly if all its characters are legible.
-/
theorem escaped_escapeSpecials_iff {s : List Char} :
    Escaped isWordChar (escapeSpecials s) ↔ ∀ c ∈ s, isLegible c = true := by
  rw [escapeSpecials_eq, escaped_escapeAll_iff rfl]
  exact forall₂_congr fun c _ => isLegible_iff.symm

theorem unescape_escapeSpecials (s : List Char) : unescape (escapeSpecials s) = s :=
  unescape_escapeAll rfl s

/-- A keyword begins with a letter and has nothing to escape. -/
theorem exists_cons_of_keyword : ∀ k ∈ keywords, ∃ c r, k = c :: r ∧
    wordSpecials.contains c = false ∧ c ≠ '\n' ∧ r = escapeSpecials r := by
  simp only [keywords, List.mem_cons, List.not_mem_nil, or_false, forall_eq_or_imp, forall_eq]
  exact ⟨⟨_, _, rfl, by decide, by decide, by decide⟩, ⟨_, _, rfl, by decide, by decide, by decide⟩,
    ⟨_, _, rfl, by decide, by decide, by decide⟩⟩

/-- How a word is written: as it is with its special characters escaped, or with a backslash in
front of all that. -/
theorem escapeWord_cases (s : List Char) :
    (escapeWord s = escapeSpecials s ∧ s ∉ keywords ∧ s.head? ≠ some '+' ∧ s.head? ≠ some '-') ∨
      ∃ c r, s = c :: r ∧ wordSpecials.contains c = false ∧ c ≠ '\n' ∧
        escapeWord s = '\\' :: c :: escapeSpecials r ∧ (s ∈ keywords ∨ c = '+' ∨ c = '-') := by
  unfold escapeWord
  split
  · next hk =>
    have hk := List.contains_iff_mem.mp hk
    obtain ⟨c, r, e, hs, hn, hr⟩ := exists_cons_of_keyword s hk
    exact .inr ⟨c, r, e, hs, hn, by rw [← hr, e], .inl hk⟩
  · next hk =>
    have hk : s ∉ keywords := fun h => hk (List.contains_iff_mem.mpr h)
    cases s with
    | nil => exact .inl ⟨rfl, hk, by simp, by simp⟩
    | cons c r =>
        by_cases hp : c = '+'
        · subst hp
          exact .inr ⟨'+', r, rfl, by decide, by decide, rfl, .inr (.inl rfl)⟩
        · by_cases hm : c = '-'
          · subst hm
            exact .inr ⟨'-', r, rfl, by decide, by decide, rfl, .inr (.inr rfl)⟩
          · refine .inl ⟨?_, hk, by simpa using hp, by simpa using hm⟩
            -- the sign is looked for in the escaped text, which begins as the word or with a
            -- backslash
            rw [escapeSpecials_eq, escapeAll_cons]
            cases wordSpecials.contains c
            · simp only [Bool.false_eq_true, if_false, List.cons_append, List.nil_append]
              split
              · next e => cases e; exact absurd rfl hp
              · next e => cases e; exact absurd rfl hm
              · rfl
            · rfl

/-- **Nothing ends a written word** if its characters are legible, and only then. -/
theorem escaped_escapeWord_iff {s : List Char} :
    Escaped isWordChar (escapeWord s) ↔ ∀ c ∈ s, isLegible c = true := by
  rcases escapeWord_cases s with ⟨e, -⟩ | ⟨c, r, rfl, -, hn, e, hc⟩
  · rw [e, escaped_escapeSpecials_iff]
  · -- the backslash in front stands before a letter of a keyword or before a sign
    have first : isLegible c = true := by
      rcases hc with hc | rfl | rfl
      · have keyword : ∀ k ∈ keywords, isLegible (k.headD '\n') = true :=
          List.all_iff_forall_prop.mp (by decide)
        simpa using keyword (c :: r) hc
      · decide
      · decide
    rw [e, Escaped.pair_iff, escaped_escapeSpecials_iff, List.forall_mem_cons]
    exact and_congr_left' (iff_of_true hn first)

/-- **A written word stands for the word.** -/
theorem unescape_escapeWord (s : List Char) : unescape (escapeWord s) = s := by
  rcases escapeWord_cases s with ⟨e, -⟩ | ⟨c, r, rfl, -, -, e, -⟩
  · rw [e, unescape_escapeSpecials]
  · rw [e, unescape, unescape_escapeSpecials]

theorem escapeAll_concat (q : Char → Bool) (s : List Char) (c : Char) :
    ∃ u, escapeAll q (s ++ [c]) = u ++ [c] := by
  rw [escapeAll, List.flatMap_append, List.flatMap_singleton]
  split
  · exact ⟨escapeAll q s ++ ['\\'], by simp [escapeAll]⟩
  · exact ⟨escapeAll q s, rfl⟩

/-- A written word ends as the word does. -/
theorem escapeWord_concat (s : List Char) (c : Char) : ∃ u, escapeWord (s ++ [c]) = u ++ [c] := by
  rcases escapeWord_cases (s ++ [c]) with ⟨e, -⟩ | ⟨d, r, hs, -, -, e, -⟩
  · rw [e]
    exact escapeAll_concat _ s c
  · rw [e]
    -- the last character of the word is that of `r`, or `d` where nothing follows it
    rcases List.eq_nil_or_concat r with rfl | ⟨r', d', rfl⟩
    · rw [← List.nil_append [d]] at hs
      obtain ⟨-, rfl⟩ := List.append_singleton_inj.mp hs
      exact ⟨['\\'], rfl⟩
    · rw [List.concat_eq_append, ← List.cons_append] at hs
      obtain ⟨-, rfl⟩ := List.append_singleton_inj.mp hs
      obtain ⟨u, hu⟩ := escapeAll_concat wordSpecials.contains r' c
      exact ⟨'\\' :: d :: u, by rw [List.concat_eq_append, escapeSpecials_eq, hu]; rfl⟩

/-- A written word begins as words begin. -/
theorem beginsWord_escapeWord {s : List Char} (h : Legible s) (r : List Char) :
    beginsWord (escapeWord s ++ r) = true := by
  obtain ⟨hne, hl⟩ := h
  rcases escapeWord_cases s with ⟨e, -, hp, hm⟩ | ⟨c, t, rfl, -, hn, e, -⟩
  · obtain ⟨c, t, rfl⟩ := List.exists_cons_of_ne_nil hne
    have hc := hl c (List.mem_cons_self ..)
    rw [e, escapeSpecials_eq, escapeAll_cons]
    cases h : wordSpecials.contains c with
    | true => simpa [beginsWord] using ne_newline_of_isLegible hc
    | false =>
        obtain ⟨hb, hw⟩ := isWordChar_of_not_special hc h
        simp only [List.head?_cons, ne_eq, Option.some.injEq] at hp hm
        simp [beginsWord, isWordStart, hb, hw, hp, hm]
  · rw [e]
    simpa [beginsWord] using hn

end SearchFilters.Query
