import SearchFilters.Number.Reading

/-!
# Proofs — Number — Plain

Where a plain decimal ends in a text.

A plain decimal is digits, or digits around a point with at least one of them behind it
(`eq_of_spanPlain`).  A point without a digit behind it does not belong to it; so what stands after
a decimal matters if it begins with a digit or with a point, and only then (`EndsPlain`,
`spanPlain_append`).
-/

namespace SearchFilters.Binary64
open Text

/-- A text that neither a digit nor a point begins. -/
def EndsPlain : List Char → Prop
  | [] => True
  | c :: _ => isDigit c = false ∧ c ≠ '.'

theorem spanDigits_append {w t : List Char} (hw : ∀ c ∈ w, isDigit c = true)
    (ht : ∀ c ∈ t.head?, isDigit c = false) : spanDigits (w ++ t) = (w, t) := by
  have e : t.takeWhile isDigit = [] ∧ t.dropWhile isDigit = t := by
    cases t with
    | nil => exact ⟨rfl, rfl⟩
    | cons c t => simp [ht c rfl]
  rw [spanDigits, List.takeWhile_append_of_pos hw, List.dropWhile_append_of_pos hw, e.1, e.2,
    List.append_nil]

theorem EndsPlain.head {t : List Char} (h : EndsPlain t) : ∀ c ∈ t.head?, isDigit c = false := by
  cases t with
  | nil => intro c hc; cases hc
  | cons d t => rintro c ⟨⟩; exact h.1

/-- Digits without a fraction are read to their end. -/
theorem spanPlain_whole {w t : List Char} (hw : ∀ c ∈ w, isDigit c = true) (hne : w ≠ [])
    (ht : EndsPlain t) : spanPlain (w ++ t) = some ((w, []), t) := by
  unfold spanPlain
  rw [spanDigits_append hw ht.head]
  split
  · next e => cases e; exact absurd rfl ht.2
  · next e => cases e; exact absurd rfl hne
  · next e => cases e; rfl

/-- Digits with a fraction are read to their end. -/
theorem spanPlain_fraction {w f t : List Char} (hw : ∀ c ∈ w, isDigit c = true)
    (hf : ∀ c ∈ f, isDigit c = true) (hne : f ≠ []) (ht : EndsPlain t) :
    spanPlain (w ++ '.' :: f ++ t) = some ((w, f), t) := by
  have hd : ∀ c ∈ ('.' :: (f ++ t)).head?, isDigit c = false := by
    rintro c ⟨⟩
    decide
  unfold spanPlain
  rw [List.append_assoc, List.cons_append, spanDigits_append hw hd]
  simp only [spanDigits_append hf ht.head]

/-- **What a plain decimal looks like**: digits, or digits around a point with at least one after
it. -/
theorem eq_of_spanPlain {s w f r : List Char} (h : spanPlain s = some ((w, f), r)) :
    (∀ c ∈ w, isDigit c = true) ∧ (∀ c ∈ f, isDigit c = true) ∧
      (s = w ++ r ∧ f = [] ∧ w ≠ [] ∨ s = w ++ '.' :: f ++ r ∧ f ≠ []) := by
  have digits (s : List Char) : ∀ c ∈ s.takeWhile isDigit, isDigit c = true :=
    List.all_eq_true.mp List.all_takeWhile
  have whole (s : List Char) : s.takeWhile isDigit ++ s.dropWhile isDigit = s :=
    List.takeWhile_append_dropWhile
  unfold spanPlain spanDigits at h
  split at h
  · next w' r' hw =>
    simp only [Prod.mk.injEq] at hw
    split at h
    · split at h
      · cases h
      · next hne =>
        cases h
        refine ⟨hw.1 ▸ digits s, by simp, .inl ⟨?_, rfl, by simpa using hne⟩⟩
        rw [← hw.1, ← hw.2, whole]
    · next f' r'' hne hf =>
      cases h
      simp only [Prod.mk.injEq] at hf
      refine ⟨hw.1 ▸ digits s, hf.1 ▸ digits r', .inr ⟨?_, fun e => hne e⟩⟩
      rw [← hw.1, ← hf.1, ← hf.2, List.append_assoc, List.cons_append, whole, ← hw.2, whole]
  · cases h
  · next w' r' hne _ hw =>
    cases h
    simp only [Prod.mk.injEq] at hw
    refine ⟨hw.1 ▸ digits s, by simp, .inl ⟨?_, rfl, ?_⟩⟩
    · rw [← hw.1, ← hw.2, whole]
    · rintro rfl
      simp_all

/-- **A plain decimal is read alike whatever stands behind it**, as long as neither a digit nor a
point does. -/
theorem spanPlain_append {s t w f : List Char} (h : spanPlain s = some ((w, f), []))
    (ht : EndsPlain t) : spanPlain (s ++ t) = some ((w, f), t) := by
  obtain ⟨hw, hf, ⟨rfl, rfl, hne⟩ | ⟨rfl, hne⟩⟩ := eq_of_spanPlain h
  · rw [List.append_nil]
    exact spanPlain_whole hw hne ht
  · rw [List.append_nil]
    exact spanPlain_fraction hw hf hne ht

/-- The plain decimal at the front of a text is one by itself. -/
theorem ofPlain?_of_spanPlain {s w f r : List Char} (h : spanPlain s = some ((w, f), r)) :
    ∃ l x, l ++ r = s ∧ ofPlain? l = some x := by
  obtain ⟨hw, hf, ⟨rfl, rfl, hne⟩ | ⟨rfl, hne⟩⟩ := eq_of_spanPlain h
  · have e := spanPlain_whole hw hne (t := []) trivial
    rw [List.append_nil] at e
    exact ⟨w, _, rfl, by rw [ofPlain?, e]⟩
  · have e := spanPlain_fraction hw hf hne (t := []) trivial
    rw [List.append_nil] at e
    exact ⟨w ++ '.' :: f, _, rfl, by rw [ofPlain?, e]⟩

/-- A text that is a plain decimal as a whole. -/
theorem spanPlain_of_ofPlain? {s : List Char} {x : Binary64} (h : ofPlain? s = some x) :
    ∃ w f, spanPlain s = some ((w, f), []) := by
  unfold ofPlain? at h
  split at h
  · next w f e => exact ⟨w, f, e⟩
  · cases h

/-- The characters of a plain decimal. -/
theorem chars_of_ofPlain? {s : List Char} {x : Binary64} (h : ofPlain? s = some x) :
    s ≠ [] ∧ ∀ c ∈ s, isDigit c = true ∨ c = '.' := by
  obtain ⟨w, f, e⟩ := spanPlain_of_ofPlain? h
  obtain ⟨hw, hf, ⟨rfl, -, hne⟩ | ⟨rfl, hne⟩⟩ := eq_of_spanPlain e
  · rw [List.append_nil]
    exact ⟨hne, fun c hc => .inl (hw c hc)⟩
  · rw [List.append_nil]
    refine ⟨by simp, fun c hc => ?_⟩
    rcases List.mem_append.mp hc with hc | hc
    · exact .inl (hw c hc)
    · exact (List.mem_cons.mp hc).symm.imp_left (hf c)

end SearchFilters.Binary64
