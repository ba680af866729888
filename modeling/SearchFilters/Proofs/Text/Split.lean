import SearchFilters.Text.Split

/-!
# Proofs — Text — Split

Where texts are cut.

A separator of one character is found wherever it stands, so that parts without it are found again
when they are joined by it and split (`splitAll_intercalate`), and no part that is split off holds
it (`not_mem_of_mem_splitAll`).  A separator of two equal characters may also come up where two
parts meet, if the first ends in the character; this is why `cut?_pair` asks about the part with the
character behind it.  A text is cut exactly if the separator occurs in it (`isSome_cut?_iff`).
-/

namespace SearchFilters.Text

variable {sep : Char} {s : List Char}

/-! ### The first separator -/

/-- **A text is cut exactly if the separator occurs in it.** -/
theorem isSome_cut?_iff {sep s : List Char} : (cut? sep s).isSome ↔ sep <:+: s := by
  induction s with
  | nil => cases sep <;> simp [cut?]
  | cons c s ih =>
      rw [cut?, List.infix_cons_iff, ← ih, ← List.isPrefixOf_iff_prefix]
      split
      · next h => simp [h]
      · next h => simp [h]

/-- **A separator of two equal characters cuts where it is put**, unless it occurs earlier. -/
theorem cut?_pair {l : List Char} (h : ¬[sep, sep] <:+: l ++ [sep]) (r : List Char) :
    cut? [sep, sep] (l ++ [sep, sep] ++ r) = some (l, r) := by
  induction l with
  | nil => simp [cut?]
  | cons c l ih =>
      rw [List.cons_append, List.infix_cons_iff, not_or] at h
      have first : ¬[sep, sep].isPrefixOf (c :: (l ++ [sep, sep] ++ r)) = true := by
        rw [List.isPrefixOf_iff_prefix]
        intro hp
        refine h.1 ?_
        cases l <;> simpa [List.cons_prefix_cons] using hp
      rw [List.cons_append, List.cons_append, cut?, if_neg first, ih h.2]
      rfl

/-- A pair of separators does not begin in a part without separators. -/
theorem infix_pair_append_iff {l : List Char} (h : sep ∉ l) :
    [sep, sep] <:+: l ++ s ↔ [sep, sep] <:+: s := by
  induction l with
  | nil => rfl
  | cons c l ih =>
      rw [List.mem_cons, not_or] at h
      rw [List.cons_append, List.infix_cons_iff, ih h.2, List.cons_prefix_cons]
      exact or_iff_right fun hp => h.1 hp.1

/-! ### All separators -/

/-- Splitting at a character is that of the library. -/
theorem splitAll_eq_splitOn (sep : Char) (s : List Char) : splitAll sep s = s.splitOn sep := by
  induction s with
  | nil => rfl
  | cons c s ih =>
      rw [List.splitOn_cons_eq_if_modifyHead, ← ih, splitAll]
      cases hs : splitAll sep s with
      | nil => exact absurd hs (splitAll_ne_nil sep s)
      | cons p ps => rfl

/-- **Parts that are joined by a separator are split again.** -/
theorem splitAll_intercalate {parts : List (List Char)} (h : ∀ p ∈ parts, sep ∉ p)
    (hne : parts ≠ []) : splitAll sep ([sep].intercalate parts) = parts := by
  rw [splitAll_eq_splitOn]
  exact List.splitOn_intercalate sep h hne

/-- **The separator does not occur in the parts.** -/
theorem not_mem_of_mem_splitAll {p : List Char} (h : p ∈ splitAll sep s) : sep ∉ p := by
  induction s generalizing p with
  | nil =>
      cases List.mem_singleton.mp h
      exact List.not_mem_nil
  | cons c s ih =>
      cases hs : splitAll sep s with
      | nil => exact absurd hs (splitAll_ne_nil sep s)
      | cons q qs =>
          rw [hs] at ih
          simp only [splitAll, hs] at h
          split at h
          · rcases List.mem_cons.mp h with rfl | h
            · exact List.not_mem_nil
            · exact ih h
          · next hc =>
            rcases List.mem_cons.mp h with rfl | h
            · rw [List.mem_cons, not_or]
              exact ⟨fun e => hc (beq_iff_eq.mpr e.symm), ih List.mem_cons_self⟩
            · exact ih (List.mem_cons_of_mem _ h)

end SearchFilters.Text
