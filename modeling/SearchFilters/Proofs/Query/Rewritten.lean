import SearchFilters.Proofs.Number.Modifier
import SearchFilters.Proofs.Query.Lexical

/-!
# Proofs — Query — Rewritten

Words and modifiers that are read and written again.

A text is a word as a whole when it is a row of escaped characters that begins as words do
(`splitWord_eq_some_self_iff`).  The text that is written for it is such a row as well, but for the
blanks that writing does not escape (`escapeWord_unescape_of_splitWord`); it need not be the same
text, as escapes that say nothing are not written again.

A modifier is its mark and a plain decimal (`split_modifier_iff`).  What is written for its number
reads back if it is finite (`modifierText_of_split`), but not always as a plain decimal: a tiny
number has an exponent, and a modifier takes none.

`not_splitWord_escapeWord_formFeed` and `not_split_modifierText_tiny` are a word and a modifier that
are written as something else.
-/

namespace SearchFilters.Query
open Text

variable {s w : List Char}

/-! ### Words -/

/-- **A text is a word as a whole** if it begins as words do and nothing in it ends a word. -/
theorem splitWord_eq_some_self_iff :
    splitWord w = some (w, []) ↔ beginsWord w = true ∧ Escaped isWordChar w := by
  unfold splitWord
  split
  · next hb =>
    rw [Option.some.injEq, and_iff_right hb]
    constructor
    · intro h
      have escaped := Escaped.of_span isWordChar w
      rwa [h] at escaped
    · intro h
      simpa [spanEscaped] using h.span []
  · next hb => exact iff_of_false (Option.some_ne_none _).symm fun h => hb h.1

/-- **A text is written as a word exactly if it is legible.** -/
theorem splitWord_escapeWord_iff :
    splitWord (escapeWord s) = some (escapeWord s, []) ↔ Legible s := by
  rw [splitWord_eq_some_self_iff, escaped_escapeWord_iff]
  refine ⟨fun h => ⟨?_, h.2⟩, fun h => ⟨?_, h.2⟩⟩
  · rintro rfl
    exact absurd h.1 (by decide)
  · simpa using beginsWord_escapeWord h []

/-- **A word that was read** is written as a text that stands for the same word.  The text is a word
itself exactly if the word has no blanks but those that are escaped when words are written. -/
theorem escapeWord_unescape_of_splitWord (h : splitWord w = some (w, [])) :
    unescape (escapeWord (unescape w)) = unescape w ∧
      (splitWord (escapeWord (unescape w)) = some (escapeWord (unescape w), []) ↔
        ∀ c ∈ unescape w, isLegible c = true) := by
  refine ⟨unescape_escapeWord _, ?_⟩
  obtain ⟨-, escaped⟩ := splitWord_eq_some_self_iff.mp h
  rw [splitWord_escapeWord_iff, Legible]
  exact and_iff_right (unescape_ne_nil escaped (splitWord_splits h).1)

/-- A word is written with fewer escapes than it was read with. -/
theorem escapeWord_unescape_of_splitWord_sample :
    splitWord "\\-a\\b\\ c\\(".toList = some ("\\-a\\b\\ c\\(".toList, []) ∧
      unescape "\\-ab\\ c\\(".toList = unescape "\\-a\\b\\ c\\(".toList ∧
      splitWord "\\-ab\\ c\\(".toList = some ("\\-ab\\ c\\(".toList, []) := by
  have word : splitWord "\\-a\\b\\ c\\(".toList = some ("\\-a\\b\\ c\\(".toList, []) := by
    decide +kernel
  have written : escapeWord (unescape "\\-a\\b\\ c\\(".toList) = "\\-ab\\ c\\(".toList := by
    decide +kernel
  obtain ⟨same, read⟩ := escapeWord_unescape_of_splitWord word
  rw [written] at same read
  exact ⟨word, same, read.mpr (List.all_iff_forall_prop.mp (by decide +kernel))⟩

/-- **A word whose text is not one**: a form feed behind a backslash belongs to the word, but it is
written without the backslash and ends the word there. -/
theorem not_splitWord_escapeWord_formFeed :
    splitWord ['a', '\\', '\x0c', 'b'] = some (['a', '\\', '\x0c', 'b'], []) ∧
      escapeWord (unescape ['a', '\\', '\x0c', 'b']) = ['a', '\x0c', 'b'] ∧
      splitWord ['a', '\x0c', 'b'] = some (['a'], ['\x0c', 'b']) := by
  decide +kernel

/-! ### Modifiers -/

section Modifiers
variable {k : Kind} {mark : Char} {d : List Char}

/-- **A modifier has a number** if the text behind its mark is a plain decimal. -/
theorem split_modifier_iff (hk : Marks k mark) (hd : d ≠ []) :
    k.split (mark :: d) = some (mark :: d, []) ↔ ∃ x, Binary64.ofPlain? d = some x := by
  constructor
  · intro h
    have lexical : Lexical k (mark :: d) := lexical_of_split h
    cases hk with
    | boost => exact lexical.of_boost
    | fuzzy => exact lexical.of_fuzzy hd
  · rintro ⟨x, hx⟩
    simpa using split_modifier hk hx (s := []) trivial

/-- **A number behind the mark of a modifier** is written as a text that reads as the same number,
if it is finite.  The text makes up a modifier of this number exactly if the number is not tiny. -/
theorem modifierText_of_split (hk : Marks k mark) (hd : d ≠ [])
    (h : k.split (mark :: d) = some (mark :: d, [])) :
    ∃ x, modifierValue (mark :: d) = some x ∧ (x.isFinite = true →
      ∃ l, (Number.float x).modifierText = .ok l ∧ Binary64.read l = some x ∧
        (k.split (mark :: l) = some (mark :: l, []) ↔ ¬x.Tiny) ∧
        (¬x.Tiny → modifierValue (mark :: l) = some x)) := by
  obtain ⟨x, hx⟩ := (split_modifier_iff hk hd).mp h
  refine ⟨x, hx, fun hf => ?_⟩
  cases x with
  | nan | infinite n => cases hf
  | finite n m q =>
      obtain ⟨hc, rfl⟩ := Binary64.canonical_of_ofPlain? hx
      obtain ⟨l, hl⟩ := (Number.Writable.float false hc).exists_text
      have plain := Number.ofPlain?_modifierText_iff hc hl
      have read := Number.read_modifierText hc hl
      have hne : l ≠ [] := by
        rintro rfl
        cases read
      refine ⟨l, hl, read, (split_modifier_iff hk hne).trans plain, fun ht => ?_⟩
      exact Number.modifierText_reads hc hl (mt (Number.exponent_mem_modifierText_iff hc hl).mp ht)

/-- The least number that is written without an exponent, read with zeros at its end. -/
theorem modifierText_of_split_sample :
    Marks .fuzzy '~' ∧ "0.00010".toList ≠ [] ∧
      Kind.fuzzy.split "~0.00010".toList = some ("~0.00010".toList, []) ∧
      ∃ x l, modifierValue "~0.00010".toList = some x ∧ (Number.float x).modifierText = .ok l ∧
        Kind.fuzzy.split ('~' :: l) = some ('~' :: l, []) ∧ modifierValue ('~' :: l) = some x := by
  have lexeme : Kind.fuzzy.split "~0.00010".toList = some ("~0.00010".toList, []) := by
    decide +kernel
  have value : modifierValue "~0.00010".toList =
      some (.finite false Binary64.leastSignificand (-66)) := by decide +kernel
  obtain ⟨x, hx, written⟩ := modifierText_of_split .fuzzy (d := "0.00010".toList) (by decide) lexeme
  cases hx.symm.trans value
  obtain ⟨l, hl, -, hs, hv⟩ := written rfl
  have large : ¬(Binary64.finite false Binary64.leastSignificand (-66)).Tiny := fun h =>
    lt_irrefl _ (Binary64.lt_leastPositional_iff.mp h.2)
  exact ⟨.fuzzy, by decide, lexeme, _, l, hx, hl, hs.mpr large, hv large⟩

/-- **A modifier whose number is written as something else**: the exponent stands behind the
modifier. -/
theorem not_split_modifierText_tiny :
    Kind.boost.split "^0.00001".toList = some ("^0.00001".toList, []) ∧
      (modifierValue "^0.00001".toList).map (fun x => (Number.float x).modifierText) =
        some (.ok "1e-05".toList) ∧
      Kind.boost.split "^1e-05".toList = some ("^1".toList, "e-05".toList) := by
  decide +kernel

end Modifiers
end SearchFilters.Query
