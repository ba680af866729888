import SearchFilters.Proofs.Text.Classes
import SearchFilters.Query.Lexeme

/-!
# Proofs — Query — Lexeme

Which lexeme a text begins with.

The reader tries the kinds that a position admits one after another, so that a lexeme is the first
one only if none of those before it begins the text.  Most of them are ruled out by one character:
`Kind.starts` gives the characters that the lexemes of a kind begin with, and where a single kind of
those admitted may begin with a character, its lexeme is the first one (`firstLexeme?_of_starts`).
Kinds that do not begin the text need not be tried (`firstLexeme?_filter`), which takes a position's
kinds to those that matter.
-/

namespace SearchFilters.Query
open Text

/-! ### First characters -/

/-- The characters that lexemes of a kind begin with. -/
def Kind.starts : Kind → Char → Bool
  | .andNot, c     => c == 'A'
  | .orNot, c      => c == 'O'
  | .and, c        => c == 'A' || c == '&'
  | .not, c        => c == 'N'
  | .or, c         => c == 'O' || c == '|'
  | .fieldName, c  => isNameStart c
  | .word, c       => c == '\\' || isWordStart c
  | .boost, c      => c == '^'
  | .fuzzy, c      => c == '~'
  | .regex, c      => c == '/'
  | .phrase, c     => c == '"'
  | .bound, c      => isBoundChar c
  | .rangeTo, c    => c == 'T'
  | .mark, c       => c == '+' || c == '-'
  | .rangeClose, c => c == ']' || c == '\x7d'
  | .rangeOpen, c  => c == '[' || c == '\x7b'
  | .groupOpen, c  => c == '('
  | .groupClose, c => c == ')'

theorem head_of_isPrefixOf {a c : Char} {w s : List Char}
    (h : (a :: w).isPrefixOf (c :: s) = true) : a = c := by
  simp only [List.isPrefixOf, Bool.and_eq_true, beq_iff_eq] at h
  exact h.1

/-- A text with a keyword begins with the first letter of the keyword. -/
theorem head_of_splitKeyword {a c : Char} {w s : List Char} {p : List Char × List Char}
    (h : splitKeyword (a :: w) (c :: s) = some p) : a = c := by
  unfold splitKeyword at h
  split at h
  · next hc => exact head_of_isPrefixOf (Bool.and_eq_true _ _ ▸ hc).1
  · cases h

theorem head_of_splitOperator {a b c : Char} {w y s : List Char} {p : List Char × List Char}
    (h : splitOperator (a :: w) (b :: y) (c :: s) = some p) : a = c ∨ b = c := by
  unfold splitOperator at h
  split at h
  · next hq => exact .inl (head_of_splitKeyword hq)
  · split at h
    · next hc => exact .inr (head_of_isPrefixOf hc)
    · cases h

theorem head_of_splitNegated {a c : Char} {w s : List Char} {p : List Char × List Char}
    (h : splitNegated (a :: w) (c :: s) = some p) : a = c := by
  unfold splitNegated at h
  split at h
  · next hc => exact head_of_isPrefixOf hc
  · cases h

theorem head_of_splitChar {a b c : Char} {s : List Char} {p : List Char × List Char}
    (h : splitChar a b (c :: s) = some p) : c = a ∨ c = b := by
  simp only [splitChar] at h
  split at h
  · next hc => simpa using hc
  · cases h

/-- A lexeme begins with one of the characters of its kind. -/
theorem Kind.starts_of_split {k : Kind} {c : Char} {s : List Char} {p : List Char × List Char}
    (h : k.split (c :: s) = some p) : k.starts c = true := by
  cases k with
  | andNot =>
      obtain rfl : 'A' = c := head_of_splitNegated h
      rfl
  | orNot =>
      obtain rfl : 'O' = c := head_of_splitNegated h
      rfl
  | and =>
      obtain rfl | rfl : 'A' = c ∨ '&' = c := head_of_splitOperator h <;> rfl
  | or =>
      obtain rfl | rfl : 'O' = c ∨ '|' = c := head_of_splitOperator h <;> rfl
  | not =>
      obtain rfl : 'N' = c := head_of_splitKeyword h
      rfl
  | fieldName =>
      simp only [Kind.split, splitFieldName] at h
      split at h
      · next hc => exact hc
      · cases h
  | word =>
      simp only [Kind.split, splitWord] at h
      split at h
      · next hb =>
        unfold beginsWord at hb
        split at hb
        · next e => cases e; rfl
        · next e => cases e; simp [starts, hb]
        · cases hb
      · cases h
  | boost =>
      simp only [Kind.split, splitBoost] at h
      split at h
      · next e => cases e; rfl
      · cases h
  | fuzzy =>
      simp only [Kind.split, splitFuzzy] at h
      split at h
      · next e => cases e; rfl
      · cases h
  | regex =>
      simp only [Kind.split, splitRegex] at h
      split at h
      · next e => cases e; rfl
      · cases h
  | phrase =>
      simp only [Kind.split, splitPhrase] at h
      split at h
      · next e => cases e; rfl
      · cases h
  | bound =>
      simp only [Kind.split, splitBound, List.takeWhile_cons] at h
      cases hc : isBoundChar c
      · simp [hc] at h
      · exact hc
  | rangeTo =>
      simp only [Kind.split] at h
      split at h
      · next hc =>
        obtain rfl : 'T' = c := head_of_isPrefixOf hc
        rfl
      · cases h
  | mark | rangeClose | rangeOpen | groupOpen | groupClose =>
        simpa [starts] using head_of_splitChar h

/-- Where no lexeme of a kind may begin, none does. -/
theorem Kind.split_eq_none {k : Kind} {c : Char} (h : k.starts c = false) (s : List Char) :
    k.split (c :: s) = none := by
  cases hs : k.split (c :: s) with
  | none => rfl
  | some p => rw [starts_of_split hs] at h; cases h

theorem Kind.split_nil (k : Kind) : k.split [] = none := by
  cases h : k.split [] with
  | none => rfl
  | some p =>
      obtain ⟨hne, e⟩ := split_splits h
      exact absurd (List.append_eq_nil_iff.mp e).1 hne

/-- No lexeme begins with a blank. -/
theorem Kind.not_starts_of_isBlank {c : Char} (hb : isBlank c = true) (k : Kind) :
    k.starts c = false := by
  have hn : isNameStart c = false := by
    rw [← Bool.not_eq_true]
    intro h
    rw [not_isBlank_of_isNameChar (isNameChar_of_isNameStart h)] at hb
    cases hb
  have hne (d : Char) (hd : isBlank d = false) : (c == d) = false := by
    rw [beq_eq_false_iff_ne]
    rintro rfl
    rw [hd] at hb
    cases hb
  cases k <;> simp only [starts, hn, isWordStart, isWordChar, isBoundChar, hb, Bool.not_true,
    Bool.false_and, Bool.or_false] <;> (try rw [Bool.or_eq_false_iff]) <;>
    first | rfl | exact ⟨hne _ (by decide), hne _ (by decide)⟩ | exact hne _ (by decide)

/-! ### The first lexeme -/

/-- A kind without a lexeme at the front of the text may be left out. -/
theorem firstLexeme?_cons_of_none {k : Kind} {ks : List Kind} {s : List Char}
    (h : k.split s = none) : firstLexeme? (k :: ks) s = firstLexeme? ks s := by
  simp only [firstLexeme?, List.findSome?_cons, h, Option.map_none]

theorem firstLexeme?_cons_of_some {k : Kind} {ks : List Kind} {s l r : List Char}
    (h : k.split s = some (l, r)) : firstLexeme? (k :: ks) s = some (k, l, r) := by
  simp only [firstLexeme?, List.findSome?_cons, h, Option.map_some]

theorem firstLexeme?_append_of_none {as bs : List Kind} {s : List Char}
    (h : ∀ k ∈ as, k.split s = none) : firstLexeme? (as ++ bs) s = firstLexeme? bs s := by
  induction as with
  | nil => rfl
  | cons a as ih =>
      rw [List.cons_append, firstLexeme?_cons_of_none (h a (List.mem_cons_self ..)),
        ih fun k hk => h k (List.mem_cons_of_mem _ hk)]

/-- Kinds that are tried last do not matter once a lexeme is found. -/
theorem firstLexeme?_append_of_some {as bs : List Kind} {s : List Char}
    {p : Kind × List Char × List Char} (h : firstLexeme? as s = some p) :
    firstLexeme? (as ++ bs) s = some p := by
  rw [firstLexeme?] at h ⊢
  rw [List.findSome?_append, h, Option.some_or]

/-- A lexeme is the first one if none of the kinds tried before has one. -/
theorem firstLexeme?_of_split (as : List Kind) {bs : List Kind} {k : Kind} {s l r : List Char}
    (ha : ∀ k ∈ as, k.split s = none) (h : k.split s = some (l, r)) :
    firstLexeme? (as ++ k :: bs) s = some (k, l, r) := by
  rw [firstLexeme?_append_of_none ha, firstLexeme?_cons_of_some h]

/-- Kinds without a lexeme at the front of the text need not be tried. -/
theorem firstLexeme?_filter {ks : List Kind} {s : List Char} {q : Kind → Bool}
    (h : ∀ k ∈ ks, q k = false → k.split s = none) :
    firstLexeme? (ks.filter q) s = firstLexeme? ks s := by
  induction ks with
  | nil => rfl
  | cons k ks ih =>
      have ih := ih fun k hk => h k (List.mem_cons_of_mem _ hk)
      cases hq : q k with
      | true =>
          rw [List.filter_cons_of_pos hq]
          simp only [firstLexeme?, List.findSome?_cons] at ih ⊢
          rw [ih]
      | false =>
          rw [List.filter_cons_of_neg (by simp [hq]), ih,
            firstLexeme?_cons_of_none (h k (List.mem_cons_self ..) hq)]

/-- The first lexeme is of one of the kinds, and it is the lexeme of that kind. -/
theorem mem_of_firstLexeme? {ks : List Kind} {s l r : List Char} {k : Kind}
    (h : firstLexeme? ks s = some (k, l, r)) : k ∈ ks ∧ k.split s = some (l, r) := by
  obtain ⟨k', hk, hs⟩ := List.exists_of_findSome?_eq_some h
  obtain ⟨p, hp, e⟩ := Option.map_eq_some_iff.mp hs
  cases e
  exact ⟨hk, hp⟩

/-- Where a lexeme is of none of the kinds tried first, none of them begins the text. -/
theorem split_eq_none_of_firstLexeme? {as bs : List Kind} {k : Kind} {s l rest : List Char}
    (h : firstLexeme? (as ++ bs) s = some (k, l, rest)) (hk : k ∉ as) :
    ∀ k' ∈ as, k'.split s = none := by
  induction as with
  | nil => exact nofun
  | cons a as ih =>
      cases ha : a.split s with
      | some p =>
          rw [List.cons_append, firstLexeme?_cons_of_some ha] at h
          cases h
          exact absurd (List.mem_cons_self ..) hk
      | none =>
          rw [List.cons_append, firstLexeme?_cons_of_none ha] at h
          intro k' hk'
          rcases List.mem_cons.mp hk' with rfl | hk'
          · exact ha
          · exact ih h (fun hk'' => hk (List.mem_cons_of_mem _ hk'')) k' hk'

/-- Where one kind is the first of those admitted that may begin with a character, its lexeme is the
first one. -/
theorem firstLexeme?_of_starts {ks : List Kind} {k : Kind} {c : Char} {s l r : List Char}
    (hk : ks.find? (fun k => k.starts c) = some k) (h : k.split (c :: s) = some (l, r)) :
    firstLexeme? ks (c :: s) = some (k, l, r) := by
  induction ks with
  | nil => cases hk
  | cons a as ih =>
      cases ha : a.starts c with
      | true =>
          rw [List.find?_cons, ha] at hk
          cases hk
          exact firstLexeme?_cons_of_some h
      | false =>
          rw [List.find?_cons, ha] at hk
          rw [firstLexeme?_cons_of_none (Kind.split_eq_none ha s), ih hk]

/-- A lexeme does not begin with layout. -/
theorem not_isLayout_of_firstLexeme? {ks : List Kind} {k : Kind} {c : Char} {s l r : List Char}
    (h : firstLexeme? ks (c :: s) = some (k, l, r)) : isLayout c = false := by
  rw [← Bool.not_eq_true]
  intro hc
  have := Kind.not_starts_of_isBlank (isBlank_of_isLayout hc) k
  rw [Kind.starts_of_split (mem_of_firstLexeme? h).2] at this
  cases this

end SearchFilters.Query
