import SearchFilters.Number.Reading
import SearchFilters.Text.Blank
import SearchFilters.Text.Word

/-!
# Query — Lexeme

The words and marks of the query language, each as a function that splits a text into the lexeme
it begins with and the rest.
-/

namespace SearchFilters.Query
open Text

/-- The kinds of lexemes. -/
inductive Kind where
  | andNot
  | orNot
  | and
  | not
  | or
  | fieldName
  /-- an unquoted term -/
  | word
  | boost
  | fuzzy
  | regex
  /-- a quoted term -/
  | phrase
  /-- a bound of a range -/
  | bound
  /-- the word between the bounds of a range -/
  | rangeTo
  /-- a sign in front of a term -/
  | mark
  | rangeClose
  | rangeOpen
  | groupOpen
  | groupClose
  deriving Repr, DecidableEq

namespace Kind

/-- The name of a kind in messages. -/
def name : Kind → String
  | andNot => "AND_NOT"
  | orNot => "OR_NOT"
  | and => "AND"
  | not => "NOT"
  | or => "OR"
  | fieldName => "FIELD_NAME"
  | word => "UNQUOTED_TERM"
  | boost => "BOOST"
  | fuzzy => "FUZZY"
  | regex => "REGEX_TERM"
  | phrase => "QUOTED_TERM"
  | bound => "RANGE_BOUND"
  | rangeTo => "TO"
  | mark => "PREFIX"
  | rangeClose => "RANGE_CLOSE"
  | rangeOpen => "RANGE_OPEN"
  | groupOpen => "LPAR"
  | groupClose => "RPAR"

end Kind

/-- A lexeme at the front of a text, and the rest of the text. -/
abbrev Split := Option (List Char × List Char)

/-! ### Keywords -/

/-- A keyword ends with the text, before a blank or before a parenthesis. -/
def endsWord : List Char → Bool
  | [] => true
  | c :: _ => isBlank c || c == '(' || c == ')'

/-- A given keyword. -/
def splitKeyword (w s : List Char) : Split :=
  if w.isPrefixOf s && endsWord (s.drop w.length) then some (w, s.drop w.length) else none

/-- A keyword or the symbol that stands for it. -/
def splitOperator (w symbol s : List Char) : Split :=
  match splitKeyword w s with
  | some p => some p
  | none => if symbol.isPrefixOf s then some (symbol, s.drop symbol.length) else none

/-- A keyword, blanks, and the word `NOT`. -/
def splitNegated (w s : List Char) : Split :=
  if w.isPrefixOf s then
    let r := s.drop w.length
    let blanks := r.takeWhile isBlank
    if blanks.isEmpty then none
    else (splitKeyword "NOT".toList (r.dropWhile isBlank)).map fun (n, r) => (w ++ blanks ++ n, r)
  else none

/-! ### Field names -/

/-- The characters a field name may begin with. -/
def isNameStart (c : Char) : Bool :=
  isWord c || c == '.' || c == '@' || c == '*' || c == '?'

/-- The characters of a field name. -/
def isNameChar (c : Char) : Bool := isNameStart c || c == '-'

/-- Whether a text can be written as a field name. -/
def isFieldName : List Char → Bool
  | [] => false
  | c :: r => isNameStart c && r.all isNameChar

/-- A field name, blanks and the colon. -/
def splitFieldName : List Char → Split
  | [] => none
  | c :: s =>
    if isNameStart c then
      let r := s.dropWhile isNameChar
      match r.dropWhile isBlank with
      | ':' :: r' => some (c :: s.takeWhile isNameChar ++ r.takeWhile isBlank ++ [':'], r')
      | _ => none
    else none

/-- The name that a lexeme with its blanks and colon stands for. -/
def nameOfLexeme (l : List Char) : List Char := dropBlanksRight l.dropLast

/-! ### Terms -/

/-- The characters that stand unescaped in a word. -/
def isWordChar (c : Char) : Bool :=
  !isBlank c && !":\\()\x7b\x7d[]\"/^~".toList.contains c

/-- A word does not begin with a sign. -/
def isWordStart (c : Char) : Bool := isWordChar c && c != '+' && c != '-'

/-- The longest row of characters of a class, any character but the line feed being admitted after
a backslash. -/
def spanEscaped (p : Char → Bool) : List Char → List Char × List Char
  | '\\' :: c :: r =>
    if c == '\n' then ([], '\\' :: c :: r)
    else
      let (l, r) := spanEscaped p r
      ('\\' :: c :: l, r)
  | c :: r =>
    if c != '\\' && p c then
      let (l, r) := spanEscaped p r
      (c :: l, r)
    else ([], c :: r)
  | [] => ([], [])

/-- Whether a text begins with a word, escaped or not. -/
def beginsWord : List Char → Bool
  | '\\' :: c :: _ => c != '\n'
  | c :: _ => isWordStart c
  | [] => false

/-- An unquoted term. -/
def splitWord (s : List Char) : Split :=
  if beginsWord s then some (spanEscaped isWordChar s) else none

/-- A quoted term, quotes included. -/
def splitPhrase : List Char → Split
  | '"' :: s =>
    match spanEscaped (· != '"') s with
    | (l, '"' :: r) => some ('"' :: l ++ ['"'], r)
    | _ => none
  | _ => none

/-- A regular expression, slashes included. -/
def splitRegex : List Char → Split
  | '/' :: s =>
    match spanEscaped (· != '/') s with
    | ([], _) => none
    | (l, '/' :: r) => some ('/' :: l ++ ['/'], r)
    | _ => none
  | _ => none

/-- A text without its first and last characters. -/
def inside (l : List Char) : List Char := l.tail.dropLast

/-! ### Modifiers -/

/-- A plain decimal as it stands in the text. -/
def splitPlain (s : List Char) : Split :=
  (Binary64.spanPlain s).map fun (_, r) => (s.take (s.length - r.length), r)

/-- The boost mark and its number. -/
def splitBoost : List Char → Split
  | '^' :: s => (splitPlain s).map fun (l, r) => ('^' :: l, r)
  | _ => none

/-- The fuzzy mark and a number, if one follows. -/
def splitFuzzy : List Char → Split
  | '~' :: s =>
    match splitPlain s with
    | some (l, r) => some ('~' :: l, r)
    | none => some (['~'], s)
  | _ => none

/-! ### Ranges and single characters -/

/-- The characters of a bound. -/
def isBoundChar (c : Char) : Bool := !isBlank c && !"[]\x7b\x7d".toList.contains c

/-- A bound of a range. -/
def splitBound (s : List Char) : Split :=
  let l := s.takeWhile isBoundChar
  if l.isEmpty then none else some (l, s.dropWhile isBoundChar)

/-- One of two characters. -/
def splitChar (a b : Char) : List Char → Split
  | c :: s => if c == a || c == b then some ([c], s) else none
  | [] => none

/-- The lexeme of a kind that a text begins with. -/
def Kind.split : Kind → List Char → Split
  | .andNot => splitNegated "AND".toList
  | .orNot => splitNegated "OR".toList
  | .and => splitOperator "AND".toList "&&".toList
  | .or => splitOperator "OR".toList "||".toList
  | .not => splitKeyword "NOT".toList
  | .fieldName => splitFieldName
  | .word => splitWord
  | .boost => splitBoost
  | .fuzzy => splitFuzzy
  | .regex => splitRegex
  | .phrase => splitPhrase
  | .bound => splitBound
  | .rangeTo => fun s => if "TO".toList.isPrefixOf s then some ("TO".toList, s.drop 2) else none
  | .mark => splitChar '+' '-'
  | .rangeClose => splitChar ']' '}'
  | .rangeOpen => splitChar '[' '{'
  | .groupOpen => splitChar '(' '('
  | .groupClose => splitChar ')' ')'

/-- The first kind of a list with a lexeme at the front of the text. -/
def firstLexeme? (kinds : List Kind) (s : List Char) : Option (Kind × List Char × List Char) :=
  kinds.findSome? fun k => (k.split s).map fun (l, r) => (k, l, r)

/-! ### A lexeme and the rest make up the text -/

/-- A lexeme is not empty, and with the rest it makes up the text. -/
def Splits (s : List Char) (p : List Char × List Char) : Prop := p.1 ≠ [] ∧ p.1 ++ p.2 = s

/-- What is left behind a lexeme is shorter, so that reading ends. -/
theorem Splits.length_lt {s l r : List Char} (h : Splits s (l, r)) : r.length < s.length := by
  obtain ⟨hl, rfl⟩ := h
  have : 0 < l.length := List.length_pos_iff.mpr hl
  simp only [List.length_append]
  omega

theorem isPrefixOf_append_drop {w s : List Char} (h : w.isPrefixOf s = true) :
    w ++ s.drop w.length = s := by
  obtain ⟨t, rfl⟩ := List.isPrefixOf_iff_prefix.mp h
  simp

/-- A keyword and what stands behind it make up the text. -/
theorem splitKeyword_splits {w s : List Char} {p : List Char × List Char} (hw : w ≠ [])
    (h : splitKeyword w s = some p) : Splits s p := by
  unfold splitKeyword at h
  split at h
  · next hc =>
    cases h
    exact ⟨hw, isPrefixOf_append_drop (Bool.and_eq_true _ _ ▸ hc).1⟩
  · cases h

theorem splitOperator_splits {w y s : List Char} {p : List Char × List Char} (hw : w ≠ [])
    (hy : y ≠ []) (h : splitOperator w y s = some p) : Splits s p := by
  unfold splitOperator at h
  split at h
  · next q hq => cases h; exact splitKeyword_splits hw hq
  · split at h
    · next hc => cases h; exact ⟨hy, isPrefixOf_append_drop hc⟩
    · cases h

theorem splitNegated_splits {w s : List Char} {p : List Char × List Char} (hw : w ≠ [])
    (h : splitNegated w s = some p) : Splits s p := by
  unfold splitNegated at h
  split at h
  · next hc =>
    simp only at h
    split at h
    · cases h
    · obtain ⟨⟨n, r⟩, hn, rfl⟩ := Option.map_eq_some_iff.mp h
      obtain ⟨-, e⟩ := splitKeyword_splits (by decide) hn
      refine ⟨by simp [hw], ?_⟩
      simp only at e ⊢
      rw [List.append_assoc, List.append_assoc, e, List.takeWhile_append_dropWhile,
        isPrefixOf_append_drop hc]
  · cases h

/-- A field name, blanks and the colon make up the text with what stands behind the colon. -/
theorem splitFieldName_splits {s : List Char} {p : List Char × List Char}
    (h : splitFieldName s = some p) : Splits s p := by
  cases s with
  | nil => cases h
  | cons c s =>
    simp only [splitFieldName] at h
    split at h
    · split at h
      · next r' hr =>
        cases h
        refine ⟨by simp, ?_⟩
        have e₁ := List.takeWhile_append_dropWhile (p := isBlank) (l := s.dropWhile isNameChar)
        have e₂ := List.takeWhile_append_dropWhile (p := isNameChar) (l := s)
        rw [hr] at e₁
        simp only [List.cons_append, List.append_assoc, List.nil_append, e₁, e₂]
      · cases h
    · cases h

/-- A row of escaped characters and the rest of the text make up the text. -/
theorem spanEscaped_append (p : Char → Bool) (s : List Char) :
    (spanEscaped p s).1 ++ (spanEscaped p s).2 = s := by
  fun_induction spanEscaped p s <;> simp_all

theorem spanEscaped_ne_nil_of_beginsWord {s : List Char} (h : beginsWord s = true) :
    (spanEscaped isWordChar s).1 ≠ [] := by
  unfold beginsWord at h
  split at h
  · next c r => simp only [bne_iff_ne, ne_eq] at h; simp [spanEscaped, h]
  · next c r hc =>
    simp only [isWordStart, Bool.and_eq_true] at h
    have hne : c ≠ '\\' := by
      rintro rfl
      exact absurd h.1.1 (by decide)
    simp [spanEscaped, hne, h.1.1]
  · cases h

theorem splitWord_splits {s : List Char} {p : List Char × List Char} (h : splitWord s = some p) :
    Splits s p := by
  unfold splitWord at h
  split at h
  · next hb => cases h; exact ⟨spanEscaped_ne_nil_of_beginsWord hb, spanEscaped_append _ _⟩
  · cases h

/-- A phrase is cut off behind its closing quote. -/
theorem splitPhrase_splits {s : List Char} {p : List Char × List Char}
    (h : splitPhrase s = some p) : Splits s p := by
  unfold splitPhrase at h
  split at h
  · next s =>
    have e := spanEscaped_append (· != '"') s
    split at h
    · next l r hs => cases h; exact ⟨by simp, by rw [hs] at e; simpa using e⟩
    · cases h
  · cases h

theorem splitRegex_splits {s : List Char} {p : List Char × List Char}
    (h : splitRegex s = some p) : Splits s p := by
  unfold splitRegex at h
  split at h
  · next s =>
    have e := spanEscaped_append (· != '/') s
    split at h
    · cases h
    · next l r _ hs => cases h; exact ⟨by simp, by rw [hs] at e; simpa using e⟩
    · cases h
  · cases h

theorem dropWhile_length_lt {α : Type} {p : α → Bool} {s : List α} (h : s.takeWhile p ≠ []) :
    (s.dropWhile p).length < s.length := by
  have e := congrArg List.length (List.takeWhile_append_dropWhile (p := p) (l := s))
  have : 0 < (s.takeWhile p).length := List.length_pos_iff.mpr h
  simp only [List.length_append] at e
  omega

/-- What stands behind a plain decimal is the end of the text, and not all of it. -/
theorem spanPlain_suffix {s r : List Char} {d : List Char × List Char}
    (h : Binary64.spanPlain s = some (d, r)) : r <:+ s ∧ r.length < s.length := by
  have hs : s.dropWhile isDigit <:+ s := List.dropWhile_suffix _
  unfold Binary64.spanPlain Binary64.spanDigits at h
  split at h
  · next w r₁ hw =>
    simp only [Prod.mk.injEq] at hw
    obtain ⟨hw, hr⟩ := hw
    have h₁ : r₁ <:+ s := (List.suffix_cons _ _).trans (hr ▸ hs)
    have hl := hs.length_le
    rw [hr] at hl
    split at h
    · split at h
      · cases h
      · next hne =>
        cases h
        refine ⟨hr ▸ hs, ?_⟩
        rw [← hr]
        exact dropWhile_length_lt (by rw [hw]; simpa using hne)
    · next hf =>
      cases h
      simp only [Prod.mk.injEq] at hf
      have h₂ : r <:+ r₁ := hf.2 ▸ List.dropWhile_suffix _
      refine ⟨h₂.trans h₁, ?_⟩
      have := h₂.length_le
      simp only [List.length_cons] at hl
      omega
  · cases h
  · next w r₁ _ hne hw =>
    cases h
    simp only [Prod.mk.injEq] at hw
    obtain ⟨hw, hr⟩ := hw
    refine ⟨hr ▸ hs, ?_⟩
    rw [← hr]
    exact dropWhile_length_lt (by rw [hw]; exact hne)

theorem splitPlain_splits {s : List Char} {p : List Char × List Char}
    (h : splitPlain s = some p) : Splits s p := by
  obtain ⟨⟨d, r⟩, hd, rfl⟩ := Option.map_eq_some_iff.mp h
  obtain ⟨⟨l, rfl⟩, hlt⟩ := spanPlain_suffix hd
  simp only [List.length_append] at hlt
  refine ⟨?_, by simp⟩
  simp only [List.length_append, Nat.add_sub_cancel, List.take_left']
  exact List.ne_nil_of_length_pos (by omega)

theorem splitBoost_splits {s : List Char} {p : List Char × List Char}
    (h : splitBoost s = some p) : Splits s p := by
  unfold splitBoost at h
  split at h
  · obtain ⟨q, hq, rfl⟩ := Option.map_eq_some_iff.mp h
    exact ⟨by simp, by simpa using (splitPlain_splits hq).2⟩
  · cases h

/-- The fuzzy mark makes up the text with its number or without one. -/
theorem splitFuzzy_splits {s : List Char} {p : List Char × List Char}
    (h : splitFuzzy s = some p) : Splits s p := by
  unfold splitFuzzy at h
  split at h
  · split at h
    · next hq => cases h; exact ⟨by simp, by simpa using (splitPlain_splits hq).2⟩
    · cases h; exact ⟨by simp, by simp⟩
  · cases h

theorem splitBound_splits {s : List Char} {p : List Char × List Char}
    (h : splitBound s = some p) : Splits s p := by
  simp only [splitBound] at h
  split at h
  · cases h
  · next hne => cases h; exact ⟨by simpa using hne, List.takeWhile_append_dropWhile⟩

theorem splitChar_splits {a b : Char} {s : List Char} {p : List Char × List Char}
    (h : splitChar a b s = some p) : Splits s p := by
  unfold splitChar at h
  split at h
  · split at h
    · cases h; exact ⟨by simp, by simp⟩
    · cases h
  · cases h

/-- **A lexeme of any kind and the rest make up the text.** -/
theorem Kind.split_splits {k : Kind} {s : List Char} {p : List Char × List Char}
    (h : k.split s = some p) : Splits s p := by
  cases k with
  | andNot => exact splitNegated_splits (by decide) h
  | orNot => exact splitNegated_splits (by decide) h
  | and => exact splitOperator_splits (by decide) (by decide) h
  | or => exact splitOperator_splits (by decide) (by decide) h
  | not => exact splitKeyword_splits (by decide) h
  | fieldName => exact splitFieldName_splits h
  | word => exact splitWord_splits h
  | boost => exact splitBoost_splits h
  | fuzzy => exact splitFuzzy_splits h
  | regex => exact splitRegex_splits h
  | phrase => exact splitPhrase_splits h
  | bound => exact splitBound_splits h
  | rangeTo =>
    simp only [Kind.split] at h
    split at h
    · next hc => cases h; exact ⟨List.cons_ne_nil _ _, isPrefixOf_append_drop hc⟩
    · cases h
  | mark => exact splitChar_splits h
  | rangeClose => exact splitChar_splits h
  | rangeOpen => exact splitChar_splits h
  | groupOpen => exact splitChar_splits h
  | groupClose => exact splitChar_splits h

/-- The first lexeme of a text and the rest make up the text. -/
theorem splits_of_firstLexeme? {kinds : List Kind} {s l r : List Char} {k : Kind}
    (h : firstLexeme? kinds s = some (k, l, r)) : Splits s (l, r) := by
  obtain ⟨k', -, hk⟩ := List.exists_of_findSome?_eq_some h
  obtain ⟨p, hp, e⟩ := Option.map_eq_some_iff.mp hk
  cases e
  exact Kind.split_splits hp

end SearchFilters.Query
