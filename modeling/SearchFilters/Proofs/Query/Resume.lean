import SearchFilters.Proofs.Query.Effect
import SearchFilters.Proofs.Query.Lexical
import SearchFilters.Proofs.Query.Run

/-!
# Proofs — Query — Resume

The lexemes of a text are those of every text that goes on from it behind a blank.

A lexeme ends at the first character that it cannot go on with, and a blank is such a character for
most kinds: whatever stands behind the blank, they are split as they are at the end of the text
(`Kind.split_settled`).  This fails for three sorts of lexemes, which need their own reasons.

An operator may be followed by blanks and `NOT`, and a field name by blanks and its colon.  Both are
a text and something behind blanks (`splitBehind`); nothing comes up there as long as the text that
goes on begins with neither (`Resumes`, `splitNegated_resumes`, `splitFieldName_resumes`).  A phrase
or a regular expression ends with its mark, so that a text that it begins may be followed by
anything (`splitPhrase_append`).  But where none has been read, because its mark is missing, one may
come up behind the blank; this is why `Kind.split_resumes` speaks of lexemes that were read.  And a
word may leave a backslash behind that ends the text, which would escape the blank: no run goes on
from there (`not_steps_backslash`).

That a lexeme is the first one is another matter, since a kind that was tried before it in vain
might have one now.  Of two kinds that a position tries, the first is an operator or a field name,
which do not come up, or the two begin with different characters (`kinds_pairwise`,
`firstLexeme?_agrees`).

`Steps.resumes` puts this together for runs over a whole text.
-/

namespace SearchFilters.Query
open Text

/-- What a text may go on with behind a blank so that its lexemes stay: a text that neither a blank,
a colon nor `NOT` begins. -/
structure Resumes (u : List Char) : Prop where
  solid : Solid u
  positive : splitKeyword "NOT".toList u = none

/-- A text that no word in front of it goes on into: it is empty, or a blank begins it. -/
def Parted (x : List Char) : Prop := ∀ c ∈ x.head?, isBlank c = true

/-- The same lexeme with a text behind the rest. -/
def extend (v : List Char) (p : List Char × List Char) : List Char × List Char := (p.1, p.2 ++ v)

variable {s u x : List Char}

theorem parted_cons {c : Char} (hc : isBlank c = true) (u : List Char) : Parted (c :: u) := by
  rintro _ ⟨⟩
  exact hc

theorem parted_space (u : List Char) : Parted (' ' :: u) := parted_cons (by decide) u

/-! ### Classes of characters -/

/-- No character of a class without blanks begins the text. -/
theorem Parted.outside {p : Char → Bool} (hx : Parted x)
    (hp : ∀ {c : Char}, p c = true → isBlank c = false) : ∀ c ∈ x.head?, p c = false := by
  intro c hc
  rw [← Bool.not_eq_true]
  intro h
  have := hx c hc
  rw [hp h] at this
  cases this

theorem Parted.outside_word (hx : Parted x) : ∀ c ∈ x.head?, isWordChar c = false :=
  fun c hc => by rw [isWordChar, hx c hc]; rfl

theorem Parted.outside_bound (hx : Parted x) : ∀ c ∈ x.head?, isBoundChar c = false :=
  fun c hc => by rw [isBoundChar, hx c hc]; rfl

/-- No given character but a blank begins the text. -/
theorem Parted.ne_cons {c : Char} (hx : Parted x) (hc : isBlank c = false) (r : List Char) :
    x ≠ c :: r := by
  rintro rfl
  have := hx c rfl
  rw [hc] at this
  cases this

/-- A row of characters of a class ends where it ended, if the class ends there anyway. -/
theorem takeWhile_resumes {p : Char → Bool} (hp : ∀ c ∈ x.head?, p c = false) (s : List Char) :
    (s ++ x).takeWhile p = s.takeWhile p := by
  induction s with
  | nil =>
      cases x with
      | nil => rfl
      | cons c r => exact List.takeWhile_cons_of_neg (by rw [hp c rfl]; exact Bool.false_ne_true)
  | cons d s ih => simp only [List.cons_append, List.takeWhile_cons, ih]

theorem dropWhile_resumes {p : Char → Bool} (hp : ∀ c ∈ x.head?, p c = false) (s : List Char) :
    (s ++ x).dropWhile p = s.dropWhile p ++ x := by
  induction s with
  | nil =>
      cases x with
      | nil => rfl
      | cons c r => exact List.dropWhile_cons_of_neg (by rw [hp c rfl]; exact Bool.false_ne_true)
  | cons d s ih =>
      simp only [List.cons_append, List.dropWhile_cons, ih]
      split <;> rfl

/-- Behind blanks a text goes on with its own next character, or with what comes behind it. -/
theorem dropWhile_isBlank_resumes (hs : Solid u) (s : List Char) :
    (s ++ ' ' :: u).dropWhile isBlank =
      if s.dropWhile isBlank = [] then u else s.dropWhile isBlank ++ ' ' :: u := by
  obtain ⟨c, r, rfl, hc, -⟩ := hs
  rw [List.dropWhile_append]
  simp only [List.isEmpty_iff]
  split
  · rw [List.dropWhile_cons_of_pos (by decide), List.dropWhile_cons_of_neg (by simp [hc])]
  · rfl

/-- Blanks in front of another character are the same in a text that goes on. -/
theorem takeWhile_isBlank_resumes (hs : s.dropWhile isBlank ≠ []) (v : List Char) :
    (s ++ v).takeWhile isBlank = s.takeWhile isBlank := by
  rw [List.takeWhile_append, if_neg]
  intro h
  have e := List.takeWhile_append_dropWhile (p := isBlank) (l := s)
  rw [(List.takeWhile_prefix isBlank).eq_of_length h] at e
  exact hs (List.append_right_eq_self.mp e)

/-! ### Operators -/

/-- A text without blanks begins a text that goes on only if it did before. -/
theorem isPrefixOf_resumes {w : List Char} (hw : w.any isBlank = false) (hx : Parted x)
    (s : List Char) : w.isPrefixOf (s ++ x) = w.isPrefixOf s := by
  induction w generalizing s with
  | nil => rfl
  | cons a w ih =>
      rw [List.any_cons, Bool.or_eq_false_iff] at hw
      cases s with
      | nil =>
          cases x with
          | nil => rfl
          | cons c r =>
              have hne : (a == c) = false := by
                rw [beq_eq_false_iff_ne]
                rintro rfl
                exact hx.ne_cons hw.1 r rfl
              simp only [List.nil_append, List.isPrefixOf, hne, Bool.false_and]
      | cons b s => simp only [List.cons_append, List.isPrefixOf, ih hw.2]

/-- A keyword ends where it did: at a blank as at the end of the text. -/
theorem endsWord_resumes (hx : Parted x) (s : List Char) : endsWord (s ++ x) = endsWord s := by
  cases s with
  | nil =>
      cases x with
      | nil => rfl
      | cons c r => simp only [List.nil_append, endsWord, hx c rfl, Bool.true_or]
  | cons c s => rfl

/-- No keyword comes up in a text that goes on, and none is lost. -/
theorem splitKeyword_resumes {w : List Char} (hw : w.any isBlank = false) (hx : Parted x)
    (s : List Char) : splitKeyword w (s ++ x) = (splitKeyword w s).map (extend x) := by
  unfold splitKeyword
  rw [isPrefixOf_resumes hw hx]
  cases h : w.isPrefixOf s with
  | false => rfl
  | true =>
      obtain ⟨t, rfl⟩ := List.isPrefixOf_iff_prefix.mp h
      rw [List.append_assoc, List.drop_left, List.drop_left, endsWord_resumes hx]
      cases endsWord t <;> rfl

/-- A text without blanks begins a text that goes on only if it begins the text. -/
theorem splitPrefix_resumes {y : List Char} (hy : y.any isBlank = false) (hx : Parted x)
    (s : List Char) :
    (if y.isPrefixOf (s ++ x) then some (y, (s ++ x).drop y.length) else none) =
      (if y.isPrefixOf s then some (y, s.drop y.length) else none).map (extend x) := by
  rw [isPrefixOf_resumes hy hx]
  cases h : y.isPrefixOf s with
  | false => rfl
  | true =>
      obtain ⟨t, rfl⟩ := List.isPrefixOf_iff_prefix.mp h
      simp only [List.append_assoc, List.drop_left, if_true, Option.map_some, extend]

theorem splitOperator_resumes {w y : List Char} (hw : w.any isBlank = false)
    (hy : y.any isBlank = false) (hx : Parted x) (s : List Char) :
    splitOperator w y (s ++ x) = (splitOperator w y s).map (extend x) := by
  unfold splitOperator
  rw [splitKeyword_resumes hw hx]
  cases splitKeyword w s with
  | some p => rfl
  | none => exact splitPrefix_resumes hy hx s

theorem splitChar_resumes {a b : Char} (ha : isBlank a = false) (hb : isBlank b = false)
    (hx : Parted x) (s : List Char) :
    splitChar a b (s ++ x) = (splitChar a b s).map (extend x) := by
  cases s with
  | nil =>
      cases x with
      | nil => rfl
      | cons c r =>
          have hne : ¬(c == a || c == b) = true := by
            rw [Bool.or_eq_true, beq_iff_eq, beq_iff_eq]
            rintro (rfl | rfl)
            · exact hx.ne_cons ha r rfl
            · exact hx.ne_cons hb r rfl
          simp only [List.nil_append, splitChar, hne]
          rfl
  | cons c s =>
      simp only [List.cons_append, splitChar]
      split <;> rfl

/-! ### What stands behind blanks -/

/-- A given text, blanks, and what stands behind them. -/
def splitBehind (a : List Char) (p : List Char → Split) (s : List Char) : Split :=
  (p (s.dropWhile isBlank)).map fun q => (a ++ (s.takeWhile isBlank ++ q.1), q.2)

/-- A negated operator is a keyword and `NOT` behind blanks. -/
theorem splitNegated_eq (a t : List Char) : splitNegated a (a ++ t) =
    if t.takeWhile isBlank = [] then none else splitBehind a (splitKeyword "NOT".toList) t := by
  have h : a.isPrefixOf (a ++ t) = true := List.isPrefixOf_iff_prefix.mpr (List.prefix_append ..)
  simp only [splitNegated, splitBehind, h, if_true, List.drop_left, List.isEmpty_iff,
    List.append_assoc]

/-- A field name is its characters and a colon behind blanks. -/
theorem splitFieldName_eq (c : Char) (s : List Char) : splitFieldName (c :: s) =
    if isNameStart c then
      splitBehind (c :: s.takeWhile isNameChar) (splitChar ':' ':') (s.dropWhile isNameChar)
    else none := by
  simp only [splitFieldName, splitBehind]
  cases (s.dropWhile isNameChar).dropWhile isBlank with
  | nil => rfl
  | cons d r =>
      by_cases hd : d = ':'
      · simp [hd, splitChar]
      · simp [hd, splitChar]

/-- Nothing comes up behind the blanks, if nothing does in the text that goes on. -/
theorem splitBehind_resumes {p : List Char → Split}
    (hp : ∀ s, p (s ++ ' ' :: u) = (p s).map (extend (' ' :: u))) (h₀ : p [] = none)
    (hs : Solid u) (hu : p u = none) (a s : List Char) :
    splitBehind a p (s ++ ' ' :: u) = (splitBehind a p s).map (extend (' ' :: u)) := by
  rw [splitBehind, splitBehind, dropWhile_isBlank_resumes hs]
  by_cases h : s.dropWhile isBlank = []
  · rw [if_pos h, hu, h, h₀]
    rfl
  · rw [if_neg h, takeWhile_isBlank_resumes h, hp, Option.map_map, Option.map_map]
    rfl

/-- No `NOT` comes up behind an operator. -/
theorem splitNegated_resumes {w : List Char} (hw : w.any isBlank = false) (hu : Resumes u)
    (s : List Char) :
    splitNegated w (s ++ ' ' :: u) = (splitNegated w s).map (extend (' ' :: u)) := by
  cases h : w.isPrefixOf s with
  | false =>
      simp only [splitNegated, isPrefixOf_resumes hw (parted_space u), h, Bool.false_eq_true,
        if_false, Option.map_none]
  | true =>
      obtain ⟨t, rfl⟩ := List.isPrefixOf_iff_prefix.mp h
      have behind := splitBehind_resumes
        (splitKeyword_resumes (w := "NOT".toList) (by decide) (parted_space u)) rfl hu.solid
        hu.positive w t
      rw [List.append_assoc, splitNegated_eq, splitNegated_eq, behind]
      by_cases ht : t.dropWhile isBlank = []
      · have none : splitBehind w (splitKeyword "NOT".toList) t = none := by
          rw [splitBehind, ht]
          rfl
        simp only [none, Option.map_none, ite_self]
      · rw [takeWhile_isBlank_resumes ht]
        split <;> rfl

/-- **What is no field name does not become one**: no colon comes up behind it. -/
theorem splitFieldName_resumes (hs : Solid u) (s : List Char) :
    splitFieldName (s ++ ' ' :: u) = (splitFieldName s).map (extend (' ' :: u)) := by
  cases s with
  | nil => rfl
  | cons c s =>
      have hn := (parted_space u).outside not_isBlank_of_isNameChar
      have colon : splitChar ':' ':' u = none := by
        obtain ⟨d, r, rfl, -, hd⟩ := hs
        simp only [splitChar, beq_eq_false_iff_ne.mpr hd, Bool.or_self, Bool.false_eq_true,
          if_false]
      rw [List.cons_append, splitFieldName_eq, splitFieldName_eq, takeWhile_resumes hn,
        dropWhile_resumes hn]
      split
      · exact splitBehind_resumes (splitChar_resumes (by decide) (by decide) (parted_space u)) rfl
          hs colon _ _
      · rfl

/-! ### Numbers -/

theorem spanDigits_resumes (hx : Parted x) (s : List Char) :
    Binary64.spanDigits (s ++ x) =
      ((Binary64.spanDigits s).1, (Binary64.spanDigits s).2 ++ x) := by
  have hd := hx.outside not_isBlank_of_isDigit
  simp only [Binary64.spanDigits, takeWhile_resumes hd, dropWhile_resumes hd]

theorem spanPlain_resumes (hx : Parted x) (s : List Char) :
    Binary64.spanPlain (s ++ x) = (Binary64.spanPlain s).map fun p => (p.1, p.2 ++ x) := by
  unfold Binary64.spanPlain
  rw [spanDigits_resumes hx]
  obtain ⟨w, r⟩ := Binary64.spanDigits s
  cases r with
  | nil =>
      -- the text goes on with no point
      have hp := hx.ne_cons (c := '.') (by decide)
      cases x with
      | nil => cases w <;> rfl
      | cons c r => cases w <;> simp
  | cons c r =>
      by_cases hc : c = '.'
      · subst hc
        simp only [List.cons_append, spanDigits_resumes hx]
        obtain ⟨f, t⟩ := Binary64.spanDigits r
        cases f with
        | nil => cases w <;> rfl
        | cons d f => rfl
      · cases w <;> simp [hc]

theorem splitPlain_resumes (hx : Parted x) (s : List Char) :
    splitPlain (s ++ x) = (splitPlain s).map (extend x) := by
  unfold splitPlain
  rw [spanPlain_resumes hx, Option.map_map, Option.map_map]
  refine Option.map_congr fun p hp => ?_
  have length : (s ++ x).length - (p.2 ++ x).length = s.length - p.2.length := by
    rw [List.length_append, List.length_append, Nat.add_sub_add_right]
  simp only [Function.comp_apply, extend, length, List.take_append_of_le_length (Nat.sub_le ..)]

theorem splitBoost_resumes (hx : Parted x) (s : List Char) :
    splitBoost (s ++ x) = (splitBoost s).map (extend x) := by
  cases s with
  | nil =>
      unfold splitBoost
      split
      · next h => exact absurd h (hx.ne_cons (by decide) _)
      · rfl
  | cons c s =>
      by_cases hc : c = '^'
      · subst hc
        simp only [List.cons_append, splitBoost, splitPlain_resumes hx, Option.map_map]
        rfl
      · simp [splitBoost, hc]

/-- The fuzzy mark takes no number that comes up behind a blank. -/
theorem splitFuzzy_resumes (hx : Parted x) (s : List Char) :
    splitFuzzy (s ++ x) = (splitFuzzy s).map (extend x) := by
  cases s with
  | nil =>
      unfold splitFuzzy
      split
      · next h => exact absurd h (hx.ne_cons (by decide) _)
      · rfl
  | cons c s =>
      by_cases hc : c = '~'
      · subst hc
        simp only [List.cons_append, splitFuzzy, splitPlain_resumes hx]
        cases splitPlain s <;> rfl
      · simp [splitFuzzy, hc]

/-! ### Words and quoted texts -/

/-- Where a row ends, it ends in front of every text that goes on from there, unless a lone
backslash stands there. -/
theorem spanEscaped_resumes {p : Char → Bool} {t y : List Char}
    (h : spanEscaped p (t ++ y) = ([], t ++ y)) (ht : t ≠ ['\\']) (hx : Parted x)
    (hp : ∀ c ∈ x.head?, p c = false) : spanEscaped p (t ++ x) = ([], t ++ x) := by
  cases t with
  | nil =>
      cases x with
      | nil => rfl
      | cons c u =>
          have hc : c ≠ '\\' := by
            rintro rfl
            exact hx.ne_cons (by decide) u rfl
          rw [List.nil_append, spanEscaped_cons hc, if_neg (by simp [hp c rfl])]
  | cons d t =>
      by_cases hd : d = '\\'
      · subst hd
        cases t with
        | nil => exact absurd rfl ht
        | cons e t =>
            simp only [List.cons_append, spanEscaped] at h ⊢
            split at h
            · next he => rw [if_pos he]
            · cases h
      · rw [List.cons_append, spanEscaped_cons hd] at h ⊢
        split at h
        · cases h
        · next hd' => rw [if_neg hd']

/-- Whether a word begins a text is a matter of its first lexeme. -/
theorem beginsWord_of_escaped {p : Char → Bool} {l r : List Char} (hl : Escaped p l) (hne : l ≠ [])
    (h : beginsWord (l ++ r) = true) (v : List Char) : beginsWord (l ++ v) = true := by
  cases hl with
  | nil => exact absurd rfl hne
  | plain hc => simpa [beginsWord, hc] using h
  | pair hc => simpa [beginsWord] using hc

/-- **A word ends where it did**, unless a lone backslash stands behind it, which would escape the
blank. -/
theorem splitWord_resumes {l t y : List Char} (h : splitWord (l ++ (t ++ y)) = some (l, t ++ y))
    (ht : t ≠ ['\\']) (hx : Parted x) : splitWord (l ++ (t ++ x)) = some (l, t ++ x) := by
  obtain ⟨hne, hl⟩ := (lexical_of_split (k := .word) h).of_word
  unfold splitWord at h ⊢
  split at h
  · next hb =>
    have stops := Option.some.inj h
    rw [hl.span, Prod.mk.injEq, List.append_right_eq_self] at stops
    rw [if_pos (beginsWord_of_escaped hl hne hb _), hl.span,
      spanEscaped_resumes (Prod.ext stops.1 stops.2) ht hx hx.outside_word, List.append_nil]
  · cases h

/-- A phrase ends with its mark whatever comes behind it. -/
theorem splitPhrase_append {l : List Char} (h : Lexical .phrase l) (v : List Char) :
    splitPhrase (l ++ v) = some (l, v) := by
  obtain ⟨u, rfl, hu⟩ := h.of_phrase
  have e := hu.span_of_stop (c := '"') (by decide) (by decide) v
  simp only [List.cons_append, List.append_assoc, List.nil_append, splitPhrase, e]

theorem splitRegex_append {l : List Char} (h : Lexical .regex l) (v : List Char) :
    splitRegex (l ++ v) = some (l, v) := by
  obtain ⟨u, rfl, hne, hu⟩ := h.of_regex
  rw [List.append_assoc, List.singleton_append]
  exact splitRegex_escaped hu hne v

/-! ### Lexemes -/

theorem splitBound_resumes (hx : Parted x) (s : List Char) :
    splitBound (s ++ x) = (splitBound s).map (extend x) := by
  simp only [splitBound, takeWhile_resumes hx.outside_bound, dropWhile_resumes hx.outside_bound]
  split <;> rfl

/-- The kinds of operators and field names, which their first characters do not tell from words. -/
def keyedKinds : List Kind := Position.operatorKinds ++ [.fieldName]

/-- The kinds of lexemes that blanks stand in. -/
def crossedKinds : List Kind := [.andNot, .orNot, .fieldName]

theorem keyed_of_crossed {k : Kind} (hk : k ∈ crossedKinds) : k ∈ keyedKinds := by
  have keyed : ∀ k ∈ crossedKinds, k ∈ keyedKinds := by decide
  exact keyed k hk

/-- The kinds whose lexemes blanks neither stand in nor stand behind. -/
def settledKinds : List Kind :=
  [.and, .not, .or, .boost, .fuzzy, .bound, .rangeTo, .mark, .rangeClose, .rangeOpen, .groupOpen,
    .groupClose]

/-- **A blank settles the lexeme in front of it**, whatever comes behind the blank. -/
theorem Kind.split_settled {k : Kind} (hk : k ∈ settledKinds) (hx : Parted x) (s : List Char) :
    k.split (s ++ x) = (k.split s).map (extend x) := by
  simp only [settledKinds, List.mem_cons, List.not_mem_nil, or_false] at hk
  rcases hk with rfl | rfl | rfl | rfl | rfl | rfl | rfl | rfl | rfl | rfl | rfl | rfl
  · exact splitOperator_resumes (by decide) (by decide) hx s
  · exact splitKeyword_resumes (by decide) hx s
  · exact splitOperator_resumes (by decide) (by decide) hx s
  · exact splitBoost_resumes hx s
  · exact splitFuzzy_resumes hx s
  · exact splitBound_resumes hx s
  · exact splitPrefix_resumes (y := "TO".toList) (by decide) hx s
  all_goals exact splitChar_resumes (by decide) (by decide) hx s

/-- A lexeme that ends in front of a blank, or of the end of the text, ends in front of every
blank, if its kind is none of those that blanks stand in. -/
theorem Kind.split_before {k : Kind} {l t y : List Char} (hk : k ∉ crossedKinds)
    (h : k.split (l ++ (t ++ y)) = some (l, t ++ y)) (ht : k = .word → t ≠ ['\\']) (hy : Parted y)
    (hx : Parted x) : k.split (l ++ (t ++ x)) = some (l, t ++ x) := by
  have settled (hk : k ∈ settledKinds) : k.split (l ++ (t ++ x)) = some (l, t ++ x) := by
    rw [← List.append_assoc, split_settled hk hy] at h
    obtain ⟨⟨l', t'⟩, hp, e⟩ := Option.map_eq_some_iff.mp h
    rw [extend, Prod.mk.injEq, List.append_left_inj] at e
    obtain ⟨rfl, rfl⟩ := e
    rw [← List.append_assoc, split_settled hk hx, hp]
    rfl
  cases k with
  | andNot | orNot | fieldName => exact absurd (by decide) hk
  | word => exact splitWord_resumes h (ht rfl) hx
  | phrase => exact splitPhrase_append (lexical_of_split h) _
  | regex => exact splitRegex_append (lexical_of_split h) _
  | and | not | or | boost | fuzzy | bound | rangeTo | mark | rangeClose | rangeOpen | groupOpen
  | groupClose => exact settled (by decide)

/-- Whether a text begins with an operator or a field name does not depend on what it goes on
with. -/
theorem Kind.split_keyed {k : Kind} (hk : k ∈ keyedKinds) (hu : Resumes u) (s : List Char) :
    k.split (s ++ ' ' :: u) = (k.split s).map (extend (' ' :: u)) := by
  simp only [keyedKinds, Position.operatorKinds, List.cons_append, List.nil_append, List.mem_cons,
    List.not_mem_nil, or_false] at hk
  rcases hk with rfl | rfl | rfl | rfl | rfl | rfl
  · exact splitNegated_resumes (by decide) hu s
  · exact splitNegated_resumes (by decide) hu s
  · exact split_settled (by decide) (parted_space u) s
  · exact split_settled (by decide) (parted_space u) s
  · exact split_settled (by decide) (parted_space u) s
  · exact splitFieldName_resumes hu.solid s

/-- **A lexeme stays the lexeme of its kind** in a text that goes on. -/
theorem Kind.split_resumes {k : Kind} {l r : List Char} (hu : Resumes u)
    (h : k.split s = some (l, r)) (hr : k = .word → r ≠ ['\\']) :
    k.split (s ++ ' ' :: u) = some (l, r ++ ' ' :: u) := by
  by_cases hk : k ∈ keyedKinds
  · rw [split_keyed hk hu, h]
    rfl
  · obtain ⟨-, rfl⟩ := split_splits h
    have front := split_before (y := []) (fun h => hk (keyed_of_crossed h))
      (by rwa [List.append_nil]) hr nofun (parted_space u)
    rwa [← List.append_assoc] at front

/-- The kinds that a position tries beside each other and whose lexemes differ in their first
characters. -/
def plainKinds : List Kind :=
  [.word, .boost, .fuzzy, .regex, .phrase, .mark, .rangeOpen, .groupOpen, .groupClose]

/-- The characters that the plain kinds but words begin with. -/
def plainMarks : List Char := ['^', '~', '/', '"', '+', '-', '[', '\x7b', '(', ')']

theorem mem_plainMarks {k : Kind} (hk : k ∈ plainKinds) (hw : k ≠ .word) {c : Char}
    (hc : k.starts c = true) : c ∈ plainMarks := by
  simp only [plainKinds, List.mem_cons, List.not_mem_nil, or_false] at hk
  rcases hk with rfl | rfl | rfl | rfl | rfl | rfl | rfl | rfl | rfl
  · exact absurd rfl hw
  all_goals
    simp only [Kind.starts, Bool.or_eq_true, beq_iff_eq] at hc
    first | (subst hc; decide) | (rcases hc with rfl | rfl <;> decide)

/-- No character begins lexemes of two plain kinds. -/
theorem plainKinds_apart {k k' : Kind} (hk : k ∈ plainKinds) (hk' : k' ∈ plainKinds) (hne : k' ≠ k)
    {c : Char} (hc : k.starts c = true) : k'.starts c = false := by
  have marks : ∀ c ∈ plainMarks, ∀ k ∈ plainKinds, k.starts c = true → ∀ k' ∈ plainKinds, k' ≠ k →
      k'.starts c = false := List.all_iff_forall_prop.mp (by decide)
  by_cases hm : c ∈ plainMarks
  · exact marks c hm k hk hc k' hk' hne
  · have hw : k = .word := Classical.byContradiction fun h => hm (mem_plainMarks hk h hc)
    exact Bool.eq_false_iff.mpr fun h => hm (mem_plainMarks hk' (hw ▸ hne) h)

/-- Of two kinds the first one is keyed, or both are plain. -/
def TriedBefore (k' k : Kind) : Prop :=
  k' ∈ keyedKinds ∨ k' ∈ plainKinds ∧ k ∈ plainKinds ∧ k' ≠ k

instance : DecidableRel TriedBefore := fun _ _ => inferInstanceAs (Decidable (_ ∨ _))

/-- Of any two kinds that a position tries, the first is keyed or both are plain. -/
theorem kinds_pairwise (p : Position) : p.kinds.Pairwise TriedBefore := by
  cases p <;> simp only [Position.kinds, Position.operatorKinds] <;> decide

/-- **The first lexeme of a text is of the kind of another one's**, if it is of that kind that the
other text begins with, if no operator and no field name comes up in front of it, and if both texts
have the same first character. -/
theorem firstLexeme?_agrees {p : Position} {k : Kind} {l r l' r' y : List Char}
    (h : firstLexeme? p.kinds s = some (k, l, r)) (hk : k.split y = some (l', r'))
    (hn : ∀ k ∈ keyedKinds, k.split s = none → k.split y = none) (hc : y.head? = s.head?) :
    firstLexeme? p.kinds y = some (k, l', r') := by
  obtain ⟨as, k₀, bs, hks, hk₀, has⟩ := List.findSome?_eq_some_iff.mp h
  obtain ⟨q, hq, e⟩ := Option.map_eq_some_iff.mp hk₀
  cases e
  have before := (List.pairwise_append.mp (hks ▸ kinds_pairwise p)).2.2
  rw [hks]
  refine firstLexeme?_of_split as (fun k' hk' => ?_) hk
  have none : k'.split s = none := Option.map_eq_none_iff.mp (has k' hk')
  -- a kind tried in vain may now come up, as a lone backslash becomes a word in front of a blank,
  -- but no two plain kinds begin with the same character
  rcases before k' hk' k (List.mem_cons_self ..) with hkeyed | ⟨hp', hp, hne⟩
  · exact hn k' hkeyed none
  · cases s with
    | nil => rw [Kind.split_nil] at hq; cases hq
    | cons c s =>
        obtain ⟨y, rfl⟩ := List.head?_eq_some_iff.mp hc
        exact Kind.split_eq_none (plainKinds_apart hp hp' hne (Kind.starts_of_split hq)) _

/-- **The first lexeme of a text is that of every text that goes on from it.** -/
theorem firstLexeme?_resumes {p : Position} {k : Kind} {l r : List Char} (hu : Resumes u)
    (h : firstLexeme? p.kinds s = some (k, l, r)) (hr : k = .word → r ≠ ['\\']) :
    firstLexeme? p.kinds (s ++ ' ' :: u) = some (k, l, r ++ ' ' :: u) := by
  refine firstLexeme?_agrees h (Kind.split_resumes hu (mem_of_firstLexeme? h).2 hr)
    (fun k hk none => by rw [Kind.split_keyed hk hu, none, Option.map_none]) ?_
  cases s with
  | nil =>
      have := (mem_of_firstLexeme? h).2
      rw [Kind.split_nil] at this
      cases this
  | cons c s => rfl

/-! ### Runs -/

/-- Behind a word there may be modifiers. -/
theorem position_of_word {r r' : Reader} {l : List Char} (h : r.step .word l = some r') :
    ∃ t, r'.position = .modifiers t := by
  have moved {p p' : Position} (hm : Position.Moves .word l p p') : ∃ t, p' = .modifiers t := by
    cases hm with
    | term _ ht =>
        cases ht
        exact ⟨_, rfl⟩
  cases Reader.does_of_step h with
  | negate hk | overflows hk | closes _ hk => cases hk
  | joins _ ho => cases ho
  | goesOn hb | follows _ _ hb =>
      cases hb with
      | move hm => exact moved hm
      | opens hk | opensNamed hk => cases hk

/-- No lexeme behind a word is a backslash by itself. -/
theorem length_lt_of_backslash {t : Term} {k : Kind} {l r : List Char}
    (h : firstLexeme? (Position.modifiers t).kinds ('\\' :: x) = some (k, l, r)) :
    r.length < x.length := by
  obtain ⟨hk, hs⟩ := mem_of_firstLexeme? h
  obtain ⟨hne, e⟩ : l ≠ [] ∧ l ++ r = '\\' :: x := splits_of_firstLexeme? h
  have word : ∀ k ∈ (Position.modifiers t).kinds, k.starts '\\' = true → k = .word := by
    simp only [Position.kinds, Position.operatorKinds]
    decide
  obtain rfl := word k hk (Kind.starts_of_split hs)
  cases (lexical_of_split hs).of_word.2 with
  | nil => exact absurd rfl hne
  | plain hc =>
      cases e
      exact absurd rfl hc
  | pair =>
      have e := congrArg List.length e
      simp only [List.length_cons, List.length_append] at e
      omega

/-- A backslash behind a word is not read by itself. -/
theorem not_steps_backslash {r r' : Reader} {t : Term} (hr : r.position = .modifiers t) :
    ¬Steps r ('\\' :: x) r' x := by
  intro h
  generalize e : '\\' :: x = s at h
  cases h with
  | refl => exact List.cons_ne_self _ _ e
  | more h ht =>
      subst e
      cases h with
      | skip hc => cases hc
      | take _ hl =>
          rw [hr] at hl
          have := length_lt_of_backslash hl
          have := ht.suffix.length_le
          omega

/-- **A run over a whole text** is a run over the beginning of every text that goes on from it. -/
theorem Steps.resumes {r r' : Reader} (h : Steps r s r' []) (hu : Resumes u) :
    Steps r (s ++ ' ' :: u) r' (' ' :: u) := by
  generalize e : ([] : List Char) = s' at h
  induction h with
  | refl r s =>
      cases e
      exact .refl _ _
  | more h ht ih =>
      cases e
      refine .more ?_ (ih rfl)
      cases h with
      | skip hc => exact .skip hc
      | take hc hl hr =>
          refine .take hc (firstLexeme?_resumes hu hl ?_) hr
          -- a backslash behind the word would escape the blank, but the run has read all of `s`
          rintro rfl rfl
          obtain ⟨t, hp⟩ := position_of_word hr
          exact not_steps_backslash hp ht

end SearchFilters.Query
