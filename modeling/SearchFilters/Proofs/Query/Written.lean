import SearchFilters.Proofs.Number.Plain
import SearchFilters.Proofs.Query.Escape
import SearchFilters.Proofs.Query.Lexeme
import SearchFilters.Query.Reader

/-!
# Proofs — Query — Written

What is written is one lexeme, and no other than the one meant.

A text that printing writes is read as one lexeme if it is split off as a whole and if no kind that
is tried before it splits something off.  Both depend on what stands behind it, so this is described
first: `Follows` for clauses, `FollowsTerm` for terms, which modifiers may follow, and `StopsWord`
for words.

* `splitWord_escapeWord`, `splitPhrase_escapeQuoted`, `splitRegex_escaped`, `split_modifier`,
  `splitBound_append`, `splitFieldName_name`: what is written is split off as a whole.
* `noKeyword_escapeWord`, `noSymbol_escapeWord`, `splitFieldName_escaped`: a written word is no
  operator and no field name.  It is escaped where it would be a keyword, and its colons are; that
  it is no operator in symbols has to be known of the word.
* `Clear`: texts that no operator begins.
* `firstLexeme?_operator`: a written operator is one lexeme, the negated one if `NOT` comes behind
  it.
-/

namespace SearchFilters.Query
open Text

/-! ### What stands after a clause -/

/-- What stands after a clause: the end of the text or of the group, or a blank and a lexeme. -/
inductive Follows : List Char → Prop where
  | nil : Follows []
  | close (s : List Char) : Follows (')' :: s)
  | blank {c : Char} (s : List Char) (hb : isBlank c = false) (hc : c ≠ ':') :
      Follows (' ' :: c :: s)

/-- What stands after a term: what stands after a clause, or a modifier. -/
inductive FollowsTerm : List Char → Prop where
  | rest {s : List Char} (h : Follows s) : FollowsTerm s
  | fuzzy (s : List Char) : FollowsTerm ('~' :: s)
  | boost (s : List Char) : FollowsTerm ('^' :: s)

/-- A text that begins with neither a blank nor a colon. -/
def Solid (s : List Char) : Prop := ∃ c r, s = c :: r ∧ isBlank c = false ∧ c ≠ ':'

theorem Solid.follows {s : List Char} (h : Solid s) : Follows (' ' :: s) := by
  obtain ⟨c, r, rfl, hb, hc⟩ := h
  exact .blank r hb hc

theorem solid_of_beginsWord {s : List Char} (h : beginsWord s = true) : Solid s := by
  unfold beginsWord at h
  split at h
  · exact ⟨_, _, rfl, by decide, by decide⟩
  · simp only [isWordStart, isWordChar, Bool.and_eq_true, Bool.not_eq_true'] at h
    refine ⟨_, _, rfl, h.1.1.1, ?_⟩
    rintro rfl
    exact absurd h.1.1.2 (by decide)
  · cases h

namespace FollowsTerm
variable {s : List Char}

/-- No word, field name or number goes on with what stands after a term. -/
theorem head (h : FollowsTerm s) : s = [] ∨ ∃ c r, s = c :: r ∧ c ≠ '\\' ∧ isWordChar c = false ∧
    isNameChar c = false ∧ isDigit c = false ∧ c ≠ '.' := by
  have mark : ∀ c ∈ [')', ' ', '~', '^'], c ≠ '\\' ∧ isWordChar c = false ∧
      isNameChar c = false ∧ isDigit c = false ∧ c ≠ '.' :=
    List.all_iff_forall_prop.mp (by decide)
  rcases h with (_ | _ | _) | _ | _
  · exact .inl rfl
  · exact .inr ⟨_, _, rfl, mark _ (by decide)⟩
  · exact .inr ⟨_, _, rfl, mark _ (by decide)⟩
  · exact .inr ⟨_, _, rfl, mark _ (by decide)⟩
  · exact .inr ⟨_, _, rfl, mark _ (by decide)⟩

/-- A number in front of it ends there. -/
theorem endsPlain (h : FollowsTerm s) : Binary64.EndsPlain s := by
  rcases h.head with rfl | ⟨c, r, rfl, -, -, -, hd, hp⟩
  · trivial
  · exact ⟨hd, hp⟩

/-- No colon stands after a term and blanks. -/
theorem ne_colon (h : FollowsTerm s) (r : List Char) : s.dropWhile isBlank ≠ ':' :: r := by
  rcases h with (_ | _ | ⟨s, hb, hc⟩) | _ | _
  · simp
  · simp [show isBlank ')' = false by decide]
  · intro e
    rw [List.dropWhile_cons_of_pos (by decide), List.dropWhile_cons_of_neg (by simp [hb])] at e
    cases e
    exact hc rfl
  · simp [show isBlank '~' = false by decide]
  · simp [show isBlank '^' = false by decide]

end FollowsTerm

/-- A text that no word goes on with, and that makes no field name of the word before it. -/
structure StopsWord (s : List Char) : Prop where
  head : ∀ c ∈ s.head?, c ≠ '\\' ∧ isWordChar c = false ∧ isNameChar c = false
  ne_colon : ∀ r, s.dropWhile isBlank ≠ ':' :: r

theorem FollowsTerm.stopsWord {s : List Char} (h : FollowsTerm s) : StopsWord s := by
  refine ⟨fun c hc => ?_, h.ne_colon⟩
  rcases h.head with rfl | ⟨d, r, rfl, hd, hp, hn, -⟩
  · cases hc
  · cases hc
    exact ⟨hd, hp, hn⟩

/-- A written word is read to its end and no further. -/
theorem StopsWord.span {w s : List Char} (h : StopsWord s) (hw : Escaped isWordChar w) :
    spanEscaped isWordChar (w ++ s) = (w, s) := by
  cases s with
  | nil =>
      rw [hw.span]
      simp [spanEscaped]
  | cons c r =>
      obtain ⟨hc, hp, -⟩ := h.head c rfl
      exact hw.span_of_stop hc hp r

/-! ### Field names -/

/-- No colon comes behind the name characters of a word: in the word a backslash stands in front of
it, and none stands behind. -/
theorem dropWhile_isNameChar_ne_colon {w s : List Char} (hw : Escaped isWordChar w)
    (hs : StopsWord s) (r : List Char) :
    ((w ++ s).dropWhile isNameChar).dropWhile isBlank ≠ ':' :: r := by
  induction hw with
  | nil =>
      have e : s.dropWhile isNameChar = s := by
        cases s with
        | nil => rfl
        | cons c t => rw [List.dropWhile_cons_of_neg (by simp [(hs.head c rfl).2.2])]
      rw [List.nil_append, e]
      exact hs.ne_colon r
  | @plain c w _ hp _ ih =>
      rw [List.cons_append]
      cases hn : isNameChar c with
      | true => rwa [List.dropWhile_cons_of_pos hn]
      | false =>
          simp only [isWordChar, Bool.and_eq_true, Bool.not_eq_true'] at hp
          rw [List.dropWhile_cons_of_neg (by simp [hn]), List.dropWhile_cons_of_neg (by simp [hp.1])]
          rintro ⟨⟩
          exact absurd hp.2 (by decide)
  | pair _ _ _ =>
      rw [List.cons_append, List.dropWhile_cons_of_neg (by decide),
        List.dropWhile_cons_of_neg (by decide)]
      rintro ⟨⟩

/-- **A word is no field name**: its colons are escaped. -/
theorem splitFieldName_escaped {w s : List Char} (hw : Escaped isWordChar w)
    (hs : StopsWord s) : splitFieldName (w ++ s) = none := by
  have h := dropWhile_isNameChar_ne_colon hw hs
  cases e : w ++ s with
  | nil => rfl
  | cons c t =>
      rw [e] at h
      simp only [splitFieldName]
      split
      · next hc =>
        rw [List.dropWhile_cons_of_pos (isNameChar_of_isNameStart hc)] at h
        split
        · next e => exact absurd e (h _)
        · rfl
      · rfl

/-- A field name and its colon are one lexeme, whatever stands behind them. -/
theorem splitFieldName_name {f : List Char} (hf : isFieldName f = true) (s : List Char) :
    splitFieldName (f ++ ':' :: s) = some (f ++ [':'], s) := by
  obtain _ | ⟨c, r⟩ := f
  · cases hf
  · simp only [isFieldName, Bool.and_eq_true, List.all_eq_true] at hf
    have hc : isNameChar ':' = false := by decide
    have hb : isBlank ':' = false := by decide
    rw [List.cons_append, splitFieldName]
    simp only [hf.1, if_true, List.dropWhile_append_of_pos hf.2, List.takeWhile_append_of_pos hf.2,
      List.dropWhile_cons, List.takeWhile_cons, hc, hb, Bool.false_eq_true, if_false,
      List.append_nil]

theorem isNameChar_of_isFieldName {f : List Char} (hf : isFieldName f = true) :
    f ≠ [] ∧ ∀ c ∈ f, isNameChar c = true := by
  obtain _ | ⟨c, r⟩ := f
  · cases hf
  · simp only [isFieldName, Bool.and_eq_true, List.all_eq_true] at hf
    refine ⟨List.cons_ne_nil _ _, fun d hd => ?_⟩
    rcases List.mem_cons.mp hd with rfl | hd
    · exact isNameChar_of_isNameStart hf.1
    · exact hf.2 d hd

/-! ### Keywords -/

/-- A text that no keyword begins. -/
def NoKeyword (s : List Char) : Prop := ∀ w ∈ keywords, splitKeyword w s = none

/-- A text that no operator written in symbols begins. -/
def NoSymbol (s : List Char) : Prop :=
  "&&".toList.isPrefixOf s = false ∧ "||".toList.isPrefixOf s = false

/-- A keyword is read where it ends as a word. -/
theorem splitKeyword_append {w s : List Char} (hs : endsWord s = true) :
    splitKeyword w (w ++ s) = some (w, s) := by
  rw [splitKeyword, if_pos (by simp [hs]), List.drop_left]

theorem splitKeyword_eq_some {w s : List Char} {p : List Char × List Char}
    (h : splitKeyword w s = some p) : p.1 = w ∧ s = w ++ p.2 ∧ endsWord p.2 = true := by
  unfold splitKeyword at h
  split at h
  · next hc =>
    cases h
    simp only [Bool.and_eq_true] at hc
    exact ⟨rfl, (isPrefixOf_append_drop hc.1).symm, hc.2⟩
  · cases h

/-- A negated operator begins with its keyword. -/
theorem splitNegated_eq_none {w s : List Char} (h : splitKeyword w s = none) :
    splitNegated w s = none := by
  unfold splitNegated
  split
  · next hw =>
    have he : endsWord (s.drop w.length) = false := by
      rw [← Bool.not_eq_true]
      intro he
      rw [splitKeyword, if_pos (by simp [hw, he])] at h
      cases h
    have : (s.drop w.length).takeWhile isBlank = [] := by
      cases hd : s.drop w.length with
      | nil => rfl
      | cons c r =>
          rw [hd] at he
          simp only [endsWord, Bool.or_eq_false_iff] at he
          rw [List.takeWhile_cons_of_neg (by simp [he.1.1])]
    simp [this]
  · rfl

theorem splitOperator_eq_none {w y s : List Char} (hw : splitKeyword w s = none)
    (hy : y.isPrefixOf s = false) : splitOperator w y s = none := by
  simp only [splitOperator, hw, hy, Bool.false_eq_true, if_false]

/-- No operator begins a text that neither a keyword nor a symbol begins. -/
theorem split_operatorKinds {s : List Char} (hk : NoKeyword s) (hy : NoSymbol s) :
    ∀ k ∈ Position.operatorKinds, k.split s = none := by
  have hand := hk "AND".toList (by decide)
  have hor := hk "OR".toList (by decide)
  have hnot := hk "NOT".toList (by decide)
  simp only [Position.operatorKinds, List.mem_cons, List.not_mem_nil, or_false, forall_eq_or_imp,
    forall_eq]
  exact ⟨splitNegated_eq_none hand, splitNegated_eq_none hor, splitOperator_eq_none hand hy.1,
    hnot, splitOperator_eq_none hor hy.2⟩

theorem noKeyword_cons {c : Char} (h : c ∉ ['A', 'O', 'N']) (s : List Char) :
    NoKeyword (c :: s) := by
  simp only [List.mem_cons, List.not_mem_nil, or_false, not_or] at h
  simp only [NoKeyword, keywords, List.mem_cons, List.not_mem_nil, or_false, forall_eq_or_imp,
    forall_eq]
  have none {a : Char} {w : List Char} (ha : c ≠ a) : splitKeyword (a :: w) (c :: s) = none := by
    cases e : splitKeyword (a :: w) (c :: s) with
    | none => rfl
    | some p => exact absurd (head_of_splitKeyword e).symm ha
  exact ⟨none h.1, none h.2.1, none h.2.2⟩

theorem noSymbol_cons {c : Char} (h : c ∉ ['&', '|']) (s : List Char) : NoSymbol (c :: s) := by
  simp only [List.mem_cons, List.not_mem_nil, or_false, not_or] at h
  have none {a : Char} {w : List Char} (ha : c ≠ a) : (a :: w).isPrefixOf (c :: s) = false := by
    rw [← Bool.not_eq_true]
    exact fun e => ha (head_of_isPrefixOf e).symm
  exact ⟨none h.1, none h.2⟩

/-- A keyword is written like a word, and has no escapes. -/
theorem escaped_keyword : ∀ w ∈ keywords, Escaped isWordChar w ∧ unescape w = w := by
  have plain {a : Char} {w : List Char} (ha : a ≠ '\\' ∧ isWordChar a = true)
      (h : Escaped isWordChar w) : Escaped isWordChar (a :: w) := .plain ha.1 ha.2 h
  simp only [keywords, List.mem_cons, List.not_mem_nil, or_false, forall_eq_or_imp, forall_eq]
  exact ⟨⟨plain (by decide) (plain (by decide) (plain (by decide) .nil)), rfl⟩,
    ⟨plain (by decide) (plain (by decide) .nil), rfl⟩,
    ⟨plain (by decide) (plain (by decide) (plain (by decide) .nil)), rfl⟩⟩

/-- Where a keyword is read, it is the whole word that is read. -/
theorem span_keyword {w r : List Char} (hw : w ∈ keywords) (he : endsWord r = true) :
    spanEscaped isWordChar (w ++ r) = (w, r) := by
  have hw := (escaped_keyword w hw).1
  cases r with
  | nil =>
      rw [hw.span]
      simp [spanEscaped]
  | cons c u =>
      have hc : c ≠ '\\' ∧ isWordChar c = false := by
        simp only [endsWord, Bool.or_eq_true, beq_iff_eq] at he
        rcases he with (hb | rfl) | rfl
        · exact ⟨by rintro rfl; revert hb; decide, by simp [isWordChar, hb]⟩
        · decide
        · decide
      exact hw.span_of_stop hc.1 hc.2 u

/-- **A written word is no keyword**, for it is escaped where it would be one. -/
theorem noKeyword_escapeWord {t s : List Char} (ht : Legible t) (hs : StopsWord s) :
    NoKeyword (escapeWord t ++ s) := by
  intro w hw
  rcases escapeWord_cases t with ⟨e, hk, -⟩ | ⟨c, r, -, -, -, e, -⟩
  · rw [e]
    cases h : splitKeyword w (escapeSpecials t ++ s) with
    | none => rfl
    | some p =>
        -- both ends of the first word of the text are the same, so the keyword is all of `t`
        obtain ⟨-, ep, he⟩ := splitKeyword_eq_some h
        have h₁ := hs.span (escaped_escapeSpecials_iff.mpr ht.2)
        rw [ep, span_keyword hw he, Prod.mk.injEq] at h₁
        have : w = t := by
          rw [← unescape_escapeSpecials t, ← h₁.1, (escaped_keyword w hw).2]
        exact absurd (this ▸ hw) hk
  · rw [e]
    exact noKeyword_cons (by decide) _ w hw

/-- A written word begins with two characters that are not escaped only if the word does. -/
theorem isPrefixOf_escapeWord {t s : List Char} {a : Char} (ht : t ≠ []) (hs : ∀ r, s ≠ a :: r)
    (ha : a ≠ '\\') (h : [a, a].isPrefixOf t = false) :
    [a, a].isPrefixOf (escapeWord t ++ s) = false := by
  have hne (r : List Char) : [a, a].isPrefixOf ('\\' :: r) = false := by
    simp [List.isPrefixOf, ha]
  rcases escapeWord_cases t with ⟨e, -⟩ | ⟨c, r, -, -, -, e, -⟩
  · obtain ⟨c, r, rfl⟩ := List.exists_cons_of_ne_nil ht
    rw [e, escapeSpecials_eq, escapeAll_cons]
    split
    · exact hne _
    · cases r with
      | nil =>
          cases s with
          | nil => simp [escapeAll, List.isPrefixOf]
          | cons d s =>
              have hd : a ≠ d := fun e => hs s (e ▸ rfl)
              simp [escapeAll, List.isPrefixOf, hd]
      | cons d r =>
          rw [escapeAll_cons]
          split
          · simp [List.isPrefixOf, ha]
          · simpa [List.isPrefixOf] using h
  · rw [e]
    exact hne _

/-- A written word is no operator in symbols, unless the word looks like one itself. -/
theorem noSymbol_escapeWord {t s : List Char} (ht : t ≠ []) (hs : FollowsTerm s)
    (ha : "&&".toList.isPrefixOf t = false) (ho : "||".toList.isPrefixOf t = false) :
    NoSymbol (escapeWord t ++ s) := by
  have mark : ∀ a ∈ ['&', '|'], ∀ r, s ≠ a :: r := by
    rintro a ha r rfl
    rcases hs with (_ | _ | _) | _ | _ <;> exact absurd ha (by decide)
  exact ⟨isPrefixOf_escapeWord ht (mark '&' (by decide)) (by decide) ha,
    isPrefixOf_escapeWord ht (mark '|' (by decide)) (by decide) ho⟩

/-- A field name is no keyword: its colon stands where the keyword would have to end. -/
theorem noKeyword_name {f : List Char} (hf : isFieldName f = true) (s : List Char) :
    NoKeyword (f ++ ':' :: s) := by
  obtain ⟨-, hc⟩ := isNameChar_of_isFieldName hf
  intro w hw
  cases h : splitKeyword w (f ++ ':' :: s) with
  | none => rfl
  | some p =>
      -- after the keyword comes a character of the name or the colon, and it ends no word
      obtain ⟨-, e, he⟩ := splitKeyword_eq_some h
      rcases List.append_eq_append_iff.mp e with ⟨a, ea, eb⟩ | ⟨a, ea, eb⟩
      · have : ':' ∉ w := (by decide : ∀ w ∈ keywords, ':' ∉ w) w hw
        cases a with
        | nil =>
            rw [show p.2 = ':' :: s from eb.symm] at he
            cases he
        | cons b a => cases eb; exact absurd (ea ▸ by simp) this
      · cases a with
        | nil => rw [eb] at he; cases he
        | cons b a =>
            rw [eb] at he
            have hb := hc b (by simp [ea])
            simp only [List.cons_append, endsWord, not_isBlank_of_isNameChar hb, Bool.false_or,
              Bool.or_eq_true, beq_iff_eq] at he
            rcases he with rfl | rfl
            · exact absurd hb (by decide)
            · exact absurd hb (by decide)

theorem noSymbol_name {f : List Char} (hf : isFieldName f = true) (s : List Char) :
    NoSymbol (f ++ s) := by
  obtain ⟨hne, hc⟩ := isNameChar_of_isFieldName hf
  obtain ⟨c, r, rfl⟩ := List.exists_cons_of_ne_nil hne
  have hc := hc c (List.mem_cons_self ..)
  rw [List.cons_append]
  refine noSymbol_cons ?_ _
  simp only [List.mem_cons, List.not_mem_nil, or_false, not_or]
  constructor <;> rintro rfl <;> revert hc <;> decide

theorem solid_name {f : List Char} (hf : isFieldName f = true) (s : List Char) :
    Solid (f ++ s) := by
  obtain ⟨hne, hc⟩ := isNameChar_of_isFieldName hf
  obtain ⟨c, r, rfl⟩ := List.exists_cons_of_ne_nil hne
  have hc := hc c (List.mem_cons_self ..)
  refine ⟨c, r ++ s, rfl, not_isBlank_of_isNameChar hc, ?_⟩
  rintro rfl
  exact absurd hc (by decide)

/-- A text that begins neither with a blank or a colon nor as operators do. -/
structure Clear (s : List Char) : Prop where
  solid : Solid s
  noKeyword : NoKeyword s
  noSymbol : NoSymbol s

theorem clear_cons {c : Char}
    (h : isBlank c = false ∧ c ≠ ':' ∧ c ∉ ['A', 'O', 'N'] ∧ c ∉ ['&', '|']) (s : List Char) :
    Clear (c :: s) :=
  ⟨⟨c, s, rfl, h.1, h.2.1⟩, noKeyword_cons h.2.2.1 s, noSymbol_cons h.2.2.2 s⟩

theorem clear_name {f : List Char} (hf : isFieldName f = true) (s : List Char) :
    Clear (f ++ ':' :: s) :=
  ⟨solid_name hf _, noKeyword_name hf s, noSymbol_name hf _⟩

/-! ### Terms, modifiers and bounds -/

/-- **A written word is one lexeme.** -/
theorem splitWord_escapeWord {t s : List Char} (ht : Legible t) (hs : StopsWord s) :
    splitWord (escapeWord t ++ s) = some (escapeWord t, s) := by
  rw [splitWord, if_pos (beginsWord_escapeWord ht s), hs.span (escaped_escapeWord_iff.mpr ht.2)]

/-- **A written phrase is one lexeme**, whatever stands behind its quote. -/
theorem splitPhrase_escapeQuoted (t s : List Char) :
    splitPhrase ('"' :: escapeQuoted t ++ '"' :: s) = some ('"' :: escapeQuoted t ++ ['"'], s) := by
  have e := (escaped_escapeQuoted t).span_of_stop (c := '"') (by decide) rfl s
  simp only [List.cons_append, splitPhrase, e]

/-- A regular expression between slashes is one lexeme, whatever stands behind it. -/
theorem splitRegex_escaped {t : List Char} (ht : Escaped (· != '/') t) (hne : t ≠ [])
    (s : List Char) : splitRegex ('/' :: t ++ '/' :: s) = some ('/' :: t ++ ['/'], s) := by
  have e := ht.span_of_stop (c := '/') (by decide) rfl s
  obtain ⟨c, r, rfl⟩ := List.exists_cons_of_ne_nil hne
  rw [List.cons_append] at e
  simp only [List.cons_append, splitRegex, e]

theorem inside_between (a b : Char) (l : List Char) : inside (a :: l ++ [b]) = l := by
  rw [inside, List.cons_append, List.tail_cons, List.dropLast_concat]

/-- The kinds of modifiers, with their marks. -/
inductive Marks : Kind → Char → Prop where
  | boost : Marks .boost '^'
  | fuzzy : Marks .fuzzy '~'

theorem splitPlain_append {l s : List Char} {x : Binary64} (hl : Binary64.ofPlain? l = some x)
    (hs : Binary64.EndsPlain s) : splitPlain (l ++ s) = some (l, s) := by
  obtain ⟨w, f, h⟩ := Binary64.spanPlain_of_ofPlain? hl
  rw [splitPlain, Binary64.spanPlain_append h hs]
  simp

/-- A mark and the plain decimal behind it are one lexeme. -/
theorem split_modifier {k : Kind} {mark : Char} (hk : Marks k mark) {l s : List Char} {x : Binary64}
    (hl : Binary64.ofPlain? l = some x) (hs : Binary64.EndsPlain s) :
    k.split (mark :: (l ++ s)) = some (mark :: l, s) := by
  have plain := splitPlain_append hl hs
  cases hk with
  | boost => rw [Kind.split, splitBoost, plain, Option.map_some]
  | fuzzy => simp only [Kind.split, splitFuzzy, plain]

/-- A written bound is read up to what ends it. -/
theorem splitBound_append {l s : List Char} {c : Char} (hl : ∀ d ∈ l, isBoundChar d = true)
    (hne : l ≠ []) (hc : isBoundChar c = false) :
    splitBound (l ++ c :: s) = some (l, c :: s) := by
  simp only [splitBound, List.takeWhile_append_of_pos hl, List.dropWhile_append_of_pos hl,
    List.takeWhile_cons_of_neg (p := isBoundChar) (by simp [hc] : ¬isBoundChar c = true),
    List.dropWhile_cons_of_neg (p := isBoundChar) (by simp [hc] : ¬isBoundChar c = true),
    List.append_nil, List.isEmpty_iff, hne, if_false]

/-- The blanks in front of its colon are no part of a field name. -/
theorem nameOfLexeme_blanks {f b : List Char} (hf : isFieldName f = true)
    (hb : ∀ c ∈ b, isBlank c = true) : nameOfLexeme (f ++ b ++ [':']) = f := by
  obtain ⟨hne, hc⟩ := isNameChar_of_isFieldName hf
  have hl := not_isBlank_of_isNameChar (hc _ (List.getLast_mem hne))
  rw [nameOfLexeme, List.dropLast_concat, dropBlanksRight_append_blanks hb,
    ← List.dropLast_concat_getLast hne, dropBlanksRight_concat hl]

theorem nameOfLexeme_name {f : List Char} (hf : isFieldName f = true) :
    nameOfLexeme (f ++ [':']) = f := by
  simpa using nameOfLexeme_blanks hf (b := []) (by simp)

/-! ### Operators -/

/-- Behind a keyword and a blank a negated operator is read exactly if `NOT` comes next. -/
theorem splitNegated_append {w s : List Char} (hs : Solid s) :
    splitNegated w (w ++ ' ' :: s) =
      (splitKeyword "NOT".toList s).map fun p => (w ++ [' '] ++ p.1, p.2) := by
  obtain ⟨c, r, rfl, hb, -⟩ := hs
  rw [splitNegated, if_pos (by simp), List.drop_left]
  simp only [List.takeWhile_cons_of_pos (show isBlank ' ' = true by decide),
    List.dropWhile_cons_of_pos (show isBlank ' ' = true by decide),
    List.takeWhile_cons_of_neg (p := isBlank) (by simp [hb] : ¬isBlank c = true),
    List.dropWhile_cons_of_neg (p := isBlank) (by simp [hb] : ¬isBlank c = true)]
  rfl

/-- **A written operator is one lexeme**: a positive one unless `NOT` comes after it. -/
theorem firstLexeme?_operator {op : Operator} {s : List Char} (hs : Solid s)
    (hop : op ≠ .implicit) (hknown : ∀ t, op ≠ .other t)
    (hn : op = .and ∨ op = .or → splitKeyword "NOT".toList s = none) (ks : List Kind) :
    ∃ k, operator? k = some op ∧
      firstLexeme? (Position.operatorKinds ++ ks) (op.text.toList ++ ' ' :: s) =
        some (k, op.text.toList, ' ' :: s) := by
  have blank : endsWord (' ' :: s) = true := rfl
  have positive (w y : List Char) : splitOperator w y (w ++ ' ' :: s) = some (w, ' ' :: s) := by
    rw [splitOperator, splitKeyword_append blank]
  have negative (w : List Char) :
      splitNegated w (w ++ ' ' :: ("NOT".toList ++ ' ' :: s)) =
        some (w ++ [' '] ++ "NOT".toList, ' ' :: s) := by
    have : Solid ("NOT".toList ++ ' ' :: s) := ⟨'N', _, rfl, by decide, by decide⟩
    rw [splitNegated_append this, splitKeyword_append blank, Option.map_some]
  cases op with
  | implicit => exact absurd rfl hop
  | other t => exact absurd rfl (hknown t)
  | and =>
      refine ⟨.and, rfl, firstLexeme?_of_split [.andNot, .orNot] ?_
        (positive "AND".toList "&&".toList)⟩
      rintro k (_ | ⟨_, _ | ⟨_, ⟨⟩⟩⟩)
      · exact (splitNegated_append hs).trans (by rw [hn (.inl rfl), Option.map_none])
      · exact Kind.split_eq_none rfl _
  | or =>
      refine ⟨.or, rfl, firstLexeme?_of_split [.andNot, .orNot, .and, .not] ?_
        (positive "OR".toList "||".toList)⟩
      rintro k (_ | ⟨_, _ | ⟨_, _ | ⟨_, _ | ⟨_, ⟨⟩⟩⟩⟩⟩)
      · exact Kind.split_eq_none rfl _
      · exact (splitNegated_append hs).trans (by rw [hn (.inr rfl), Option.map_none])
      · exact Kind.split_eq_none rfl _
      · exact Kind.split_eq_none rfl _
  | not =>
      refine ⟨.not, rfl, firstLexeme?_of_split [.andNot, .orNot, .and] ?_
        (splitKeyword_append blank)⟩
      rintro k (_ | ⟨_, _ | ⟨_, _ | ⟨_, ⟨⟩⟩⟩⟩) <;> exact Kind.split_eq_none rfl _
  | andNot =>
      exact ⟨.andNot, rfl, firstLexeme?_of_split [] (by simp) (negative "AND".toList)⟩
  | orNot =>
      refine ⟨.orNot, rfl, firstLexeme?_of_split [.andNot] ?_ (negative "OR".toList)⟩
      rintro k (_ | ⟨_, ⟨⟩⟩)
      exact Kind.split_eq_none rfl _

end SearchFilters.Query
