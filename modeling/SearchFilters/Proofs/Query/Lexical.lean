import SearchFilters.Proofs.Query.Written

/-!
# Proofs — Query — Lexical

What lexemes look like, whatever text they were split from.

`Lexical` describes the lexemes of each kind by themselves, and `lexical_of_split` shows that
splitting gives no others, kind by kind.  What holds of all lexemes is then proved by the cases of
`Lexical`, without the texts behind them: what they bring into a tree (`Lexical.of_fieldName`,
`Lexical.of_boost`), and which characters they have.  Those that leave no text in the tree have only
digits and marks in them (`Lexical.bare`).
-/

namespace SearchFilters.Query
open Text

/-- **The lexemes of a kind.** -/
inductive Lexical : Kind → List Char → Prop where
  | operator {k : Kind} {l : List Char} (hk : (operator? k).isSome)
      (hl : ∀ c ∈ l, isBlank c = true ∨ c ∈ "ANDORT&|".toList) : Lexical k l
  | fieldName {n b : List Char} (hn : isFieldName n = true) (hb : ∀ c ∈ b, isBlank c = true) :
      Lexical .fieldName (n ++ b ++ [':'])
  | word {l : List Char} (hne : l ≠ []) (h : Escaped isWordChar l) : Lexical .word l
  | phrase {u : List Char} (h : Escaped (· != '"') u) : Lexical .phrase ('"' :: u ++ ['"'])
  | regex {u : List Char} (hne : u ≠ []) (h : Escaped (· != '/') u) :
      Lexical .regex ('/' :: u ++ ['/'])
  | boost {d : List Char} {x : Binary64} (h : Binary64.ofPlain? d = some x) :
      Lexical .boost ('^' :: d)
  | fuzzy : Lexical .fuzzy ['~']
  | fuzzyNumber {d : List Char} {x : Binary64} (h : Binary64.ofPlain? d = some x) :
      Lexical .fuzzy ('~' :: d)
  | bound {l : List Char} (hne : l ≠ []) (h : ∀ c ∈ l, isBoundChar c = true) : Lexical .bound l
  | rangeTo : Lexical .rangeTo "TO".toList
  | mark {c : Char} (hc : c = '+' ∨ c = '-') : Lexical .mark [c]
  | bracket {k : Kind} {c : Char} (hk : k ∈ [.rangeOpen, .rangeClose, .groupOpen, .groupClose])
      (hc : c ∈ "[]\x7b\x7d()".toList) : Lexical k [c]

/-- The kinds of lexemes that leave no text behind, operators apart. -/
def Kind.isBare : Kind → Bool
  | .boost | .fuzzy | .rangeTo | .mark => true
  | .rangeOpen | .rangeClose | .groupOpen | .groupClose => true
  | _ => false

/-- Operators are set apart: they leave no text behind, but their letters count. -/
theorem Kind.isBare_of_operator {k : Kind} (h : (operator? k).isSome) : k.isBare = false := by
  cases k <;> first | rfl | cases h

theorem Kind.isBare_of_bracket {k : Kind}
    (h : k ∈ [.rangeOpen, .rangeClose, .groupOpen, .groupClose]) : k.isBare = true := by
  simp only [List.mem_cons, List.not_mem_nil, or_false] at h
  rcases h with rfl | rfl | rfl | rfl <;> rfl

/-- The characters of such lexemes, digits apart. -/
def bareMarks : List Char := "^~.TO+-[]\x7b\x7d()".toList

namespace Lexical
variable {l : List Char}

theorem of_word (h : Lexical .word l) : l ≠ [] ∧ Escaped isWordChar l := by
  cases h with
  | word hne h => exact ⟨hne, h⟩
  | operator hk _ => cases hk
  | bracket hk _ => exact absurd hk (by decide)

theorem of_phrase (h : Lexical .phrase l) : ∃ u, l = '"' :: u ++ ['"'] ∧ Escaped (· != '"') u := by
  cases h with
  | phrase h => exact ⟨_, rfl, h⟩
  | operator hk _ => cases hk
  | bracket hk _ => exact absurd hk (by decide)

theorem of_regex (h : Lexical .regex l) :
    ∃ u, l = '/' :: u ++ ['/'] ∧ u ≠ [] ∧ Escaped (· != '/') u := by
  cases h with
  | regex hne h => exact ⟨_, rfl, hne, h⟩
  | operator hk _ => cases hk
  | bracket hk _ => exact absurd hk (by decide)

/-- What a field name stands for is a field name without blanks. -/
theorem of_fieldName (h : Lexical .fieldName l) : isFieldName (nameOfLexeme l) = true := by
  cases h with
  | fieldName hn hb => rwa [nameOfLexeme_blanks hn hb]
  | operator hk _ => cases hk
  | bracket hk _ => exact absurd hk (by decide)

theorem of_bound (h : Lexical .bound l) : l ≠ [] ∧ ∀ c ∈ l, isBoundChar c = true := by
  cases h with
  | bound hne h => exact ⟨hne, h⟩
  | operator hk _ => cases hk
  | bracket hk _ => exact absurd hk (by decide)

theorem of_mark (h : Lexical .mark l) : l = ['+'] ∨ l = ['-'] := by
  cases h with
  | mark hc => exact hc.imp (congrArg ([·])) (congrArg ([·]))
  | operator hk _ => cases hk
  | bracket hk _ => exact absurd hk (by decide)

theorem of_boost (h : Lexical .boost l) : ∃ x, Binary64.ofPlain? l.tail = some x := by
  cases h with
  | boost hd => exact ⟨_, hd⟩
  | operator hk _ => cases hk
  | bracket hk _ => exact absurd hk (by decide)

/-- Behind the fuzzy mark stands a plain decimal, if anything does. -/
theorem of_fuzzy {mark : Char} {d : List Char} (h : Lexical .fuzzy (mark :: d)) (hd : d ≠ []) :
    ∃ x, Binary64.ofPlain? d = some x := by
  cases h with
  | fuzzyNumber hx => exact ⟨_, hx⟩
  | fuzzy => exact absurd rfl hd
  | operator hk _ => cases hk
  | bracket hk _ => exact absurd hk (by decide)

/-- **The characters of a lexeme that leaves no text behind**, an operator apart, are digits and
marks. -/
theorem bare {P : Char → Prop} {k : Kind} (h : Lexical k l) (hk : k.isBare = true)
    (digit : ∀ c, isDigit c = true → P c) (mark : ∀ c ∈ bareMarks, P c) : ∀ c ∈ l, P c := by
  have decimal {d : List Char} {x : Binary64} (hd : Binary64.ofPlain? d = some x) (a : Char)
      (ha : a ∈ bareMarks) : ∀ c ∈ a :: d, P c := by
    intro c hc
    rcases List.mem_cons.mp hc with rfl | hc
    · exact mark c ha
    · rcases (Binary64.chars_of_ofPlain? hd).2 c hc with hc | rfl
      · exact digit c hc
      · exact mark '.' (by decide)
  have only {w : List Char} (hw : w ⊆ bareMarks) : ∀ c ∈ w, P c := fun c hc => mark c (hw hc)
  cases h with
  | operator ho _ => exact absurd hk (by rw [Kind.isBare_of_operator ho]; decide)
  | boost hd => exact decimal hd '^' (by decide)
  | fuzzy | rangeTo => exact only (by decide)
  | fuzzyNumber hd => exact decimal hd '~' (by decide)
  | mark hc => rcases hc with rfl | rfl <;> exact only (by decide)
  | @bracket _ c _ hc =>
      have brackets : "[]\x7b\x7d()".toList ⊆ bareMarks := by decide
      exact only (List.cons_subset.mpr ⟨brackets hc, List.nil_subset _⟩)
  | _ => cases hk

end Lexical

variable {s : List Char} {p : List Char × List Char}

theorem mem_of_splitOperator {w y : List Char} (h : splitOperator w y s = some p) :
    p.1 = w ∨ p.1 = y := by
  unfold splitOperator at h
  split at h
  · next hq =>
    cases h
    exact .inl (splitKeyword_eq_some hq).1
  · split at h
    · cases h
      exact .inr rfl
    · cases h

/-- A negated operator is the keyword and `NOT` with blanks between them. -/
theorem mem_of_splitNegated {w : List Char} (h : splitNegated w s = some p) :
    ∃ b, p.1 = w ++ b ++ "NOT".toList ∧ ∀ c ∈ b, isBlank c = true := by
  unfold splitNegated at h
  split at h
  · simp only at h
    split at h
    · cases h
    · obtain ⟨q, hq, rfl⟩ := Option.map_eq_some_iff.mp h
      refine ⟨(s.drop w.length).takeWhile isBlank, ?_, List.all_eq_true.mp List.all_takeWhile⟩
      rw [(splitKeyword_eq_some hq).1]
  · cases h

/-- What is split off as a field name is one, with blanks and a colon. -/
theorem lexical_splitFieldName (h : splitFieldName s = some p) : Lexical .fieldName p.1 := by
  cases s with
  | nil => cases h
  | cons c s =>
      simp only [splitFieldName] at h
      split at h
      · next hc =>
        split at h
        · cases h
          refine .fieldName ?_ (List.all_eq_true.mp List.all_takeWhile)
          rw [isFieldName, hc, Bool.true_and]
          exact List.all_takeWhile
        · cases h
      · cases h

theorem lexical_splitPhrase (h : splitPhrase s = some p) : Lexical .phrase p.1 := by
  unfold splitPhrase at h
  split at h
  · next s =>
    have e := Escaped.of_span (· != '"') s
    split at h
    · next hs =>
      cases h
      rw [hs] at e
      exact .phrase e
    · cases h
  · cases h

theorem lexical_splitRegex (h : splitRegex s = some p) : Lexical .regex p.1 := by
  unfold splitRegex at h
  split at h
  · next s =>
    have e := Escaped.of_span (· != '/') s
    split at h
    · cases h
    · next l r hne hs =>
      cases h
      rw [hs] at e
      exact .regex (fun hl => hne hl) e
    · cases h
  · cases h

/-- A plain decimal at the front of a text. -/
theorem ofPlain?_of_splitPlain (h : splitPlain s = some p) :
    ∃ x, Binary64.ofPlain? p.1 = some x := by
  obtain ⟨⟨d, r⟩, hd, e⟩ := Option.map_eq_some_iff.mp h
  obtain ⟨l, x, rfl, hx⟩ := Binary64.ofPlain?_of_spanPlain hd
  simp only [List.length_append, Nat.add_sub_cancel, List.take_left'] at e
  rw [← e]
  exact ⟨x, hx⟩

theorem lexical_splitWord (h : splitWord s = some p) : Lexical .word p.1 := by
  obtain ⟨hne, -⟩ := splitWord_splits h
  unfold splitWord at h
  split at h
  · cases h
    exact .word hne (Escaped.of_span _ _)
  · cases h

theorem lexical_splitBoost (h : splitBoost s = some p) : Lexical .boost p.1 := by
  unfold splitBoost at h
  split at h
  · obtain ⟨q, hq, rfl⟩ := Option.map_eq_some_iff.mp h
    obtain ⟨x, hx⟩ := ofPlain?_of_splitPlain hq
    exact .boost hx
  · cases h

theorem lexical_splitFuzzy (h : splitFuzzy s = some p) : Lexical .fuzzy p.1 := by
  unfold splitFuzzy at h
  split at h
  · split at h
    · next hq =>
      cases h
      obtain ⟨x, hx⟩ := ofPlain?_of_splitPlain hq
      exact .fuzzyNumber hx
    · cases h
      exact .fuzzy
  · cases h

theorem lexical_splitBound (h : splitBound s = some p) : Lexical .bound p.1 := by
  obtain ⟨hne, -⟩ := splitBound_splits h
  simp only [splitBound] at h
  split at h
  · cases h
  · cases h
    exact .bound hne (List.all_eq_true.mp List.all_takeWhile)

/-- The operators as they are written. -/
def operatorWords : List (List Char) :=
  ["AND".toList, "OR".toList, "NOT".toList, "&&".toList, "||".toList]

theorem mem_of_operatorWords : ∀ w ∈ operatorWords, ∀ c ∈ w, c ∈ "ANDORT&|".toList := fun w hw =>
  List.all_iff_forall_prop.mp (by revert w; decide)

/-- What is split off as an operator has no other characters. -/
theorem lexical_splitOperator {k : Kind} {w y : List Char} (hk : (operator? k).isSome)
    (hw : w ∈ operatorWords) (hy : y ∈ operatorWords) (h : splitOperator w y s = some p) :
    Lexical k p.1 := by
  refine .operator hk fun c hc => .inr ?_
  rcases mem_of_splitOperator h with e | e
  · exact mem_of_operatorWords w hw c (e ▸ hc)
  · exact mem_of_operatorWords y hy c (e ▸ hc)

theorem lexical_splitNegated {k : Kind} {w : List Char} (hk : (operator? k).isSome)
    (hw : w ∈ operatorWords) (h : splitNegated w s = some p) : Lexical k p.1 := by
  obtain ⟨b, e, hb⟩ := mem_of_splitNegated h
  refine .operator hk fun c hc => ?_
  simp only [e, List.mem_append] at hc
  rcases hc with (hc | hc) | hc
  · exact .inr (mem_of_operatorWords w hw c hc)
  · exact .inl (hb c hc)
  · exact .inr (mem_of_operatorWords _ (by decide) c hc)

theorem mem_of_splitChar {a b : Char} (h : splitChar a b s = some p) : p.1 = [a] ∨ p.1 = [b] := by
  unfold splitChar at h
  split at h
  · split at h
    · next hc =>
      cases h
      simpa using hc
    · cases h
  · cases h

theorem lexical_bracket {k : Kind} {a b : Char}
    (hk : k ∈ [.rangeOpen, .rangeClose, .groupOpen, .groupClose])
    (ha : a ∈ "[]\x7b\x7d()".toList) (hb : b ∈ "[]\x7b\x7d()".toList)
    (h : splitChar a b s = some p) : Lexical k p.1 := by
  rcases mem_of_splitChar h with e | e
  · rw [e]
    exact .bracket hk ha
  · rw [e]
    exact .bracket hk hb

/-- **Only such lexemes are split from texts.** -/
theorem lexical_of_split {k : Kind} (h : k.split s = some p) : Lexical k p.1 := by
  cases k with
  | andNot => exact lexical_splitNegated (w := "AND".toList) rfl (by decide) h
  | orNot => exact lexical_splitNegated (w := "OR".toList) rfl (by decide) h
  | and | or => exact lexical_splitOperator rfl (by decide) (by decide) h
  | not =>
      refine .operator rfl fun c hc => .inr ?_
      rw [(splitKeyword_eq_some h).1] at hc
      exact mem_of_operatorWords _ (by decide) c hc
  | fieldName => exact lexical_splitFieldName h
  | word => exact lexical_splitWord h
  | phrase => exact lexical_splitPhrase h
  | regex => exact lexical_splitRegex h
  | boost => exact lexical_splitBoost h
  | fuzzy => exact lexical_splitFuzzy h
  | bound => exact lexical_splitBound h
  | rangeTo =>
      simp only [Kind.split] at h
      split at h
      · cases h
        exact .rangeTo
      · cases h
  | mark => rcases mem_of_splitChar h with e | e <;> rw [e] <;> exact .mark (by simp)
  | rangeClose | rangeOpen | groupOpen | groupClose =>
        exact lexical_bracket (by decide) (by decide) (by decide) h

/-- No character of a bound follows a bound. -/
theorem head_of_splitBound {r l : List Char} (h : splitBound s = some (l, r)) :
    ∀ c ∈ r.head?, isBoundChar c = false := by
  simp only [splitBound] at h
  split at h
  · cases h
  · cases h
    intro c hc
    have := List.head?_dropWhile_not isBoundChar s
    rw [hc] at this
    simpa using this

end SearchFilters.Query
