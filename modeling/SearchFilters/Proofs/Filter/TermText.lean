import SearchFilters.Proofs.Filter.QueryText

/-!
# Proofs — Filter — Term text

A string in a query is one lexeme, and it reads back.  The quotes of the serializer, the escapes of
the printer and the lexemes of the reader each go by a list of characters of their own; here the
three meet.

* `termText`, `termKind`: a string as it stands in a query, and the kind of lexeme that it is.
* `Delimited`: what may stand after it.
* `Position.Expects`: the positions at which a term may stand, with the field and the sign it gets.
* `lexeme_termText`: no keyword and no field name begins the text of a string, and of the lexemes
  of terms the whole text is the one that does.
* `step_termText`: right after a field name or an operator it is read as that one lexeme, and
  what is read is the string.
-/

namespace SearchFilters
open Text Query

/-! ### What is written -/

/-- Whether a string is written as a phrase: it is empty, or a word of it would need quotes. -/
def isPhrase (t : String) : Bool := t.isEmpty || needsQuoting t.toList

/-- A string as it stands in a query: an escaped phrase or an escaped word. -/
def termText (t : String) : List Char :=
  if isPhrase t then '"' :: escapeQuoted t.toList ++ ['"'] else escapeWord t.toList

/-- The kind of lexeme that a string is. -/
def termKind (t : String) : Kind := if isPhrase t then .phrase else .word

/-- A text that is not written as a phrase can be written as a word. -/
theorem legible_of_isPhrase {t : String} (h : isPhrase t = false) : Legible t.toList := by
  simp only [isPhrase, Bool.or_eq_false_iff] at h
  refine legible_of_needsQuoting (fun e => ?_) h.2
  rw [String.toList_eq_nil_iff] at e
  rw [e] at h
  exact absurd h.1 (by decide)

/-- **The printer writes the term of a string so**, behind the name of its field. -/
theorem print_plainTermOf (field t : String) :
    (plainTermOf field t false).print = .ok (fieldText field ++ termText t) := by
  have core : (plainTermOf field t false).core = .ok (termText t) := by
    have hq : (plainTermOf field t false).quoted = isPhrase t := by
      rw [plainTermOf, isPhrase, Bool.false_or]
    rw [Term.core, if_neg (by simp [plainTermOf]), hq, termText]
    split
    · exact congrArg Except.ok (List.append_nil _)
    · next h =>
      have he : ¬t.isEmpty = true := fun e => h (by rw [isPhrase, e, Bool.true_or])
      rw [plainTermOf, if_neg he]
      exact congrArg Except.ok (List.append_nil _)
  have boost : modifierText '^' (plainTermOf field t false).boost = .ok [] := rfl
  rw [Term.print_of_core core boost, List.append_nil]
  exact congrArg (fun w => Except.ok (w ++ termText t)) (List.append_nil _)

/-! ### What stands after it -/

/-- What may stand after a string: the end of the text or of a group, or blanks that no colon
follows. -/
inductive Delimited : List Char → Prop where
  | nil : Delimited []
  | close (s : List Char) : Delimited (')' :: s)
  | blank {c : Char} {s : List Char} (hb : isBlank c = true)
      (hs : ∀ r, s.dropWhile isBlank ≠ ':' :: r) : Delimited (c :: s)

theorem Delimited.stopsWord {s : List Char} (h : Delimited s) : StopsWord s := by
  cases h with
  | nil =>
      refine ⟨fun c hc => ?_, fun r => by simp⟩
      cases hc
  | close s =>
      refine ⟨fun c hc => ?_, fun r => ?_⟩
      · cases hc
        decide
      · rw [List.dropWhile_cons_of_neg (by decide)]
        simp
  | @blank d s hb hs =>
      refine ⟨fun c hc => ?_, fun r => ?_⟩
      · cases hc
        refine ⟨?_, by simp [isWordChar, hb], ?_⟩
        · rintro rfl
          exact absurd hb (by decide)
        · rw [← Bool.not_eq_true]
          intro hn
          rw [not_isBlank_of_isNameChar hn] at hb
          cases hb
      · rw [List.dropWhile_cons_of_pos hb]
        exact hs r

/-! ### One lexeme -/

/-- **The text of a string is one lexeme**: neither a keyword nor a field name begins it, and of the
lexemes of terms the whole text is the one that begins it. -/
theorem lexeme_termText (t : String) {s : List Char} (hs : Delimited s) :
    NoKeyword (termText t ++ s) ∧ splitFieldName (termText t ++ s) = none ∧
      firstLexeme? termKinds (termText t ++ s) = some (termKind t, termText t, s) := by
  rw [termText, termKind]
  cases h : isPhrase t with
  | true =>
      have hl : firstLexeme? termKinds ('"' :: escapeQuoted t.toList ++ '"' :: s) =
          some (.phrase, '"' :: escapeQuoted t.toList ++ ['"'], s) :=
        firstLexeme?_of_starts rfl (splitPhrase_escapeQuoted t.toList s)
      simp only [if_true, List.append_assoc, List.cons_append, List.nil_append] at hl ⊢
      exact ⟨noKeyword_cons (by decide) _, splitFieldName_cons (c := '"') rfl _, hl⟩
  | false =>
      have ht := legible_of_isPhrase h
      simp only [Bool.false_eq_true, if_false]
      exact ⟨noKeyword_escapeWord ht hs.stopsWord,
        splitFieldName_escaped (escaped_escapeWord_iff.mpr ht.2) hs.stopsWord,
        firstLexeme?_cons_of_some (k := .word) (splitWord_escapeWord ht hs.stopsWord)⟩

/-- **What is read of the lexeme is the string.** -/
theorem ofTerm_termText (field : String) (mark : Option String) (t : String) :
    Position.ofTerm field mark (termKind t) (termText t) =
      some (.modifiers { field, mark, text := t, quoted := isPhrase t }) := by
  rw [termText, termKind]
  cases h : isPhrase t with
  | true =>
      simp only [if_true, Position.ofTerm, inside_between, unescape_escapeQuoted,
        String.ofList_toList]
  | false =>
      simp only [Bool.false_eq_true, if_false, Position.ofTerm, unescape_escapeWord,
        String.ofList_toList]

theorem termKind_mem (t : String) : termKind t ∈ termKinds := by
  rw [termKind]
  split <;> decide

/-! ### Where it is read -/

namespace Query

/-- A position at which a term may stand, with the field and the sign that the term gets. -/
inductive Position.Expects : Position → String → Option String → Prop where
  | node : Expects .node implicitField none
  | clause : Expects .clause implicitField none
  | named (field : String) : Expects (.named field) field none
  | markedNamed (mark field : String) : Expects (.markedNamed mark field) field (some mark)

namespace Position.Expects
variable {r : Reader} {p : Position} {field : String} {mark : Option String}

/-- A lexeme of a term is the first one where no `NOT` and no field name can be. -/
theorem firstLexeme? (h : p.Expects field mark) {s : List Char} {x : Kind × List Char × List Char}
    (hk : NoKeyword s) (hf : splitFieldName s = none)
    (hx : Query.firstLexeme? termKinds s = some x) : Query.firstLexeme? p.kinds s = some x := by
  have hn : Kind.not.split s = none := hk "NOT".toList (by decide)
  have hf : Kind.fieldName.split s = none := hf
  cases h with
  | node =>
      exact (firstLexeme?_cons_of_none hn).trans
        ((firstLexeme?_cons_of_none hf).trans (firstLexeme?_append_of_some hx))
  | clause => exact (firstLexeme?_cons_of_none hf).trans (firstLexeme?_append_of_some hx)
  | named | markedNamed => exact firstLexeme?_append_of_some hx

/-- The lexeme of a term completes it. -/
theorem step (h : r.position.Expects field mark) {k : Kind} (hk : k ∈ termKinds) (l : List Char) :
    r.step k l = (ofTerm field mark k l).map fun p => { r with position := p } := by
  simp only [termKinds, List.mem_cons, List.not_mem_nil, or_false] at hk
  generalize hp : r.position = p at h
  cases h with
  | node | clause | named | markedNamed =>
      rcases hk with rfl | rfl | rfl <;> simp only [Reader.step, hp, Reader.begin,
        Reader.beginNamed, Option.getD_none, Option.getD_some]

end Position.Expects

/-- **Right after a field name a term may stand.** -/
theorem expects_of_fieldName {r r' : Reader} {l : List Char}
    (h : r.step .fieldName l = some r') : ∃ field mark, r'.position.Expects field mark := by
  cases hp : r.position with
  | node | clause | modifiers | done =>
      simp only [Reader.step, hp] at h
      cases h
      exact ⟨_, _, .named _⟩
  | marked mark =>
      simp only [Reader.step, hp] at h
      cases h
      exact ⟨_, _, .markedNamed _ _⟩
  | named | markedNamed | term | low | between | high | rangeEnd =>
      simp only [Reader.step, hp] at h
      cases h

/-- **Right after an operator a term may stand.** -/
theorem expects_of_operator {r r' : Reader} {k : Kind} {l : List Char}
    (hk : k ∈ Position.operatorKinds) (h : r.step k l = some r') :
    ∃ field mark, r'.position.Expects field mark := by
  cases hc : r.position.clause? with
  | some c =>
      have operator : ∀ k ∈ Position.operatorKinds,
          (k ≠ .boost ∧ k ≠ .fuzzy) ∧ (operator? k).isSome = true := by decide
      obtain ⟨hm, ho⟩ := operator k hk
      obtain ⟨op, ho⟩ := Option.isSome_iff_exists.mp ho
      rw [step_of_clause? hc hm] at h
      simp only [Reader.continueAfter, ho] at h
      cases h
      exact ⟨_, _, .node⟩
  | none =>
      -- without a clause before it the operator is the `NOT` that opens a node
      simp only [Position.operatorKinds, List.mem_cons, List.not_mem_nil, or_false] at hk
      cases hp : r.position with
      | modifiers | done =>
          rw [hp] at hc
          cases hc
      | node =>
          rcases hk with rfl | rfl | rfl | rfl | rfl <;> simp only [Reader.step, hp] at h <;>
            cases h
          exact ⟨_, _, .clause⟩
      | clause | named | marked | markedNamed | term | low | between | high | rangeEnd =>
          rcases hk with rfl | rfl | rfl | rfl | rfl <;> simp only [Reader.step, hp] at h <;>
            cases h

end Query

/-! ### What is read -/

/-- **A string in a query is one lexeme, and it reads back.**  Right after a field name or an
operator the lexeme that begins the text is all that the printer wrote of the string, a word or a
phrase, and the term read of it has the string as its text. -/
theorem step_termText {r r' : Reader} {k : Kind} {l s : List Char}
    (h : r.step k l = some r') (hk : k = .fieldName ∨ k ∈ Position.operatorKinds) (t : String)
    (hs : Delimited s) :
    (∀ field, (plainTermOf field t false).print = .ok (fieldText field ++ termText t)) ∧
      firstLexeme? r'.position.kinds (termText t ++ s) = some (termKind t, termText t, s) ∧
      ∃ field mark, r'.position.Expects field mark ∧
        r'.step (termKind t) (termText t) = some { r' with
          position := .modifiers { field, mark, text := t, quoted := isPhrase t } } := by
  obtain ⟨field, mark, hp⟩ : ∃ field mark, r'.position.Expects field mark := by
    rcases hk with rfl | hk
    · exact expects_of_fieldName h
    · exact expects_of_operator hk h
  obtain ⟨hn, hf, hl⟩ := lexeme_termText t hs
  refine ⟨fun field => print_plainTermOf field t, hp.firstLexeme? hn hf hl, field, mark, hp, ?_⟩
  rw [hp.step (termKind_mem t), ofTerm_termText, Option.map_some]

/-- A keyword in front of blanks, as it is read behind the name of a field. -/
theorem step_termText_sample :
    Reader.step {} .fieldName "name:".toList = some { position := .named "name" } ∧
      Delimited [' ', 'x'] ∧
      (∀ field, (plainTermOf field "NOT" false).print =
        .ok (fieldText field ++ termText "NOT")) ∧
      firstLexeme? (Position.named "name").kinds (termText "NOT" ++ [' ', 'x']) =
        some (termKind "NOT", termText "NOT", [' ', 'x']) ∧
      ∃ field mark, (Position.named "name").Expects field mark ∧
        Reader.step { position := .named "name" } (termKind "NOT") (termText "NOT") = some {
          position := .modifiers { field, mark, text := "NOT", quoted := isPhrase "NOT" } } := by
  have h : Reader.step {} .fieldName "name:".toList = some { position := .named "name" } := rfl
  have hs : Delimited [' ', 'x'] := by
    refine .blank (by decide) fun r e => ?_
    rw [List.dropWhile_cons_of_neg (by decide)] at e
    cases e
  exact ⟨h, hs, step_termText h (.inl rfl) "NOT" hs⟩

/-- In front of a colon a word is no term: blanks do not part them. -/
example : firstLexeme? Position.node.kinds (termText "a" ++ " :b".toList) =
    some (.fieldName, "a :".toList, ['b']) := by decide

end SearchFilters
