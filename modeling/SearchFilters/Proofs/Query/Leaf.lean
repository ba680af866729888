import SearchFilters.Proofs.Query.Clause

/-!
# Proofs — Query — Leaf

Reading terms and ranges: their texts as runs of steps.

A term is printed in three parts: its field and its sign, its text, and its modifiers.  The last two
are put together first, as a text that reads as the term where the field and the sign have been read
(`BodyText`); its cases are the three sorts of terms (`bodyText_regex`, `bodyText_phrase`,
`bodyText_word`), and the modifiers are runs of their own (`steps_boost`, `steps_similarity`,
`steps_proximity`).  With the first part in front the text reads as a clause wherever one may begin
(`Clausal`, `clausal_term`); so does the text of a range (`clausal_range`).

Both structures also say what the text does not begin with: a blank, a keyword, and, unless the term
looks like one, an operator in symbols.  This is what the text before it has to know.
-/

namespace SearchFilters.Query
open Text

/-! ### Modifiers -/

/-- A written boost is read. -/
theorem steps_boost {r : Reader} {u : Term} {x : Option Number} {w s : List Char}
    (hr : r.position = .modifiers u) (hu : u.boost = none) (hx : ∀ y ∈ x, y.Rereads)
    (hw : modifierText '^' x = .ok w) (hs : Follows s) :
    Steps r (w ++ s) { r with position := .modifiers { u with boost := x } } s := by
  cases x with
  | none =>
      cases hw
      rw [← hu, ← hr]
      exact .refl _ _
  | some x =>
      obtain ⟨l, y, hl, hy, rfl⟩ := hx x rfl
      rw [modifierText, hl] at hw
      cases hw
      have hsplit := split_modifier .boost hy (FollowsTerm.rest hs).endsPlain
      refine .one (.take rfl (firstLexeme?_of_starts (by rw [hr]; rfl) hsplit) ?_)
      simp only [Reader.step, hr, modifierValue, List.tail_cons, hy, Option.map_some]

/-- A written similarity is read. -/
theorem steps_similarity {r : Reader} {u : Term} {x : Option Number} {w s : List Char}
    (hr : r.position = .modifiers u) (hq : u.quoted = false) (hu : u.similarity = none)
    (hx : ∀ y ∈ x, y.Rereads) (hw : modifierText '~' x = .ok w) (hs : FollowsTerm s) :
    Steps r (w ++ s) { r with position := .modifiers { u with similarity := x } } s := by
  cases x with
  | none =>
      cases hw
      rw [← hu, ← hr]
      exact .refl _ _
  | some x =>
      obtain ⟨l, y, hl, hy, rfl⟩ := hx x rfl
      rw [modifierText, hl] at hw
      cases hw
      have hsplit := split_modifier .fuzzy hy hs.endsPlain
      refine .one (.take rfl (firstLexeme?_of_starts (by rw [hr]; rfl) hsplit) ?_)
      simp only [Reader.step, hr, Reader.fuzzy, hq, modifierValue, List.tail_cons, hy,
        Option.getD_some, Bool.false_eq_true, if_false]

/-- A written proximity is read. -/
theorem steps_proximity {r : Reader} {u : Term} {x : Option Int} {w s : List Char}
    (hr : r.position = .modifiers u) (hq : u.quoted = true) (hu : u.proximity = none)
    (hx : ∀ i ∈ x, ProximityRereads i) (hw : modifierText '~' (x.map Number.int) = .ok w)
    (hs : FollowsTerm s) :
    Steps r (w ++ s) { r with position := .modifiers { u with proximity := x } } s := by
  cases x with
  | none =>
      cases hw
      rw [← hu, ← hr]
      exact .refl _ _
  | some i =>
      obtain ⟨l, n, m, e, hl, hy, hi⟩ := hx i rfl
      rw [Option.map_some, modifierText, hl] at hw
      cases hw
      have hsplit := split_modifier .fuzzy hy hs.endsPlain
      refine .one (.take rfl (firstLexeme?_of_starts (by rw [hr]; rfl) hsplit) ?_)
      simp only [Reader.step, hr, Reader.fuzzy, hq, modifierValue, List.tail_cons, hy, hi, if_true]

/-- A modifier begins with its mark. -/
theorem followsTerm_modifier {mark : Char} {x : Option Number} {w s : List Char}
    (hm : mark = '~' ∨ mark = '^') (hw : modifierText mark x = .ok w) (hs : FollowsTerm s) :
    FollowsTerm (w ++ s) := by
  rcases modifierText_eq_ok hw with ⟨-, rfl⟩ | ⟨y, l, -, -, rfl⟩
  · exact hs
  · rcases hm with rfl | rfl
    · exact .fuzzy _
    · exact .boost _

/-! ### Terms -/

/-- A text that reads as a term where nothing but its field and its sign has been read. -/
structure BodyText (t : Term) (w : List Char) : Prop where
  solid : ∀ s, Solid (w ++ s)
  noField : ∀ {s}, Follows s → splitFieldName (w ++ s) = none
  noKeyword : ∀ {s}, Follows s → NoKeyword (w ++ s)
  tight : t.Tight → EndsTight w
  noSymbol : (t.quoted = false → t.regex = false →
      "&&".toList.isPrefixOf t.text.toList = false ∧ "||".toList.isPrefixOf t.text.toList = false) →
    ∀ {s}, Follows s → NoSymbol (w ++ s)
  reads : ∀ {r b s}, Follows s → TakesTerm r b t.field t.mark (w ++ s) →
    ∃ p, Steps r (w ++ s) { b with position := p } s ∧ p.clause? = some (.term t)

theorem splitFieldName_cons {c : Char} (h : isNameStart c = false) (s : List Char) :
    splitFieldName (c :: s) = none := Kind.split_eq_none (k := .fieldName) h s

theorem bodyText_regex {t : Term} (ht : t.IsRegex) : BodyText t ('/' :: t.text.toList ++ ['/']) := by
  have slash (s : List Char) : Clear ('/' :: t.text.toList ++ ['/'] ++ s) :=
    clear_cons (by decide) _
  refine ⟨fun s => (slash s).solid, fun _ => splitFieldName_cons (c := '/') rfl _,
    fun _ => (slash _).noKeyword, fun _ => endsTight_concat (by decide) _,
    fun _ _ _ => (slash _).noSymbol, ?_⟩
  intro r b s hs hr
  have e : '/' :: t.text.toList ++ ['/'] ++ s = '/' :: t.text.toList ++ '/' :: s := by simp
  rw [e] at hr ⊢
  have hl : firstLexeme? termKinds ('/' :: t.text.toList ++ '/' :: s) =
      some (.regex, '/' :: t.text.toList ++ ['/'], s) :=
    firstLexeme?_of_starts rfl (splitRegex_escaped ht.escaped ht.ne_nil s)
  refine ⟨_, .one (hr hl rfl), ?_⟩
  obtain ⟨f, x, q, bo, m, re, si, pr⟩ := t
  obtain ⟨rfl, rfl, -, -, rfl, rfl, rfl⟩ := ht
  simp only [Position.clause?, inside_between, String.ofList_toList]

/-- A quoted text reads as its term, with the modifiers behind it. -/
theorem bodyText_phrase {t : Term} (ht : t.IsPhrase) {v w : List Char}
    (hv : modifierText '~' (t.proximity.map Number.int) = .ok v)
    (hw : modifierText '^' t.boost = .ok w) :
    BodyText t ('"' :: escapeQuoted t.text.toList ++ ['"'] ++ v ++ w) := by
  have quote (s : List Char) : Clear ('"' :: escapeQuoted t.text.toList ++ ['"'] ++ v ++ w ++ s) :=
    clear_cons (by decide) _
  refine ⟨fun s => (quote s).solid, fun _ => splitFieldName_cons (c := '"') rfl _,
    fun _ => (quote _).noKeyword, fun _ => ?_, fun _ _ _ => (quote _).noSymbol, ?_⟩
  · refine endsTight_modifier (fun y hy l hl => (ht.boost y hy).endsTight hl) hw fun _ => ?_
    refine endsTight_modifier (fun y hy l hl => ?_) hv fun _ => endsTight_concat (by decide) _
    obtain ⟨i, hi, rfl⟩ := Option.map_eq_some_iff.mp hy
    exact (ht.proximity i hi).endsTight hl
  intro r b s hs hr
  have e : '"' :: escapeQuoted t.text.toList ++ ['"'] ++ v ++ w ++ s =
      '"' :: escapeQuoted t.text.toList ++ '"' :: (v ++ (w ++ s)) := by simp
  rw [e] at hr ⊢
  have hl : firstLexeme? termKinds ('"' :: escapeQuoted t.text.toList ++ '"' :: (v ++ (w ++ s))) =
      some (.phrase, '"' :: escapeQuoted t.text.toList ++ ['"'], v ++ (w ++ s)) :=
    firstLexeme?_of_starts rfl (splitPhrase_escapeQuoted _ _)
  have h₁ := hr hl rfl
  let u : Term := { field := t.field, mark := t.mark, text := t.text, quoted := true }
  have h₂ := steps_proximity (r := { b with position := .modifiers u }) (u := u) rfl rfl rfl
    ht.proximity hv (followsTerm_modifier (.inr rfl) hw (.rest hs))
  have h₃ := steps_boost
    (r := { b with position := .modifiers { u with proximity := t.proximity } }) rfl rfl
    ht.boost hw hs
  rw [inside_between, unescape_escapeQuoted, String.ofList_toList] at h₁
  refine ⟨_, .more h₁ (h₂.trans h₃), ?_⟩
  obtain ⟨f, x, q, bo, m, re, si, pr⟩ := t
  obtain ⟨rfl, rfl, rfl, -, -⟩ := ht
  rfl

/-- So does a word. -/
theorem bodyText_word {t : Term} (ht : t.IsWord) {v w : List Char}
    (hv : modifierText '~' t.similarity = .ok v) (hw : modifierText '^' t.boost = .ok w) :
    BodyText t (escapeWord t.text.toList ++ v ++ w) := by
  have after {s : List Char} (hs : Follows s) : FollowsTerm (v ++ (w ++ s)) :=
    followsTerm_modifier (.inl rfl) hv (followsTerm_modifier (.inr rfl) hw (.rest hs))
  have assoc (s : List Char) : escapeWord t.text.toList ++ v ++ w ++ s =
      escapeWord t.text.toList ++ (v ++ (w ++ s)) := by simp
  refine ⟨fun s => ?_, fun hs => ?_, fun hs => ?_, fun ht' => ?_, fun hsym s hs => ?_,
    fun {r b s} hs hr => ?_⟩
  · rw [assoc]
    exact solid_of_beginsWord (beginsWord_escapeWord ht.legible _)
  · rw [assoc]
    exact splitFieldName_escaped (escaped_escapeWord_iff.mpr ht.legible.2) (after hs).stopsWord
  · rw [assoc]
    exact noKeyword_escapeWord ht.legible (after hs).stopsWord
  · refine endsTight_modifier (fun y hy l hl => (ht.boost y hy).endsTight hl) hw fun hb => ?_
    refine endsTight_modifier (fun y hy l hl => (ht.similarity y hy).endsTight hl) hv fun hs => ?_
    obtain ⟨u, c, hu⟩ : ∃ u c, t.text.toList = u ++ [c] :=
      ⟨_, _, (List.dropLast_concat_getLast ht.legible.1).symm⟩
    obtain ⟨v, hv⟩ := escapeWord_concat u c
    rw [hu, hv]
    exact endsTight_concat (ht' ht.quoted ht.regex hs hb c (by rw [hu]; simp)) v
  · rw [assoc]
    obtain ⟨ha, ho⟩ := hsym ht.quoted ht.regex
    exact noSymbol_escapeWord ht.legible.1 (after hs) ha ho
  · rw [assoc] at hr ⊢
    have hl : firstLexeme? termKinds (escapeWord t.text.toList ++ (v ++ (w ++ s))) =
        some (.word, escapeWord t.text.toList, v ++ (w ++ s)) :=
      firstLexeme?_cons_of_some (k := .word)
        (splitWord_escapeWord ht.legible (after hs).stopsWord)
    have h₁ := hr hl rfl
    let u : Term := { field := t.field, mark := t.mark, text := t.text }
    have h₂ := steps_similarity (r := { b with position := .modifiers u }) (u := u) rfl rfl rfl
      ht.similarity hv (followsTerm_modifier (.inr rfl) hw (.rest hs))
    have h₃ := steps_boost
      (r := { b with position := .modifiers { u with similarity := t.similarity } }) rfl rfl
      ht.boost hw hs
    rw [unescape_escapeWord, String.ofList_toList] at h₁
    refine ⟨_, .more h₁ (h₂.trans h₃), ?_⟩
    obtain ⟨f, x, q, bo, m, re, si, pr⟩ := t
    obtain ⟨rfl, rfl, -, rfl, -, -⟩ := ht
    rfl

/-- **A term that can be written has a text, and behind its field and its sign it reads as the
term.** -/
theorem bodyText_of_readable {t : Term} (ht : t.Readable) :
    ∃ w, t.print = .ok (fieldText t.field ++ (t.mark.getD "").toList ++ w) ∧ BodyText t w := by
  rcases ht.body with h | h | h
  · have hv : t.core = .ok ('/' :: t.text.toList ++ ['/']) := by rw [Term.core, if_pos h.regex]
    have hw : modifierText '^' t.boost = .ok [] := by rw [h.boost, modifierText]
    refine ⟨_, Term.print_of_core hv hw, ?_⟩
    rw [List.append_nil]
    exact bodyText_regex h
  · obtain ⟨w, hw⟩ := modifierText_total '^' fun x hx => (h.boost x hx).exists_text
    obtain ⟨v, hv⟩ : ∃ v, modifierText '~' (t.proximity.map Number.int) = .ok v := by
      refine modifierText_total '~' fun y hy => ?_
      obtain ⟨i, hi, rfl⟩ := Option.map_eq_some_iff.mp hy
      obtain ⟨l, n, m, e, hl, -⟩ := h.proximity i hi
      exact ⟨l, hl⟩
    have hc : t.core = .ok ('"' :: escapeQuoted t.text.toList ++ ['"'] ++ v) := by
      rw [Term.core, if_neg (by simp [h.regex]), if_pos h.quoted, hv]
      rfl
    exact ⟨_, Term.print_of_core hc hw, bodyText_phrase h hv hw⟩
  · obtain ⟨v, hv⟩ := modifierText_total '~' fun x hx => (h.similarity x hx).exists_text
    obtain ⟨w, hw⟩ := modifierText_total '^' fun x hx => (h.boost x hx).exists_text
    have hne : ¬t.text.isEmpty = true := by
      rw [String.isEmpty_iff]
      intro e
      exact h.legible.1 (by rw [e]; rfl)
    have hc : t.core = .ok (escapeWord t.text.toList ++ v) := by
      rw [Term.core, if_neg (by simp [h.regex]), if_neg (by simp [h.quoted]), if_neg hne, hv]
      rfl
    exact ⟨_, Term.print_of_core hc hw, bodyText_word h hv hw⟩

/-! ### Clauses -/

/-- A text that reads as a clause wherever one may begin, and that begins with no operator. -/
structure Clausal (w : List Char) (c : Tree) : Prop where
  solid : ∀ s, Solid (w ++ s)
  noKeyword : ∀ {s}, Follows s → NoKeyword (w ++ s)
  tight : c.Tight → EndsTight w
  noSymbol : c.NotSymbolic → ∀ {s}, Follows s → NoSymbol (w ++ s)
  reads : ∀ {r b s}, Begins r b (w ++ s) → Follows s →
    ∃ p, Steps r (w ++ s) { b with position := p } s ∧ p.clause? = some c

/-- The text of a leaf begins as its field name does, or as what stands behind it. -/
theorem fieldText_cases {f : String} (hf : Leafy f) (w : List Char) :
    (f = implicitField ∧ fieldText f ++ w = w) ∨
      (f ≠ implicitField ∧ isFieldName f.toList = true ∧
        fieldText f ++ w = f.toList ++ ':' :: w) := by
  rw [fieldText]
  split
  · next h => exact .inl ⟨h, rfl⟩
  · next h => exact .inr ⟨h, hf.resolve_left h, by simp⟩

/-- The text of a term begins with its field name or its sign, or it has neither. -/
theorem prefix_cases {t : Term} (ht : t.Readable) (w : List Char) :
    Clear (fieldText t.field ++ (t.mark.getD "").toList ++ w) ∨
      (t.field = implicitField ∧ t.mark = none ∧
        fieldText t.field ++ (t.mark.getD "").toList ++ w = w) := by
  rw [List.append_assoc]
  rcases fieldText_cases ht.field ((t.mark.getD "").toList ++ w) with ⟨hf, e⟩ | ⟨-, hf, e⟩
  · rw [e]
    rcases ht.mark with hm | hm | hm
    · exact .inr ⟨hf, hm, by rw [hm]; rfl⟩
    · rw [hm]
      exact .inl (clear_cons (c := '+') (by decide) w)
    · rw [hm]
      exact .inl (clear_cons (c := '-') (by decide) w)
  · rw [e]
    exact .inl (clear_name hf _)

/-- **The text of a term is a clause.** -/
theorem clausal_term {t : Term} (ht : t.Readable) :
    ∃ w, t.print = .ok w ∧ Clausal w (.term t) := by
  obtain ⟨w, hw, hbody⟩ := bodyText_of_readable ht
  refine ⟨_, hw, fun s => ?_, fun {s} hs => ?_, fun h => (hbody.tight h).append _,
    fun hn s hs => ?_, fun {r b s} hr hs => ?_⟩
  · rw [List.append_assoc]
    rcases prefix_cases ht (w ++ s) with h | ⟨-, -, e⟩
    · exact h.solid
    · rw [e]
      exact hbody.solid s
  · rw [List.append_assoc]
    rcases prefix_cases ht (w ++ s) with h | ⟨-, -, e⟩
    · exact h.noKeyword
    · rw [e]
      exact hbody.noKeyword hs
  · rw [List.append_assoc]
    rcases prefix_cases ht (w ++ s) with h | ⟨hf, hm, e⟩
    · exact h.noSymbol
    · rw [e]
      refine hbody.noSymbol (fun hq hr => ?_) hs
      rw [← Bool.not_eq_true, ← Bool.not_eq_true, ← not_or]
      exact fun h => hn t rfl ⟨hf, hm, hq, hr, h⟩
  · rw [List.append_assoc] at hr ⊢
    obtain ⟨r', h₁, ht'⟩ := steps_prefix ht (hbody.noField hs) hr
    obtain ⟨p, h₂, hp⟩ := hbody.reads hs ht'
    exact ⟨p, h₁.trans h₂, hp⟩

/-! ### Ranges -/

theorem step_bound {r r' : Reader} {w s : List Char} {c : Char} (hr : r.position.kinds = [.bound])
    (hw : w ≠ [] ∧ ∀ d ∈ w, isBoundChar d = true) (hc : isBoundChar c = false)
    (h : r.step .bound w = some r') : Step r (w ++ c :: s) r' (c :: s) := by
  refine step_of_lexeme ?_ h
  rw [hr]
  exact firstLexeme?_cons_of_some (k := .bound) (splitBound_append hw.2 hw.1 hc)

/-- A range behind its opening bracket. -/
theorem steps_bounds {r : Reader} {f : String} {i : Bool} {low high s : List Char} {c : Char}
    (hr : r.position = .low f i) (hl : low ≠ [] ∧ ∀ d ∈ low, isBoundChar d = true)
    (hh : high ≠ [] ∧ ∀ d ∈ high, isBoundChar d = true) (hc : c = ']' ∨ c = '\x7d') :
    Steps r (low ++ " TO ".toList ++ high ++ c :: s)
      { r with position := .done (.range {
          field := f, low := String.ofList low, high := String.ofList high,
          inclusive := .ofBounds i ([c] == [']']) }) } s := by
  have hb : isBoundChar c = false := by rcases hc with rfl | rfl <;> decide
  have h₁ : Step r (low ++ ' ' :: ("TO ".toList ++ (high ++ c :: s)))
      { r with position := .between f i (String.ofList low) }
      (' ' :: ("TO ".toList ++ (high ++ c :: s))) :=
    step_bound (by rw [hr]; rfl) hl (by decide) (by simp only [Reader.step, hr])
  have h₂ : Step { r with position := .between f i (String.ofList low) }
      ("TO ".toList ++ (high ++ c :: s)) { r with position := .high f i (String.ofList low) }
      (' ' :: (high ++ c :: s)) := .take rfl rfl rfl
  have h₃ : Step { r with position := .high f i (String.ofList low) } (high ++ c :: s)
      { r with position := .rangeEnd f i (String.ofList low) (String.ofList high) } (c :: s) :=
    step_bound rfl hh hb rfl
  have h₄ : Step { r with position := .rangeEnd f i (String.ofList low) (String.ofList high) }
      (c :: s) { r with position := .done (.range {
          field := f, low := String.ofList low, high := String.ofList high,
          inclusive := .ofBounds i ([c] == [']']) }) } s := by
    rcases hc with rfl | rfl <;> exact .take rfl rfl rfl
  have e : low ++ " TO ".toList ++ high ++ c :: s =
      low ++ ' ' :: ("TO ".toList ++ (high ++ c :: s)) := by
    rw [List.append_assoc, List.append_assoc]
    rfl
  rw [e]
  exact .more h₁ (.more (.skip rfl) (.more h₂ (.more (.skip rfl) (.more h₃ (.one h₄)))))

/-- An opening bracket where a range may stand. -/
theorem split_bracket {c : Char} (hc : c = '[' ∨ c = '\x7b') (s : List Char) :
    Kind.rangeOpen.split (c :: s) = some ([c], s) ∧ isLayout c = false ∧
      clauseKinds.find? (·.starts c) = some .rangeOpen ∧
      (Position.named "").kinds.find? (·.starts c) = some .rangeOpen := by
  rcases hc with rfl | rfl <;> exact ⟨rfl, rfl, by decide, by decide⟩

/-- **The text of a range is a clause.** -/
theorem clausal_range {r : Range} (hr : r.Readable) : Clausal r.print (.range r) := by
  obtain ⟨hf, hl, hh, a, z, hi⟩ := hr
  obtain ⟨o, ho, eo, ea⟩ : ∃ o, (o = '[' ∨ o = '\x7b') ∧
      (if r.inclusive.includesLow then '[' else '\x7b') = o ∧ ([o] == ['[']) = a := by
    rw [hi, Inclusivity.includesLow_ofBounds]
    cases a
    · exact ⟨_, .inr rfl, rfl, rfl⟩
    · exact ⟨_, .inl rfl, rfl, rfl⟩
  obtain ⟨c, hc, ec, ez⟩ : ∃ c, (c = ']' ∨ c = '\x7d') ∧
      (if r.inclusive.includesHigh then ']' else '\x7d') = c ∧ ([c] == [']']) = z := by
    rw [hi, Inclusivity.includesHigh_ofBounds]
    cases z
    · exact ⟨_, .inr rfl, rfl, rfl⟩
    · exact ⟨_, .inl rfl, rfl, rfl⟩
  have text (s : List Char) : r.print ++ s =
      fieldText r.field ++ o :: (r.low.toList ++ " TO ".toList ++ r.high.toList ++ c :: s) := by
    rw [Range.print, eo, ec]
    simp only [List.append_assoc, List.cons_append, List.nil_append]
  have clear (s : List Char) : Clear (r.print ++ s) := by
    rw [text]
    rcases fieldText_cases hf _ with ⟨-, e⟩ | ⟨-, hn, e⟩ <;> rw [e]
    · exact clear_cons (by rcases ho with rfl | rfl <;> decide) _
    · exact clear_name hn _
  have done (r' : Reader) (hr' : r'.position = .low r.field ([o] == ['['])) (s : List Char) :
      Steps r' (r.low.toList ++ " TO ".toList ++ r.high.toList ++ c :: s)
        { r' with position := .done (.range r) } s := by
    have h := steps_bounds (s := s) hr' hl hh hc
    rw [ea, ez, ← hi, String.ofList_toList, String.ofList_toList] at h
    exact h
  refine ⟨fun s => (clear s).solid, fun _ => (clear _).noKeyword, fun _ => ?_,
    fun _ _ _ => (clear _).noSymbol, fun {r' b s} hr' _ => ?_⟩
  · rw [Range.print]
    exact endsTight_concat (by split <;> decide) _
  · rw [text] at hr' ⊢
    refine ⟨.done (.range r), ?_, rfl⟩
    obtain ⟨hsplit, hlay, hclause, hnamed⟩ := split_bracket ho
      (r.low.toList ++ " TO ".toList ++ r.high.toList ++ c :: s)
    rcases fieldText_cases hf _ with ⟨ef, e⟩ | ⟨-, hn, e⟩
    · rw [e] at hr' ⊢
      refine .more (hr' (firstLexeme?_of_starts hclause hsplit) rfl) (done _ ?_ s)
      rw [ef]
      rfl
    · rw [e] at hr' ⊢
      refine .more (step_fieldName hn hr') (.more (.take hlay
        (firstLexeme?_of_starts hnamed hsplit) rfl) (done _ rfl s))

end SearchFilters.Query
