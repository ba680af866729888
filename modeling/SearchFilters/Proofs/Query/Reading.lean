import SearchFilters.Proofs.Query.Clause
import SearchFilters.Proofs.Query.Held

/-!
# Proofs — Query — Reading

What every run keeps, and what follows for the trees that are read.

That a reader stays formed is not an invariant by itself: whether an operator may stand in front of
a node depends on the text behind it.  Where the word `AND` was read alone, no `NOT` follows, for
the two would have been read together; and a clause that follows another one does not look like an
operator, for that would have been read.  `Reads` therefore speaks of a reader and the rest of the
text.  A lexeme keeps it (`Reads.take`, by the effects of lexemes), and so does a run.

For strict readers a lexeme must cost nothing.  No step raises the potential, so it is enough that
it is not lower at the end of the run than at its beginning (`Reads.steps`).  `formed_of_parse` is
the result for whole texts.
-/

namespace SearchFilters.Query
open Text

variable {strict : Prop} {r r' : Reader} {k : Kind} {l : List Char}

/-! ### What is not read -/

/-- After the word of an operator that was not read together with a `NOT`, no `NOT` follows. -/
theorem not_after_keyword {w y s rest : List Char} (hn : splitNegated w s = none)
    (hs : splitOperator w y s = some (l, rest)) (hy : l ≠ y) :
    splitKeyword "NOT".toList (rest.dropWhile isBlank) = none := by
  unfold splitOperator at hs
  split at hs
  · next p hw =>
    cases hs
    obtain ⟨-, rfl, he⟩ := splitKeyword_eq_some hw
    rw [splitNegated, if_pos (by simp), List.drop_left] at hn
    simp only at hn
    split at hn
    · next hb =>
      -- no blank follows: the text ends or a parenthesis follows
      cases rest with
      | nil => rfl
      | cons c r =>
          have hc : isBlank c = false := by
            rw [← Bool.not_eq_true]
            intro hc
            rw [List.takeWhile_cons_of_pos hc] at hb
            cases hb
          rw [List.dropWhile_cons_of_neg (by simp [hc])]
          simp only [endsWord, hc, Bool.false_or, Bool.or_eq_true, beq_iff_eq] at he
          rcases he with rfl | rfl <;> rfl
    · exact Option.map_eq_none_iff.mp hn
  · split at hs
    · cases hs
      exact absurd rfl hy
    · cases hs

theorem noSymbol_of_split {s : List Char} (hand : Kind.and.split s = none)
    (hor : Kind.or.split s = none) : NoSymbol s := by
  have none {w y : List Char} (h : splitOperator w y s = none) : y.isPrefixOf s = false := by
    unfold splitOperator at h
    split at h
    · cases h
    · split at h
      · cases h
      · next hy => exact Bool.not_eq_true _ ▸ hy
  exact ⟨none hand, none hor⟩

/-! ### What is kept -/

/-- What a reader and the rest of the text keep: the reader is formed, no `NOT` follows the word of
an operator, and the text does not end in a blank. -/
structure Reads (strict : Prop) (r : Reader) (s : List Char) : Prop where
  formed : r.Formed strict
  negation : r.position = .node → ∀ j ∈ r.links.head?, j.op ≠ .implicit ∧
    (strict → j.op = .and ∨ j.op = .or →
      splitKeyword "NOT".toList (s.dropWhile isBlank) = none)
  rest : s = [] ∨ EndsTight s
  tight : ∀ t, r.position = .modifiers t → s = [] → t.Tight

/-- A lexeme that ends a text leaves a term that ends as it does. -/
theorem tight_of_moves {p : Position} {t : Term} (h : Position.Moves k l p (.modifiers t))
    (hl : Lexical k l) (he : EndsTight l) : t.Tight := by
  cases h with
  | term _ h =>
      unfold Position.ofTerm at h
      split at h
      · cases h
        intro _ _ _ _ c hc
        rw [String.toList_ofList, getLast?_unescape hl.of_word.2] at hc
        exact he.getLast c hc
      · cases h
        rintro ⟨⟩
      · cases h
      · cases h
  | boost =>
      obtain ⟨x, hx⟩ := hl.of_boost
      intro _ _ _ hb
      rw [modifierValue, hx] at hb
      cases hb
  | proximity hq _ =>
      intro hq'
      rw [show _ = true from hq] at hq'
      cases hq'
  | similarity _ =>
      intro _ _ hs
      cases hs

/-- A node begins only where a parenthesis is opened. -/
theorem links_of_begun (h : r.Begun k l r') (hp : r'.position = .node) : r'.links = [] := by
  cases h with
  | move h => exact absurd hp h.ne_node
  | opens _ _ | opensNamed _ _ => rfl

theorem tight_of_begun (h : r.Begun k l r') (hl : Lexical k l) (he : EndsTight l) {t : Term}
    (hp : r'.position = .modifiers t) : t.Tight := by
  cases h with
  | move h =>
      obtain rfl : _ = Position.modifiers t := hp
      exact tight_of_moves h hl he
  | opens _ _ | opensNamed _ _ => cases hp

/-- A term that follows a clause is not written like an operator, for that would have been read as
one. -/
theorem not_symbolic_of_moves {p : Position} {rest : List Char}
    (h : Position.Moves k l .node p) (hl : Lexical k l) (hc : cost k l = 0)
    (hs : NoSymbol (l ++ rest)) : ¬p.Symbolic := by
  intro hp
  have prefix' {a : Char} (hw : Escaped isWordChar l) (he : escapes l = 0)
      (ha : isVeiled a = true) (h : [a, a].isPrefixOf (l ++ rest) = false) :
      ¬[a, a].isPrefixOf (unescape l) = true := by
    intro hu
    obtain ⟨t, e⟩ := List.isPrefixOf_iff_prefix.mp (isPrefixOf_of_unescape hw he ha hu)
    rw [← e] at h
    simp at h
  cases h with
  | term ha h =>
      unfold Position.ofTerm at h
      split at h
      · cases h
        have he : escapes l = 0 := by simpa [cost, operator?] using hc
        have hw := hl.of_word.2
        obtain ⟨-, -, -, -, h | h⟩ := hp
        · exact prefix' (a := '&') hw he rfl hs.1 (String.toList_ofList (l := unescape l) ▸ h)
        · exact prefix' (a := '|') hw he rfl hs.2 (String.toList_ofList (l := unescape l) ▸ h)
      · cases h
        cases hp.2.2.1
      · cases h
        exact hp
      · cases h
  | _ => exact hp

namespace Reads
variable {s rest : List Char}

theorem skip {c : Char} (h : Reads strict r (c :: s)) (hc : isLayout c = true) :
    Reads strict r s := by
  have hb := isBlank_of_isLayout hc
  have hrest : s = [] ∨ EndsTight s :=
    EndsTight.of_append (u := [c]) (h.rest.resolve_left (List.cons_ne_nil _ _))
  refine ⟨h.formed, fun hp j hj => ?_, hrest, fun t _ hs => ?_⟩
  · have := h.negation hp j hj
    rwa [List.dropWhile_cons_of_pos hb] at this
  · subst hs
    have := (h.rest.resolve_left (List.cons_ne_nil _ _)).getLast c rfl
    rw [this] at hb
    cases hb

/-- What is kept when a clause is begun or gone on with. -/
theorem of_begun {r₀ : Reader} (hb : r₀.Begun k l r') (hf : r'.Formed strict) (hl : Lexical k l)
    (hne : EndsTight (l ++ rest)) : Reads strict r' rest := by
  refine ⟨hf, fun hp j hj => ?_, hne.of_append, fun t hp hr => ?_⟩
  · rw [links_of_begun hb hp] at hj
    cases hj
  · rw [hr, List.append_nil] at hne
    exact tight_of_begun hb hl hne hp

/-- After an operator that was not written in symbols no `NOT` follows. -/
theorem of_join {c : Tree} {op : Operator} (h : Reads strict r (l ++ rest))
    (hc : r.position.clause? = some c) (ho : operator? k = some op)
    (hk : firstLexeme? r.position.kinds (l ++ rest) = some (k, l, rest))
    (hcost : strict → cost k l = 0) (hne : EndsTight (l ++ rest)) :
    Reads strict (r.join c op) rest := by
  obtain ⟨ks, hks, -⟩ := kinds_of_clause? hc
  have hsplit := (mem_of_firstLexeme? hk).2
  -- the operators with a `NOT` are tried first, so none of them begins the text
  have hk : firstLexeme? ([.andNot, .orNot] ++ ([.and, .not, .or] ++ ks)) (l ++ rest) =
      some (k, l, rest) := by
    rw [hks] at hk
    exact hk
  have hn := split_eq_none_of_firstLexeme? hk
  have word {a : Char} {w : List Char} (hs : strict) (ha : a = '&' ∨ a = '|')
      (hw : l = w) : w ≠ [a, a] := by
    subst hw
    rintro rfl
    have := hcost hs
    rcases ha with rfl | rfl <;> simp [cost, ho] at this
  refine ⟨formed_join h.formed hc ho, fun _ j hj => ?_, hne.of_append, fun _ hp => by cases hp⟩
  obtain rfl : _ = j := Option.some.inj hj
  refine ⟨(known_of_operator? ho).1, fun hs hj => ?_⟩
  rcases hj with hj | hj
  · obtain rfl : k = .and := by cases k <;> cases ho <;> first | rfl | cases hj
    exact not_after_keyword (hn (by decide) .andNot (by decide)) hsplit
      (word hs (.inl rfl) rfl)
  · obtain rfl : k = .or := by cases k <;> cases ho <;> first | rfl | cases hj
    exact not_after_keyword (hn (by decide) .orNot (by decide)) hsplit
      (word hs (.inr rfl) rfl)

/-- What is kept when a clause follows another without an operator. -/
theorem of_follows {c : Tree} (h : Reads strict r (l ++ rest))
    (hc : r.position.clause? = some c) (ho : operator? k = none)
    (hb : (r.join c .implicit).Begun k l r')
    (hk : firstLexeme? r.position.kinds (l ++ rest) = some (k, l, rest))
    (hcost : strict → cost k l = 0) (hne : EndsTight (l ++ rest)) : Reads strict r' rest := by
  obtain ⟨ks, hks, -⟩ := kinds_of_clause? hc
  have hl : Lexical k l := lexical_of_split (mem_of_firstLexeme? hk).2
  have hno : k ∉ Position.operatorKinds := by
    intro hk
    have : ∀ k ∈ Position.operatorKinds, operator? k ≠ none := by decide
    exact this k hk ho
  have hn := split_eq_none_of_firstLexeme? (by rw [hks] at hk; exact hk) hno
  have hy := noSymbol_of_split (hn .and (by decide)) (hn .or (by decide))
  refine of_begun hb (formed_of_begun hb h.formed.frames ?_ (fun p hp => ?_) (.inl rfl) trivial hl
    hcost) hl hne
  · exact linked_join h.formed hc ⟨nofun, nofun, fun _ _ => id⟩
  · exact linked_join h.formed hc
      ⟨nofun, nofun, fun hs _ => not_symbolic_of_moves hp hl (hcost hs) hy⟩

/-- What is kept when `NOT` opens a node. -/
theorem of_negate (h : Reads strict r (l ++ rest)) (hp : r.position = .node)
    (hk : Kind.not.split (l ++ rest) = some (l, rest)) (hne : EndsTight (l ++ rest)) :
    Reads strict { r with start := some .not, position := .clause } rest := by
  refine ⟨⟨h.formed.frames, ?_, .inr rfl, trivial⟩, (fun hp => by cases hp), hne.of_append,
    fun _ hp => by cases hp⟩
  have hlinks := h.formed.links
  have hneg := h.negation hp
  rw [hp] at hlinks
  cases e : r.links with
  | nil => trivial
  | cons j js =>
      rw [e] at hlinks hneg
      obtain ⟨hj, hrest⟩ := hlinks
      obtain ⟨hi, hn⟩ := hneg j rfl
      refine ⟨⟨hj.known, fun _ => ⟨hi, fun hs => ?_⟩, hj.plain⟩, hrest⟩
      rw [← not_or]
      intro ho
      -- the text would begin with the `NOT` that cannot follow
      have hb := hn hs ho
      obtain ⟨rfl, -, -⟩ := splitKeyword_eq_some hk
      have hd : ("NOT".toList ++ rest).dropWhile isBlank = "NOT".toList ++ rest :=
        List.dropWhile_cons_of_neg (by decide)
      rw [hd] at hb
      rw [Kind.split, hb] at hk
      cases hk

/-- **What a lexeme keeps.** -/
theorem take (h : Reads strict r s) (hl : firstLexeme? r.position.kinds s = some (k, l, rest))
    (hr : r.step k l = some r') (hc : strict → cost k l = 0) : Reads strict r' rest := by
  have hsplit := (mem_of_firstLexeme? hl).2
  have hlex : Lexical k l := lexical_of_split hsplit
  obtain ⟨hne, rfl⟩ : l ≠ [] ∧ l ++ rest = s := Kind.split_splits hsplit
  have hend : EndsTight (l ++ rest) := h.rest.resolve_left (by simp [hne])
  cases Reader.does_of_step hr with
  | negate hk hp =>
      subst hk
      exact of_negate h hp hsplit hend
  | goesOn hb => exact of_begun hb (formed_of_goesOn hb h.formed hlex hc) hlex hend
  | overflows hk ht hp =>
      refine ⟨⟨h.formed.frames, h.formed.links, h.formed.start, h.formed.position⟩,
        fun hp' => ?_, hend.of_append, fun t' hp' _ => ?_⟩
      · cases hp.symm.trans hp'
      · cases hp.symm.trans hp'
        intro hq
        rw [ht] at hq
        cases hq
  | joins hc' ho => exact of_join h hc' ho hl hc hend
  | follows hc' ho hb => exact of_follows h hc' ho hb hl hc hend
  | closes hc' hk hg =>
      have hf := formed_closeGroup h.formed hc' hg
      obtain ⟨c, hp⟩ : ∃ c, r'.position = .done c := by
        obtain ⟨f, fs, -, rfl⟩ := Reader.closeGroup_eq_some hg
        exact ⟨_, rfl⟩
      refine ⟨hf, fun hp' => ?_, hend.of_append, fun t hp' => ?_⟩
      · cases hp.symm.trans hp'
      · cases hp.symm.trans hp'

/-- **What a run keeps**, for strict readers as long as it does not lower the potential. -/
theorem steps {s s' : List Char} (h : Steps r s r' s') (hs : Reads strict r s)
    (hv : strict → potential r s ≤ potential r' s') : Reads strict r' s' := by
  induction h with
  | refl => exact hs
  | @more r r₁ r₂ s s₁ s₂ h ht ih =>
      have h₁ := potential_step h
      have h₂ : potential r₂ s₂ ≤ potential r₁ s₁ := potential_steps ht
      refine ih ?_ fun hst => h₁.trans (hv hst)
      cases h with
      | skip hc => exact hs.skip hc
      | take _ hl hr =>
          refine hs.take hl hr fun hst => ?_
          have := potential_take (mem_of_firstLexeme? hl).2 (Reader.does_of_step hr)
          have := hv hst
          omega

theorem initial {s : List Char} (h : s = [] ∨ EndsTight s) : Reads strict {} s :=
  ⟨⟨nofun, trivial, .inl rfl, trivial⟩, (fun _ j hj => by cases hj), h, fun _ hp => by cases hp⟩

/-- A query that is read to its end has a formed tree. -/
theorem finish {t : Tree} (h : Reads strict r []) (ht : r.finish = some t) :
    t.Formed strict Grouping.Open ∧ t.IsGroup ∧ t.Tight := by
  obtain ⟨c, -, hc, rfl⟩ := Reader.finish_eq_some ht
  obtain ⟨hcf, hcs⟩ := Position.formed_of_clause? h.formed.position hc
  refine ⟨formed_node h.formed.start hcf (h.formed.links.mono hcs), (node_grouping ..).1,
    tight_node ?_⟩
  cases hp : r.position with
  | modifiers t =>
      rw [hp] at hc
      cases hc
      exact h.tight t hp rfl
  | done c =>
      have hd := h.formed.position
      rw [hp] at hc hd
      cases hc
      exact hd.2.2
  | _ => rw [hp] at hc; cases hc

end Reads

/-- A trimmed text ends in no blank, if it is not empty. -/
theorem endsTight_trim (s : List Char) : trim s = [] ∨ EndsTight (trim s) := by
  rcases List.eq_nil_or_concat (trim s) with e | ⟨u, c, e⟩
  · exact .inl e
  · rw [List.concat_eq_append] at e
    exact .inr ⟨u, c, e, getLast?_trim s c (by rw [e, List.getLast?_concat]; rfl)⟩

/-- What is kept and lost in reading a whole text. -/
def kept (t : Tree) : Nat :=
  t.weight (counting '&' ampersand_traced) + t.weight (counting '|' bar_traced) + t.weight escaping

/-- At the end of a query all the potential is in its tree. -/
theorem potential_finish {t : Tree} (h : r.finish = some t) : potential r [] = kept t := by
  simp only [potential, occurrences, ← Reader.weight_finish _ h, kept, List.count_nil, escapes,
    Nat.add_zero]

/-- **The trees that are read**: formed trees, and strictly formed ones where nothing is lost. -/
theorem formed_of_parse (strict : Prop) {text : String} {t : Tree} (h : parse text = .ok (some t))
    (hv : strict → potential {} (trim text.toList) ≤ kept t) :
    t.Formed strict Grouping.Open ∧ t.IsGroup ∧ t.Tight := by
  obtain ⟨r, hs, hf, -⟩ := parse_eq_some_iff.mp h
  refine (Reads.steps hs (.initial (endsTight_trim _)) fun hst => ?_).finish hf
  rw [potential_finish hf]
  exact hv hst

end SearchFilters.Query
