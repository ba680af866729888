import SearchFilters.Proofs.Query.Readable
import SearchFilters.Proofs.Query.Run
import SearchFilters.Proofs.Query.Written

/-!
# Proofs — Query — Clause

Where a clause begins, and how what comes before a term is read.

A written clause is to be read wherever it may stand: at the beginning of a node, behind an
operator, and right behind another clause.  The positions there try different kinds of lexemes, and
one of them only knows that an implicit operator has come when the clause has begun.  `Begins r b s`
says what matters in all of these places: the reader `r` takes the first lexeme of `s` as the node
that `b` reads would take it.  It holds at each of the places as long as the text does not look like
an operator there (`begins_node`, `begins_clause`, `begins_join`), for the kinds that begin a clause
are apart from the others that are tried.  `TakesTerm` says the same of the places where only a term
may stand, with the field and the sign that it gets, and `steps_prefix` leads from a place of the
first sort to one of the second, over the field name and the sign of a written term.
-/

namespace SearchFilters.Query
open Text

/-! ### Where a clause begins -/

/-- The lexemes that a clause begins with. -/
def clauseKinds : List Kind := [.fieldName, .word, .regex, .phrase, .mark, .rangeOpen, .groupOpen]

/-- The reader `r` takes the lexeme that begins the text as the first one of a clause of the node
that `b` reads. -/
def Begins (r b : Reader) (s : List Char) : Prop :=
  ∀ {k l rest r'}, firstLexeme? clauseKinds s = some (k, l, rest) → b.begin k l = some r' →
    Step r s r' rest

/-- The characters that clauses begin with are neither modifiers nor the end of a group. -/
theorem not_starts_of_clauseKinds {c : Char} {k : Kind} (hk : k ∈ clauseKinds)
    (hc : k.starts c = true) : c ∉ ['^', '~', ')'] := by
  have : ∀ c ∈ ['^', '~', ')'], ∀ k ∈ clauseKinds, k.starts c = false :=
    List.all_iff_forall_prop.mp (by decide)
  intro hm
  rw [this c hm k hk] at hc
  cases hc

/-- A clause begins at a reader whose other lexemes do not. -/
theorem begins_of_kinds {r b : Reader} {s : List Char}
    (hk : r.position.kinds.filter (fun k => clauseKinds.contains k) = clauseKinds)
    (hn : ∀ k ∈ r.position.kinds, k ∉ clauseKinds → k ∉ [.boost, .fuzzy, .groupClose] →
      k.split s = none)
    (hb : ∀ k ∈ clauseKinds, ∀ l, r.step k l = b.begin k l) : Begins r b s := by
  intro k l rest r' hl hr
  obtain ⟨hm, hs⟩ := mem_of_firstLexeme? hl
  refine step_of_lexeme ?_ ((hb k hm l).trans hr)
  rw [← firstLexeme?_filter (q := fun k => clauseKinds.contains k), hk, hl]
  intro k' hk' hq
  have hq : k' ∉ clauseKinds := by simpa using hq
  by_cases ht : k' ∈ [Kind.boost, .fuzzy, .groupClose]
  · cases s with
    | nil => exact Kind.split_nil k'
    | cons c s =>
        refine Kind.split_eq_none ?_ s
        have hc := not_starts_of_clauseKinds hm (Kind.starts_of_split hs)
        simp only [List.mem_cons, List.not_mem_nil, or_false, not_or] at hc ht
        rcases ht with rfl | rfl | rfl <;> simp [Kind.starts, hc]
  · exact hn k' hk' hq ht

/-- Where a node begins a clause begins. -/
theorem step_of_node {r : Reader} (hr : r.position = .node) {k : Kind} (hk : k ∈ clauseKinds)
    (l : List Char) : r.step k l = r.begin k l := by
  simp only [clauseKinds, List.mem_cons, List.not_mem_nil, or_false] at hk
  rcases hk with rfl | rfl | rfl | rfl | rfl | rfl | rfl <;> simp only [Reader.step, hr]

/-- At a node a clause may begin unless a keyword does. -/
theorem begins_node {r : Reader} {s : List Char} (hr : r.position = .node) (hs : NoKeyword s) :
    Begins r r s := by
  refine begins_of_kinds (by rw [hr]; decide) ?_ fun k hk l => step_of_node hr hk l
  rw [hr]
  intro k hk hc _
  have : k = .not := by revert k; decide
  rw [this]
  exact hs _ (by decide)

theorem begins_clause {r : Reader} (hr : r.position = .clause) (s : List Char) : Begins r r s := by
  refine begins_of_kinds (by rw [hr]; decide) ?_ fun k _ l => by simp only [Reader.step, hr]
  rw [hr]
  intro k hk hc _
  exact absurd hk hc

/-- After a complete clause every lexeme but a modifier is taken in the same way. -/
theorem step_of_clause? {r : Reader} {c : Tree} (hr : r.position.clause? = some c) {k : Kind}
    (hk : k ≠ .boost ∧ k ≠ .fuzzy) (l : List Char) : r.step k l = r.continueAfter c k l := by
  cases hp : r.position with
  | modifiers t =>
      rw [hp] at hr
      cases hr
      simp only [Reader.step, hp]
      split
      · exact absurd rfl hk.1
      · exact absurd rfl hk.2
      · rfl
  | done d =>
      rw [hp] at hr
      cases hr
      simp only [Reader.step, hp]
  | _ => rw [hp] at hr; cases hr

/-- After a complete clause operators are tried first. -/
theorem kinds_of_clause? {p : Position} {c : Tree} (h : p.clause? = some c) :
    ∃ ks, p.kinds = Position.operatorKinds ++ ks ∧
      ks.filter (fun k => clauseKinds.contains k) = clauseKinds ∧
      (∀ k ∈ ks, k ∈ clauseKinds ∨ k ∈ [Kind.boost, .fuzzy, .groupClose]) ∧
      ks.find? (·.starts ')') = some .groupClose := by
  cases p with
  | modifiers t | done d => exact ⟨_, rfl, rfl, by decide, by decide⟩
  | _ => cases h

/-- After a clause the next one begins behind an implicit operator. -/
theorem begins_join {r : Reader} {c : Tree} {s : List Char} (hr : r.position.clause? = some c)
    (hs : NoKeyword s) (hy : NoSymbol s) : Begins r (r.join c .implicit) s := by
  obtain ⟨ks, hks, hf, hm, -⟩ := kinds_of_clause? hr
  refine begins_of_kinds ?_ ?_ fun k hk l => ?_
  · rw [hks, List.filter_append, hf]
    rfl
  · rw [hks]
    intro k hk hc ht
    rcases List.mem_append.mp hk with hk | hk
    · exact split_operatorKinds hs hy k hk
    · exact absurd (hm k hk) (by simp only [hc, ht, or_self, not_false_iff])
  · rw [step_of_clause? hr (by revert k; decide) l]
    simp only [clauseKinds, List.mem_cons, List.not_mem_nil, or_false] at hk
    rcases hk with rfl | rfl | rfl | rfl | rfl | rfl | rfl <;> rfl

/-! ### Where a term stands -/

/-- The lexemes of terms. -/
def termKinds : List Kind := [.word, .regex, .phrase]

/-- The reader `r` takes the term that begins the text as one of the given field and sign, in the
node that `b` reads. -/
def TakesTerm (r b : Reader) (field : String) (mark : Option String) (s : List Char) : Prop :=
  ∀ {k l rest p}, firstLexeme? termKinds s = some (k, l, rest) →
    Position.ofTerm field mark k l = some p → Step r s { b with position := p } rest

/-- Where a clause may begin and no field name does, a term may stand. -/
theorem Begins.takesTerm {r b : Reader} {s : List Char} (h : Begins r b s)
    (hs : splitFieldName s = none) : TakesTerm r b implicitField none s := by
  intro k l rest p hl hp
  have hm := (mem_of_firstLexeme? hl).1
  have e : firstLexeme? clauseKinds s = some (k, l, rest) :=
    (firstLexeme?_cons_of_none (k := .fieldName) hs).trans (firstLexeme?_append_of_some hl)
  refine h e ?_
  simp only [termKinds, List.mem_cons, List.not_mem_nil, or_false] at hm
  rcases hm with rfl | rfl | rfl <;>
    simp only [Reader.begin, Reader.beginNamed, Option.getD_none, hp, Option.map_some]

/-- A term is taken where lexemes of terms are tried first. -/
theorem takesTerm_of_kinds {r : Reader} {s : List Char} {field : String} {mark : Option String}
    (hk : ∃ as bs, r.position.kinds = as ++ (termKinds ++ bs) ∧ ∀ k ∈ as, k.split s = none)
    (hr : ∀ k ∈ termKinds, ∀ l, r.step k l =
      (Position.ofTerm field mark k l).map fun p => { r with position := p }) :
    TakesTerm r r field mark s := by
  intro k l rest p hl hp
  obtain ⟨hm, -⟩ := mem_of_firstLexeme? hl
  obtain ⟨as, bs, hk, ha⟩ := hk
  refine step_of_lexeme ?_ (by rw [hr k hm l, hp, Option.map_some])
  rw [hk, firstLexeme?_append_of_none ha]
  exact firstLexeme?_append_of_some hl

theorem takesTerm_named {r : Reader} {f : String} (hr : r.position = .named f) (s : List Char) :
    TakesTerm r r f none s := by
  refine takesTerm_of_kinds ⟨[], _, by rw [hr]; rfl, by simp⟩ fun k hk l => ?_
  simp only [termKinds, List.mem_cons, List.not_mem_nil, or_false] at hk
  rcases hk with rfl | rfl | rfl <;>
    simp only [Reader.step, hr, Reader.beginNamed, Option.getD_some]

/-- Behind a sign a field name may stand, and otherwise a term. -/
theorem takesTerm_marked {r : Reader} {m : String} (hr : r.position = .marked m) {s : List Char}
    (hs : splitFieldName s = none) : TakesTerm r r implicitField (some m) s := by
  refine takesTerm_of_kinds ⟨[.fieldName], [], by rw [hr]; rfl, ?_⟩ fun k hk l => ?_
  · rintro k (_ | ⟨_, ⟨⟩⟩)
    exact hs
  · simp only [termKinds, List.mem_cons, List.not_mem_nil, or_false] at hk
    rcases hk with rfl | rfl | rfl <;> simp only [Reader.step, hr]

theorem takesTerm_term {r : Reader} {m f : String} (hr : r.position = .term m f) (s : List Char) :
    TakesTerm r r f (some m) s := by
  refine takesTerm_of_kinds ⟨[], [], by rw [hr]; rfl, by simp⟩ fun k hk l => ?_
  simp only [Reader.step, hr]

/-! ### What comes before a term -/

theorem begin_fieldName {b : Reader} {f : String} (hf : isFieldName f.toList = true) :
    b.begin .fieldName (f.toList ++ [':']) = some { b with position := .named f } := by
  rw [Reader.begin, nameOfLexeme_name hf, String.ofList_toList]

/-- A field name that begins a clause. -/
theorem step_fieldName {r b : Reader} {f : String} {s : List Char}
    (hf : isFieldName f.toList = true) (h : Begins r b (f.toList ++ ':' :: s)) :
    Step r (f.toList ++ ':' :: s) { b with position := .named f } s :=
  h (firstLexeme?_cons_of_some (splitFieldName_name hf s)) (begin_fieldName hf)

/-- The signs in front of terms. -/
theorem split_mark {c : Char} (hc : c = '+' ∨ c = '-') (s : List Char) :
    Kind.mark.split (c :: s) = some ([c], s) ∧ isLayout c = false ∧
      clauseKinds.find? (·.starts c) = some .mark := by
  rcases hc with rfl | rfl <;> exact ⟨rfl, rfl, by decide⟩

/-- **The field and the sign of a term are read before it.** -/
theorem steps_prefix {r b : Reader} {t : Term} {s : List Char} (ht : t.Readable)
    (hs : splitFieldName s = none)
    (h : Begins r b (fieldText t.field ++ (t.mark.getD "").toList ++ s)) :
    ∃ r', Steps r (fieldText t.field ++ (t.mark.getD "").toList ++ s) r' s ∧
      TakesTerm r' b t.field t.mark s := by
  have signed : ∀ {m}, t.mark = some m → ∃ c, (c = '+' ∨ c = '-') ∧ m = String.ofList [c] ∧
      m.toList = [c] := by
    intro m hm
    rcases ht.mark with e | e | e
    · rw [e] at hm; cases hm
    · rw [e] at hm; cases hm; exact ⟨'+', .inl rfl, rfl, rfl⟩
    · rw [e] at hm; cases hm; exact ⟨'-', .inr rfl, rfl, rfl⟩
  rw [fieldText] at h ⊢
  split at h
  · next hf =>
    rw [if_pos hf]
    simp only [List.nil_append] at h ⊢
    rw [hf]
    cases hm : t.mark with
    | none =>
        rw [hm] at h
        exact ⟨r, .refl _ _, h.takesTerm hs⟩
    | some m =>
        obtain ⟨c, hc, em, ec⟩ := signed hm
        obtain ⟨hsplit, -, hfind⟩ := split_mark hc s
        rw [hm, Option.getD_some, ec, List.singleton_append] at h
        rw [Option.getD_some, ec, List.singleton_append]
        refine ⟨{ b with position := .marked m }, .one (h (firstLexeme?_of_starts hfind hsplit) ?_),
          fun hl hp => takesTerm_marked rfl hs hl hp⟩
        rw [em]
        rfl
  · next hf =>
    have hname := ht.field.resolve_left hf
    rw [if_neg hf]
    simp only [List.append_assoc, List.cons_append] at h ⊢
    have h₁ := step_fieldName (s := (t.mark.getD "").toList ++ s) hname h
    cases hm : t.mark with
    | none =>
        rw [hm] at h₁
        exact ⟨_, .one h₁, fun hl hp => takesTerm_named rfl s hl hp⟩
    | some m =>
        obtain ⟨c, hc, em, ec⟩ := signed hm
        obtain ⟨hsplit, hlay, -⟩ := split_mark hc s
        rw [hm, Option.getD_some, ec, List.singleton_append] at h₁
        rw [Option.getD_some, ec, List.singleton_append]
        refine ⟨{ b with position := .term m t.field }, .more h₁ (.one (.take hlay
          (firstLexeme?_of_starts ?_ hsplit) ?_)), fun hl hp => takesTerm_term rfl s hl hp⟩
        · rcases hc with rfl | rfl <;> rfl
        · rw [em]
          rfl

end SearchFilters.Query
