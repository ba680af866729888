import SearchFilters.Query.Reader

/-!
# Proofs — Query — Effect

What a lexeme does to the state of reading, told once for every position and kind.

The reader's step is a table of twelve positions and eighteen kinds.  What the lemmas about whole
runs need of it is less: a lexeme goes on with the clause at hand (`Position.Moves`), begins one or
opens a group (`Reader.Begun`), or stands between clauses (`Reader.Does`): an operator, the end of a
group, or a clause that follows without an operator.  `Reader.does_of_step` goes through the table
once and shows that every step has one of these effects.  An invariant of reading is then proved by
these few cases, and a change of the table is a matter of this module.

How a group and a query end is told by inversion (`Reader.closeGroup_eq_some`,
`Reader.finish_eq_some`).
-/

namespace SearchFilters.Query

namespace Position

/-- The field and the sign of the term that a position awaits. -/
def awaits? : Position → Option (String × Option String)
  | .node | .clause => some (implicitField, none)
  | .named f => some (f, none)
  | .marked m => some (implicitField, some m)
  | .markedNamed m f | .term m f => some (f, some m)
  | _ => none

/-- **What a lexeme does to the clause at hand.** -/
inductive Moves : Kind → List Char → Position → Position → Prop where
  | term {k : Kind} {l : List Char} {p p' : Position} {f : String} {m : Option String}
      (hp : p.awaits? = some (f, m)) (h : ofTerm f m k l = some p') : Moves k l p p'
  | name {l : List Char} {p : Position} (hp : p.awaits? = some (implicitField, none)) :
      Moves .fieldName l p (.named (String.ofList (nameOfLexeme l)))
  | markedName {l : List Char} {m : String} :
      Moves .fieldName l (.marked m) (.markedNamed m (String.ofList (nameOfLexeme l)))
  | mark {l : List Char} {p : Position} (hp : p.awaits? = some (implicitField, none)) :
      Moves .mark l p (.marked (String.ofList l))
  | namedMark {l : List Char} {p : Position} {f : String} {m : Option String}
      (hp : p.awaits? = some (f, m)) : Moves .mark l p (.term (String.ofList l) f)
  | low {l : List Char} {p : Position} {f : String} (hp : p.awaits? = some (f, none)) :
      Moves .rangeOpen l p (.low f (l == ['[']))
  | between {l : List Char} {f : String} {i : Bool} :
      Moves .bound l (.low f i) (.between f i (String.ofList l))
  | high {l : List Char} {f : String} {i : Bool} {low : String} :
      Moves .rangeTo l (.between f i low) (.high f i low)
  | rangeEnd {l : List Char} {f : String} {i : Bool} {low : String} :
      Moves .bound l (.high f i low) (.rangeEnd f i low (String.ofList l))
  | range {l : List Char} {field : String} {i : Bool} {low high : String} :
      Moves .rangeClose l (.rangeEnd field i low high)
        (.done (.range { field, low, high, inclusive := .ofBounds i (l == [']']) }))
  | boost {l : List Char} {t : Term} : Moves .boost l (.modifiers t)
      (.modifiers { t with boost := (modifierValue l).map Number.float })
  | proximity {l : List Char} {t : Term} {i : Int} (ht : t.quoted = true)
      (hi : modifierValue l = none ∧ i = 0 ∨ ∃ n m e,
        modifierValue l = some (.finite n m e) ∧ i = Binary64.truncate n m e) :
      Moves .fuzzy l (.modifiers t) (.modifiers { t with proximity := some i })
  | similarity {l : List Char} {t : Term} (ht : t.quoted = false) :
      Moves .fuzzy l (.modifiers t) (.modifiers
        { t with similarity := some (.float ((modifierValue l).getD defaultSimilarity)) })

/-- No lexeme of a clause leads back to where a node begins. -/
theorem Moves.ne_node {k : Kind} {l : List Char} {p p' : Position} (h : Moves k l p p') :
    p' ≠ .node := by
  cases h with
  | term _ h =>
      rintro rfl
      unfold ofTerm at h
      split at h <;> cases h
  | _ => exact nofun

end Position

namespace Reader
open Position

/-- What a lexeme does that begins a clause or goes on with it. -/
inductive Begun (k : Kind) (l : List Char) (r : Reader) : Reader → Prop where
  | move {p : Position} (h : Moves k l r.position p) : Begun k l r { r with position := p }
  | opens (hk : k = .groupOpen) (hp : r.position.awaits? = some (implicitField, none)) :
      Begun k l r (r.openGroup none)
  | opensNamed {f : String} (hk : k = .groupOpen) (hp : r.position = .named f) :
      Begun k l r (r.openGroup (some f))

/-- **What a lexeme does.** -/
inductive Does (k : Kind) (l : List Char) (r : Reader) : Reader → Prop where
  | negate (hk : k = .not) (hp : r.position = .node) :
      Does k l r { r with start := some .not, position := .clause }
  | goesOn {r' : Reader} (h : Begun k l r r') : Does k l r r'
  | overflows {t : Term} (hk : k = .fuzzy) (ht : t.quoted = true) (hp : r.position = .modifiers t) :
      Does k l r { r with overflow := true }
  | joins {c : Tree} {op : Operator} (hc : r.position.clause? = some c)
      (ho : operator? k = some op) : Does k l r (r.join c op)
  | follows {c : Tree} {r' : Reader} (hc : r.position.clause? = some c)
      (ho : operator? k = none) (h : Begun k l (r.join c .implicit) r') : Does k l r r'
  | closes {c : Tree} {r' : Reader} (hc : r.position.clause? = some c) (hk : k = .groupClose)
      (h : r.closeGroup c = some r') : Does k l r r'

variable {r r' : Reader} {k : Kind} {l : List Char}

/-- A lexeme that goes on with the clause changes the position alone. -/
theorem does_of_moves {p p' : Position} (hp : r.position = p) (h : Moves k l p p') :
    Does k l r { r with position := p' } := by
  subst hp
  exact .goesOn (.move h)

/-- A term that is awaited is the clause or a part of it. -/
theorem begun_of_term {f : String} {m : Option String} (hp : r.position.awaits? = some (f, m))
    (h : (ofTerm f m k l).map (fun p => { r with position := p }) = some r') : Begun k l r r' := by
  obtain ⟨p, hp', rfl⟩ := Option.map_eq_some_iff.mp h
  exact .move (.term hp hp')

theorem begun_of_beginNamed {f : Option String}
    (hp : r.position.awaits? = some (f.getD implicitField, none))
    (hf : ∀ n ∈ f, r.position = .named n) (h : r.beginNamed f k l = some r') : Begun k l r r' := by
  unfold beginNamed at h
  simp only at h
  split at h
  · cases h
    exact .move (.low hp)
  · cases h
    cases f with
    | none => exact .opens rfl hp
    | some n => exact .opensNamed rfl (hf n rfl)
  · exact begun_of_term hp h

theorem begun_of_begin (hp : r.position.awaits? = some (implicitField, none))
    (h : r.begin k l = some r') : Begun k l r r' := by
  unfold begin at h
  split at h
  · cases h
    exact .move (.name hp)
  · cases h
    exact .move (.mark hp)
  · exact begun_of_beginNamed (f := none) hp nofun h

/-- Behind a clause stand an operator, the end of the group, or another clause. -/
theorem does_of_continueAfter {c : Tree} (hc : r.position.clause? = some c)
    (h : r.continueAfter c k l = some r') : Does k l r r' := by
  unfold continueAfter at h
  split at h
  · next op ho =>
    cases h
    exact .joins hc ho
  · next ho =>
    split at h
    · exact .closes hc rfl h
    · exact .follows hc ho (begun_of_begin rfl h)

theorem does_of_fuzzy {t : Term} (hp : r.position = .modifiers t) :
    Does .fuzzy l r (r.fuzzy t (modifierValue l)) := by
  unfold fuzzy
  split
  · next ht =>
    split
    · next hv => exact does_of_moves hp (.proximity ht (.inl ⟨hv, rfl⟩))
    · next hv => exact does_of_moves hp (.proximity ht (.inr ⟨_, _, _, hv, rfl⟩))
    · rw [← hp]
      exact .overflows rfl ht hp
  · next ht => exact does_of_moves hp (.similarity (by simpa using ht))

/-- **A step does what lexemes do.** -/
theorem does_of_step (h : r.step k l = some r') : Does k l r r' := by
  unfold step at h
  split at h
  · next hp =>
    split at h
    · cases h
      exact .negate rfl hp
    · exact .goesOn (begun_of_begin (by rw [hp]; rfl) h)
  · next hp => exact .goesOn (begun_of_begin (by rw [hp]; rfl) h)
  · next f hp =>
    split at h
    · cases h
      exact does_of_moves hp (.namedMark (m := none) rfl)
    · refine .goesOn (begun_of_beginNamed (f := some f) (by rw [hp]; rfl) ?_ h)
      rintro n ⟨⟩
      exact hp
  · next m hp =>
    split at h
    · cases h
      exact does_of_moves hp .markedName
    · exact .goesOn (begun_of_term (by rw [hp]; rfl) h)
  · next m f hp =>
    split at h
    · cases h
      exact does_of_moves hp (.namedMark (m := some m) rfl)
    · exact .goesOn (begun_of_term (by rw [hp]; rfl) h)
  · next hp => exact .goesOn (begun_of_term (by rw [hp]; rfl) h)
  · next t hp =>
    split at h
    · cases h
      exact does_of_moves hp .boost
    · cases h
      exact does_of_fuzzy hp
    · exact does_of_continueAfter (by rw [hp]; rfl) h
  · next c hp => exact does_of_continueAfter (by rw [hp]; rfl) h
  -- the parts of a range admit one lexeme each
  · next hp =>
    split at h
    · cases h
      exact does_of_moves hp .between
    · cases h
  · next hp =>
    split at h
    · cases h
      exact does_of_moves hp .high
    · cases h
  · next hp =>
    split at h
    · cases h
      exact does_of_moves hp .rangeEnd
    · cases h
  · next hp =>
    split at h
    · cases h
      exact does_of_moves hp .range
    · cases h

/-- A parenthesis ends a group that it has opened, and leaves what stood before the group. -/
theorem closeGroup_eq_some {c : Tree} (h : r.closeGroup c = some r') :
    ∃ f fs, r.frames = f :: fs ∧ r' = { r with
      frames := fs, links := f.links, start := f.start,
      position := .done ((node r.links r.start c).regroup fun g =>
        { g with field := f.field, parenthesized := true }) } := by
  unfold closeGroup at h
  split at h
  · cases h
  · next f fs hf => exact ⟨f, fs, hf, (Option.some.inj h).symm⟩

/-- A query ends behind a clause, and outside of groups. -/
theorem finish_eq_some {t : Tree} (h : r.finish = some t) :
    ∃ c, r.frames = [] ∧ r.position.clause? = some c ∧ t = node r.links r.start c := by
  unfold finish at h
  split at h
  · next c hf hc => exact ⟨c, hf, hc, (Option.some.inj h).symm⟩
  · cases h

end Reader
end SearchFilters.Query
