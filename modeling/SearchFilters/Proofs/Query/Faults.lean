import SearchFilters.Proofs.Number.Overflow
import SearchFilters.Proofs.Query.Effect
import SearchFilters.Proofs.Query.Lexical
import SearchFilters.Proofs.Query.Run

/-!
# Proofs — Query — Faults

How reading fails.

A text that no run leads over to the end fails for its syntax (`fault_of_read`).  A run that does
lead over the text may still fail, and in one way only: a lexeme makes the reader overflow exactly
if it is the proximity of a phrase and its number is infinite (`overflow_of_step`).  No step takes
an overflow back, and every run over a whole text begins with every run over its beginning; so the
reader overflows exactly if reading comes to such a proximity somewhere (`overflow_of_steps`).

`outcome_parse` puts the two together for every text, and `not_malformed_of_parse` is a query that
fails although its syntax is right.
-/

namespace SearchFilters.Query
open Text Binary64

variable {r r₁ r₂ r' : Reader} {s s₁ s₂ : List Char} {k : Kind} {l : List Char}

/-! ### Overflow -/

/-- Whether a reader that takes a lexeme meets an infinite proximity. -/
def Reader.Overflows (r : Reader) (k : Kind) (l : List Char) : Prop :=
  k = .fuzzy ∧ ∃ t, r.position = .modifiers t ∧ t.quoted = true ∧
    ∃ v, plain? l.tail = some v ∧ overflowBound ≤ v

/-- The number of a modifier is infinite exactly from the overflow bound on. -/
theorem modifierValue_eq_infinite_iff {n : Bool} : modifierValue l = some (.infinite n) ↔
    n = false ∧ ∃ v, plain? l.tail = some v ∧ overflowBound ≤ v :=
  ofPlain?_eq_infinite_iff

/-- A fuzzy mark makes a reader overflow behind a phrase, if the number after it is infinite. -/
theorem overflow_fuzzy (r : Reader) (t : Term) (l : List Char) :
    (r.fuzzy t (modifierValue l)).overflow = true ↔ r.overflow = true ∨
      t.quoted = true ∧ ∃ v, plain? l.tail = some v ∧ overflowBound ≤ v := by
  have infinite := @modifierValue_eq_infinite_iff l false
  unfold Reader.fuzzy
  split
  · next ht =>
    cases hv : modifierValue l with
    | none =>
        rw [hv] at infinite
        simp only [reduceCtorEq, false_iff, true_and] at infinite
        simp only [ht, infinite, and_false, or_false]
    | some x =>
        rw [hv] at infinite
        cases x with
        | nan => exact absurd hv ofPlain?_ne_nan
        | infinite n =>
            obtain ⟨rfl, h⟩ := modifierValue_eq_infinite_iff.mp hv
            simp only [ht, h, and_self, or_true]
        | finite n m e =>
            simp only [Option.some.injEq, reduceCtorEq, false_iff, true_and] at infinite
            simp only [ht, infinite, and_false, or_false]
  · next ht => simp only [ht, Bool.false_eq_true, false_and, or_false]

/-- Other lexemes do not make a reader overflow. -/
theorem overflow_of_does (h : r.Does k l r') (hk : k = .fuzzy → ∀ t, r.position ≠ .modifiers t) :
    r'.overflow = r.overflow := by
  have begun {r₁ : Reader} (h : r₁.Begun k l r') : r'.overflow = r₁.overflow := by
    cases h with
    | move | opens | opensNamed => rfl
  cases h with
  | negate | joins => rfl
  | goesOn h => exact begun h
  | follows _ _ h =>
      rw [begun h]
      rfl
  | overflows hf _ hp => exact absurd hp (hk hf _)
  | closes _ _ h =>
      obtain ⟨f, fs, -, rfl⟩ := Reader.closeGroup_eq_some h
      rfl

/-- **A lexeme makes a reader overflow** exactly if it is an infinite proximity. -/
theorem overflow_of_step (h : r.step k l = some r') :
    r'.overflow = true ↔ r.overflow = true ∨ r.Overflows k l := by
  by_cases hk : k = .fuzzy ∧ ∃ t, r.position = .modifiers t
  · obtain ⟨rfl, t, hp⟩ := hk
    simp only [Reader.step, hp, Option.some.injEq] at h
    rw [← h, overflow_fuzzy, Reader.Overflows, hp]
    simp only [Position.modifiers.injEq, true_and, exists_eq_left']
  · have same := overflow_of_does (Reader.does_of_step h) fun hf t hp => hk ⟨hf, t, hp⟩
    have none : ¬r.Overflows k l := fun ⟨hf, t, hp, _⟩ => hk ⟨hf, t, hp⟩
    rw [same, or_iff_left none]

/-- **Reading comes to a fuzzy mark behind a phrase**, with a number after the mark. -/
inductive ProximityIn (r : Reader) (s : List Char) : ℚ → Prop where
  | intro {r₁ : Reader} {t : Term} {d rest : List Char} (h : Steps r s r₁ ('~' :: d ++ rest))
      (hp : r₁.position = .modifiers t) (hq : t.quoted = true)
      (hl : firstLexeme? r₁.position.kinds ('~' :: d ++ rest) = some (.fuzzy, '~' :: d, rest))
      {v : ℚ} (hv : plain? d = some v) : ProximityIn r s v

/-- A number that a phrase comes to later is one of the text. -/
theorem ProximityIn.more (h : Step r s r₁ s₁) :
    ∀ {v : ℚ}, ProximityIn r₁ s₁ v → ProximityIn r s v
  | _, .intro hs hp hq hl hv => .intro (.more h hs) hp hq hl hv

/-- A lexeme that overflows holds a number beyond the bound. -/
theorem proximityIn_of_overflows {rest : List Char}
    (hl : firstLexeme? r.position.kinds s = some (k, l, rest)) (h : r.Overflows k l) :
    ∃ v, ProximityIn r s v ∧ overflowBound ≤ v := by
  obtain ⟨rfl, t, hp, hq, v, hv, hb⟩ := h
  obtain ⟨-, rfl⟩ := splits_of_firstLexeme? hl
  obtain ⟨d, rfl⟩ : ∃ d, l = '~' :: d := by
    cases lexical_of_split (mem_of_firstLexeme? hl).2 with
    | fuzzy | fuzzyNumber => exact ⟨_, rfl⟩
    | operator hk => cases hk
    | bracket hk => exact absurd hk (by decide)
  exact ⟨v, .intro (.refl _ _) hp hq hl hv, hb⟩

theorem overflow_of_overflow (h : Steps r s r' s₁) (hr : r.overflow = true) :
    r'.overflow = true := by
  refine h.invariant (P := fun r _ => r.overflow = true) ?_ hr
  intro r₁ s₁ r₂ s₂ hstep h₁
  cases hstep with
  | skip => exact h₁
  | take _ _ hr => exact (overflow_of_step hr).mpr (.inl h₁)

/-- A run that comes to an infinite proximity overflows. -/
theorem ProximityIn.overflow {v : ℚ} (h : ProximityIn r s v) (hb : overflowBound ≤ v)
    (hs : Steps r s r' []) : r'.overflow = true := by
  obtain ⟨h, hp, hq, hl, hv⟩ := h
  cases h.rest hs with
  | more h ht =>
      have hr := (h.of_lexeme hl).1
      exact overflow_of_overflow ht ((overflow_of_step hr).mpr (.inr ⟨rfl, _, hp, hq, _, hv, hb⟩))

/-- The step that makes a reader overflow takes an infinite proximity. -/
theorem Step.overflows (h : Step r s r₁ s₁) (hr : r.overflow = false) (h₁ : r₁.overflow = true) :
    ∃ v, ProximityIn r s v ∧ overflowBound ≤ v := by
  cases h with
  | skip =>
      rw [hr] at h₁
      cases h₁
  | take _ hl hstep =>
      rcases (overflow_of_step hstep).mp h₁ with ho | ho
      · rw [hr] at ho
        cases ho
      · exact proximityIn_of_overflows hl ho

/-- **A run overflows exactly if it comes to an infinite proximity.** -/
theorem overflow_of_steps (hr : r.overflow = false) (h : Steps r s r' []) :
    r'.overflow = true ↔ ∃ v, ProximityIn r s v ∧ overflowBound ≤ v := by
  refine ⟨fun ho => ?_, fun ⟨v, hv, hb⟩ => hv.overflow hb h⟩
  generalize ([] : List Char) = s' at h
  induction h with
  | refl =>
      rw [hr] at ho
      cases ho
  | @more r r₁ _ _ _ _ h _ ih =>
      cases h₁ : r₁.overflow with
      | false => exact (ih h₁ ho).imp fun v hv => ⟨hv.1.more h, hv.2⟩
      | true => exact h.overflows hr h₁

/-! ### Faults -/

/-- A fault of the syntax: the text is no query. -/
def ParseFault.Malformed : ParseFault → Prop
  | .unexpected .. | .unexpectedEnd _ | .unmatched _ => True
  | .proximityOverflow => False

/-- A text that does not end where it should fails for its syntax. -/
theorem malformed_strayFault (s : List Char) : (strayFault s).Malformed := by
  rw [strayFault]
  split <;> trivial

/-- A text is a query with a tree, if its numbers are left aside. -/
def IsQuery (s : List Char) (t : Tree) : Prop := ∃ r, Steps {} s r [] ∧ r.finish = some t

/-- **How reading a text ends.** -/
inductive Outcome (s : List Char) : Except ParseError (Option Tree) → Prop where
  | blank (hs : s = []) : Outcome s (.ok none)
  | tree {t : Tree} (ht : IsQuery s t) (hv : ∀ v, ProximityIn {} s v → v < overflowBound) :
      Outcome s (.ok (some t))
  | malformed {fault : ParseFault} (hs : s ≠ []) (hf : fault.Malformed) (ht : ∀ t, ¬IsQuery s t) :
      Outcome s (.error ⟨s, fault⟩)
  | overflow {t : Tree} {v : ℚ} (ht : IsQuery s t) (hv : ProximityIn {} s v)
      (hb : overflowBound ≤ v) : Outcome s (.error ⟨s, .proximityOverflow⟩)

/-- A run has nowhere to go where no lexeme begins. -/
theorem not_steps_of_none {c : Char} (hc : ¬isLayout c = true)
    (hl : firstLexeme? r.position.kinds (c :: s) = none) : ¬Steps r (c :: s) r' [] := by
  intro h
  cases h with
  | more h _ =>
      cases h with
      | skip hc' => exact hc hc'
      | take _ hl' =>
          rw [hl] at hl'
          cases hl'

/-- **A fault is one of syntax exactly where no run over the text has a tree.** -/
theorem fault_of_read {last : List Char} {fault : ParseFault}
    (h : read r last s = .error fault) :
    fault.Malformed ∧ (∀ r', Steps r s r' [] → r'.finish = none) ∨
      fault = .proximityOverflow ∧ ∃ r' t, Steps r s r' [] ∧ r'.finish = some t ∧
        r'.overflow = true := by
  fun_induction read r last s with
  | case1 r last hf =>
      cases h
      refine .inl ⟨trivial, fun r' hs => ?_⟩
      cases hs with
      | refl => exact hf
      | more h => cases h
  | case2 r last t hf ho =>
      cases h
      exact .inr ⟨rfl, r, t, .refl _ _, hf, ho⟩
  | case3 => cases h
  | case4 r last c s hc ih =>
      have skip : Step r (c :: s) r s := .skip hc
      rcases ih h with ⟨hm, hs⟩ | ⟨e, r', t, hr, ht⟩
      · exact .inl ⟨hm, fun r' hr => hs r' ((Steps.one skip).rest hr)⟩
      · exact .inr ⟨e, r', t, .more skip hr, ht⟩
  | case5 r last c s hc hl =>
      cases h
      exact .inl ⟨malformed_strayFault _, fun r' hs => absurd hs (not_steps_of_none hc hl)⟩
  | case6 r last c s hc k l rest hl _ r₁ hr ih =>
      have take : Step r (c :: s) r₁ rest := .take (by simpa using hc) hl hr
      rcases ih h with ⟨hm, hs⟩ | ⟨e, r', t, hr, ht⟩
      · exact .inl ⟨hm, fun r' hr => hs r' ((Steps.one take).rest hr)⟩
      · exact .inr ⟨e, r', t, .more take hr, ht⟩
  | case7 r last c s hc k l rest hl _ hr =>
      cases h
      refine .inl ⟨trivial, fun r' hs => ?_⟩
      cases hs with
      | more h =>
          rw [(h.of_lexeme hl).1] at hr
          cases hr

/-- **How reading ends.**  A text that is blank has no tree, one that is a query has one, and any
other text fails for its syntax; but a query also fails, in another way, if a phrase in it has a
proximity that rounds to the infinite. -/
theorem outcome_parse (text : String) : Outcome (trim text.toList) (parse text) := by
  rw [parse]
  split
  · next h => exact .blank (List.isEmpty_iff.mp h)
  · next h =>
    split
    · next t ht =>
      obtain ⟨r, hs, hf, ho⟩ := read_eq_ok_iff.mp ht
      refine .tree ⟨r, hs, hf⟩ fun v hv => lt_of_not_ge fun hb => ?_
      rw [hv.overflow hb hs] at ho
      cases ho
    · next fault hfault =>
      rcases fault_of_read hfault with ⟨hm, hs⟩ | ⟨rfl, r, t, hs, hf, ho⟩
      · refine .malformed (by simpa using h) hm ?_
        rintro t ⟨r, hr, ht⟩
        rw [hs r hr] at ht
        cases ht
      · obtain ⟨v, hv, hb⟩ := (overflow_of_steps rfl hs).mp ho
        exact .overflow ⟨r, hs, hf⟩ hv hb

/-- The text of a phrase with a proximity of 309 digits. -/
def farPhrase : List Char := "\"p\"~".toList ++ List.replicate 309 '9'

theorem run_farPhrase : ((Reader.run 2 {} farPhrase).filter Reader.overflow).bind Reader.finish =
    some (.single (.term { text := "p", quoted := true }) {}) := by
  decide +kernel

/-- **Some query fails in another way**: this one, for its proximity. -/
theorem not_malformed_of_parse :
    ¬∀ (text : String) (e : ParseError), parse text = .error e → e.fault.Malformed := by
  intro h
  obtain ⟨r, hr, hf⟩ := Option.bind_eq_some_iff.mp run_farPhrase
  obtain ⟨hr, ho⟩ := Option.filter_eq_some_iff.mp hr
  obtain ⟨last, e⟩ := read_of_steps (steps_of_run hr) []
  have fault : read {} [] farPhrase = .error .proximityOverflow := by
    rw [e, read, hf]
    simp only [ho, if_true]
  have trimmed : trim farPhrase = farPhrase := by decide +kernel
  refine h (String.ofList farPhrase) ⟨farPhrase, .proximityOverflow⟩ ?_
  rw [parse, String.toList_ofList, trimmed, fault]
  rfl

end SearchFilters.Query
