import SearchFilters.Proofs.Query.Lexeme
import SearchFilters.Query.Parser

/-!
# Proofs — Query — Run

Reading as a run of steps: a step skips a layout character or takes the lexeme at the front of the
text.  A text is a query exactly when a run leads from the initial reader over the whole text to a
reader that has a tree (`read_eq_ok_iff`, `parse_eq_some_iff`).

Steps leave no choice (`Step.unique`).  So a run over a whole text goes on from every run over its
beginning (`Steps.rest`, `complete_of_steps`), and a run that ends anywhere tells how reading goes
on: this is how texts are shown to be no queries.  What every step keeps, every run keeps
(`Steps.invariant`).

The tree of a given text is found by running the steps (`parse_of_run`).
-/

namespace SearchFilters.Query
open Text

/-- One step of reading. -/
inductive Step : Reader → List Char → Reader → List Char → Prop where
  | skip {r : Reader} {c : Char} {s : List Char} (hc : isLayout c = true) : Step r (c :: s) r s
  | take {r r' : Reader} {c : Char} {s l rest : List Char} {k : Kind} (hc : isLayout c = false)
      (hl : firstLexeme? r.position.kinds (c :: s) = some (k, l, rest))
      (hr : r.step k l = some r') : Step r (c :: s) r' rest

/-- A run of steps. -/
inductive Steps : Reader → List Char → Reader → List Char → Prop where
  | refl (r : Reader) (s : List Char) : Steps r s r s
  | more {r r₁ r' : Reader} {s s₁ s' : List Char} (h : Step r s r₁ s₁) (t : Steps r₁ s₁ r' s') :
      Steps r s r' s'

namespace Steps
variable {r r₁ r₂ : Reader} {s s₁ s₂ : List Char}

theorem one (h : Step r s r₁ s₁) : Steps r s r₁ s₁ := .more h (.refl _ _)

theorem trans (h₁ : Steps r s r₁ s₁) (h₂ : Steps r₁ s₁ r₂ s₂) : Steps r s r₂ s₂ := by
  induction h₁ with
  | refl => exact h₂
  | more h _ ih => exact .more h (ih h₂)

/-- What every step keeps, every run keeps. -/
theorem invariant {P : Reader → List Char → Prop}
    (hP : ∀ {r s r₁ s₁}, Step r s r₁ s₁ → P r s → P r₁ s₁) (h : Steps r s r₁ s₁) (h₀ : P r s) :
    P r₁ s₁ := by
  induction h with
  | refl => exact h₀
  | more h _ ih => exact ih (hP h h₀)

end Steps

/-- The lexeme that begins a text is a step. -/
theorem step_of_lexeme {r r' : Reader} {s l rest : List Char} {k : Kind}
    (hl : firstLexeme? r.position.kinds s = some (k, l, rest)) (hr : r.step k l = some r') :
    Step r s r' rest := by
  cases s with
  | nil =>
      obtain ⟨hne, e⟩ := splits_of_firstLexeme? hl
      exact absurd (List.append_eq_nil_iff.mp e).1 hne
  | cons c s => exact .take (not_isLayout_of_firstLexeme? hl) hl hr

/-- Where a lexeme begins, a step takes it. -/
theorem Step.of_lexeme {r r₁ : Reader} {s s₁ l rest : List Char} {k : Kind} (h : Step r s r₁ s₁)
    (hl : firstLexeme? r.position.kinds s = some (k, l, rest)) :
    r.step k l = some r₁ ∧ s₁ = rest := by
  cases h with
  | skip hc =>
      rw [not_isLayout_of_firstLexeme? hl] at hc
      cases hc
  | take _ hl' hr =>
      rw [hl] at hl'
      cases hl'
      exact ⟨hr, rfl⟩

/-- A step leaves no choice. -/
theorem Step.unique {r r₁ r₂ : Reader} {s s₁ s₂ : List Char} (h₁ : Step r s r₁ s₁)
    (h₂ : Step r s r₂ s₂) : r₁ = r₂ ∧ s₁ = s₂ := by
  cases h₁ with
  | skip hc =>
      cases h₂ with
      | skip => exact ⟨rfl, rfl⟩
      | take hc' =>
          rw [hc] at hc'
          cases hc'
  | take _ hl hr =>
      obtain ⟨hr', rfl⟩ := h₂.of_lexeme hl
      rw [hr] at hr'
      cases hr'
      exact ⟨rfl, rfl⟩

/-- A run over a whole text goes on from every run over its beginning. -/
theorem Steps.rest {r r₁ r' : Reader} {s s₁ : List Char} (h : Steps r s r₁ s₁)
    (h' : Steps r s r' []) : Steps r₁ s₁ r' [] := by
  induction h with
  | refl => exact h'
  | more h _ ih =>
      cases h' with
      | refl => cases h
      | more h' t =>
          obtain ⟨rfl, rfl⟩ := h.unique h'
          exact ih t

/-- A run leaves the end of a text. -/
theorem Steps.suffix {r r' : Reader} {s s' : List Char} (h : Steps r s r' s') : s' <:+ s := by
  induction h with
  | refl => exact List.suffix_refl _
  | more h _ ih =>
      cases h with
      | skip => exact ih.trans (List.suffix_cons _ _)
      | take _ hl => exact ih.trans ⟨_, (splits_of_firstLexeme? hl).2⟩

/-- Layout is skipped. -/
theorem steps_layout (r : Reader) {w : List Char} (hw : ∀ c ∈ w, isLayout c = true)
    (s : List Char) : Steps r (w ++ s) r s := by
  induction w with
  | nil => exact .refl _ _
  | cons c w ih =>
      rw [List.forall_mem_cons] at hw
      exact .more (.skip hw.1) (ih hw.2)

/-- Reading follows a step. -/
theorem read_of_step {r r' : Reader} {s s' : List Char} :
    Step r s r' s' → ∀ last, ∃ last', read r last s = read r' last' s'
  | .skip hc, last => ⟨last, by rw [read, if_pos hc]⟩
  | @Step.take _ _ c t _ _ _ hc hl hr, _ => by
      refine ⟨c :: t, ?_⟩
      rw [read, if_neg (by simp [hc])]
      split
      · next h => rw [hl] at h; cases h
      · next h =>
        rw [hl] at h
        cases h
        rw [hr]

/-- Reading follows a run. -/
theorem read_of_steps {r r' : Reader} {s s' : List Char} (h : Steps r s r' s') (last : List Char) :
    ∃ last', read r last s = read r' last' s' := by
  induction h generalizing last with
  | refl => exact ⟨last, rfl⟩
  | more h _ ih =>
      obtain ⟨last₁, e₁⟩ := read_of_step h last
      obtain ⟨last₂, e₂⟩ := ih last₁
      exact ⟨last₂, e₁.trans e₂⟩

/-- A reader that has read a complete query with the given tree. -/
def Reader.Complete (r : Reader) (t : Tree) : Prop := r.finish = some t ∧ r.overflow = false

/-- At the end of the text reading gives the tree of the reader. -/
theorem read_nil_eq_ok_iff {r : Reader} {last : List Char} {t : Tree} :
    read r last [] = .ok t ↔ r.Complete t := by
  rw [read, Reader.Complete]
  cases r.finish with
  | none => simp
  | some u => cases r.overflow <;> simp

/-- **Reading gives a tree exactly when some run over the text does.** -/
theorem read_eq_ok_iff {r : Reader} {last s : List Char} {t : Tree} :
    read r last s = .ok t ↔ ∃ r', Steps r s r' [] ∧ r'.Complete t := by
  constructor
  · intro h
    fun_induction read r last s with
    | case1 r last hf | case2 r last u hf ho => cases h
    | case3 r last u hf ho =>
        cases h
        exact ⟨r, .refl _ _, hf, by simpa using ho⟩
    | case4 r last c s hc ih =>
        obtain ⟨r', hs, hf⟩ := ih h
        exact ⟨r', .more (.skip hc) hs, hf⟩
    | case5 r last c s hc hl => cases h
    | case6 r last c s hc k l rest hl _ r₁ hr ih =>
        obtain ⟨r', hs, hf⟩ := ih h
        exact ⟨r', .more (.take (by simpa using hc) hl hr) hs, hf⟩
    | case7 r last c s hc k l rest hl _ hr => cases h
  · rintro ⟨r', hs, hf⟩
    obtain ⟨last', e⟩ := read_of_steps hs last
    rw [e, read_nil_eq_ok_iff]
    exact hf

/-- **A run cannot be missed**: what leads over the whole text to a tree begins with it. -/
theorem complete_of_steps {r r₁ : Reader} {s s₁ : List Char} {t : Tree} (h : Steps r s r₁ s₁)
    (ht : ∃ r', Steps r s r' [] ∧ r'.Complete t) : ∃ r', Steps r₁ s₁ r' [] ∧ r'.Complete t :=
  ht.imp fun _ => .imp_left h.rest

/-- **A text is a query with a tree exactly when some run over it gives the tree.** -/
theorem parse_eq_some_iff {text : String} {t : Tree} :
    parse text = .ok (some t) ↔
      ∃ r, Steps {} (trim text.toList) r [] ∧ r.Complete t := by
  rw [← @read_eq_ok_iff _ [], parse]
  split
  · next h =>
    rw [List.isEmpty_iff.mp h, read_nil_eq_ok_iff]
    simp [Reader.Complete, Reader.finish, Position.clause?]
  · cases read {} [] (trim text.toList) <;> simp

/-- A run over a text without blanks at its ends. -/
theorem parse_of_steps {text : String} {r : Reader} {t : Tree}
    (ht : trim text.toList = text.toList) (h : Steps {} text.toList r []) (hr : r.Complete t) :
    parse text = .ok (some t) :=
  parse_eq_some_iff.mpr ⟨r, by rwa [ht], hr⟩

/-- The reader after a text, in at most so many steps. -/
def Reader.run : Nat → Reader → List Char → Option Reader
  | _, r, [] => some r
  | 0, _, _ :: _ => none
  | n + 1, r, c :: s =>
    if isLayout c then run n r s
    else
      match firstLexeme? r.position.kinds (c :: s) with
      | none => none
      | some (k, l, rest) => (r.step k l).bind fun r' => run n r' rest

/-- Running the steps is a run. -/
theorem steps_of_run {n : Nat} {r r' : Reader} {s : List Char} (h : r.run n s = some r') :
    Steps r s r' [] := by
  fun_induction Reader.run n r s with
  | case1 n r =>
      cases h
      exact .refl _ _
  | case2 | case4 => cases h
  | case3 r n c s hc ih => exact .more (.skip hc) (ih h)
  | case5 r n c s hc k l rest hl ih =>
      obtain ⟨r₁, hr, h⟩ := Option.bind_eq_some_iff.mp h
      exact .more (.take (by simpa using hc) hl hr) (ih r₁ h)

/-- The tree that running the steps over a text gives. -/
def runTree (text : String) : Option Tree := do
  let r ← Reader.run text.length {} (trim text.toList)
  if r.overflow then none else r.finish

/-- The tree of a text whose steps have been run. -/
theorem parse_of_run {text : String} {t : Tree} (h : runTree text = some t) :
    parse text = .ok (some t) := by
  obtain ⟨r, hr, h⟩ := Option.bind_eq_some_iff.mp h
  split at h
  · cases h
  · next ho => exact parse_eq_some_iff.mpr ⟨r, steps_of_run hr, h, by simpa using ho⟩

/-- A text without a tree is blank. -/
theorem parse_eq_none_iff {text : String} : parse text = .ok none ↔ trim text.toList = [] := by
  rw [parse]
  split
  · next h => simpa using h
  · next h =>
    cases read {} [] (trim text.toList) <;> simpa using h

end SearchFilters.Query
