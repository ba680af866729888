import SearchFilters.Proofs.Filter.Polarity
import SearchFilters.Proofs.Query.Joining

/-!
# Proofs — Filter — Joining

Two queries joined by a text split into the filters of both.

The tree of the joined text is the first tree continued by the second one behind its last clause
(`parse_joined`), and there the second tree lies deeper than it did by itself.  Whether a part has
filters depends on how much is left of the depth, not on where it begins (`Walks.shift`); so a depth
beyond the sum of the two is enough.  Behind the last clause of the first tree come the filters of
the second, which keep or lose their first one by the operator between (`Walks.continued`, by
induction on how the tree is continued).

* `split_joined`: the selection of a joined query is that of its first part followed by that of its
  second part.
-/

namespace SearchFilters
open Text Query

variable {q : Request} {n n' : Nat} {t t' right : Tree} {op : Operator} {fs fs' : List Filter}

/-! ### Depth -/

/-- **A part has its filters wherever as much is left of the depth.** -/
theorem Walks.shift {d : Int} (h : Walks q n t fs) (hd : q.maxDepth + n' ≤ d + n) :
    Walks { q with maxDepth := d } n' t fs := by
  have depth {n n' : Nat} (h : (n : Int) ≤ q.maxDepth) (hd : q.maxDepth + n' ≤ d + n) :
      (n' : Int) ≤ d := by omega
  induction h generalizing n' with
  | alone ht hn hf => exact .alone ht (depth hn hd) hf
  | single hg hp hn _ ih => exact .single hg hp (depth hn hd) (ih (by omega))
  | binary hg hp hn _ _ hj ihl ihr =>
      exact .binary hg hp (depth hn hd) (ihl (by omega)) (ihr (by omega)) hj

/-- A group of one side that nothing opens has the filters of that side. -/
theorem Walks.collapse (h : Walks q n t fs) (hf : t.grouping.field = none) :
    Walks q n t.collapse fs := by
  cases t with
  | single l g =>
      rw [Tree.collapse]
      split
      · cases h with
        | alone ht =>
            have hg : g.field = none := hf
            simp [Tree.StandsAlone, hg] at ht
        | single _ _ _ hl => exact hl.shift (by omega)
      · exact h
  | _ => exact h

/-! ### Continued trees -/

/-- A continued tree is opened as the tree is. -/
theorem continued_grouping (h : Continued op right t t') :
    t'.IsGroup ∧ t'.grouping = t.grouping := by
  cases h with
  | last | more => exact ⟨trivial, rfl⟩

/-- A tree with an operator behind its last clause is no bare group. -/
theorem continued_collapse (h : Continued op right t t') : t'.collapse = t' := by
  cases h with
  | last | more => rfl

/-- **The filters of a continued tree** are those of the tree and, behind the operator, those of the
tree that continues it. -/
theorem Walks.continued {d₂ d : Int} {drop : Bool} (hc : Continued op right t t')
    (h : Walks q n t.collapse fs) (hr : Walks { q with maxDepth := d₂ } 0 right fs')
    (hf : right.grouping.field = none) (hj : q.dropsAfter? op = some drop)
    (hd : q.maxDepth + d₂ < d) :
    Walks { q with maxDepth := d } n t' (fs ++ Request.keep drop fs') := by
  have hd₂ : 0 ≤ d₂ := hr.depth_le
  induction hc generalizing n fs with
  | last c start =>
      have hn := h.depth_le
      -- a last clause that nothing opens stood in place of its group and comes to lie one deeper
      have first : Walks { q with maxDepth := d } (n + 1) c fs := by
        cases start with
        | none => exact h.shift (t := c) (by omega)
        | some op =>
            cases h with
            | alone ht => cases ht
            | single _ _ _ hl => exact hl.shift (by omega)
      have second : Walks { q with maxDepth := d } (n + 1) right.collapse fs' :=
        (hr.collapse hf).shift (show d₂ + (n + 1 : Nat) ≤ d + 0 by omega)
      exact .binary rfl rfl (show (n : Int) ≤ d by omega) first second hj
  | more l hc ih =>
      cases h with
      | alone ht => cases ht
      | binary _ _ hn hl hr' hj' =>
          have rest := ih hr'
          -- the right side was collapsed, the continued one has nothing to collapse
          rw [← continued_collapse hc] at rest
          rw [List.append_assoc, keep_append _ hr'.ne_nil]
          exact .binary rfl rfl (show (n : Int) ≤ d by omega) (hl.shift (by omega)) rest hj'

/-! ### Joined queries -/

/-- The text between two queries that are joined. -/
def Joiner.between : Joiner → String
  | implicit  => " "
  | and       => " AND "
  | or        => " OR "

/-- What joins queries is the operator that joins asserted filters. -/
theorem Joiner.between_eq (j : Joiner) : j.between = String.ofList j.asserting.separator := by
  cases j <;> decide

theorem dropsAfter?_asserting (q : Request) :
    q.dropsAfter? q.joiner.asserting = some !q.asserted := if_pos rfl

/-- Splitting a tree that another one continues. -/
theorem split_continued {registry : Registry} {j : Joiner} {d₁ d₂ d : Int} {s₁ s₂ : Selection}
    (hc : Continued j.asserting right t t') (ht : t.IsGroup) (hr : right.IsGroup)
    (hf : t.grouping.field = none) (hfr : right.grouping.field = none)
    (hstart : right.grouping.start = none) (h₁ : split (some t) registry j d₁ = .ok s₁)
    (h₂ : split (some right) registry j d₂ = .ok s₂) (hd : d₁ + d₂ < d) :
    split (some t') registry j d =
      .ok ⟨s₁.asserted ++ s₂.asserted, s₁.excluded ++ s₂.excluded⟩ := by
  obtain ⟨hg', hgrouping⟩ := continued_grouping hc
  refine split_eq_ok_iff.mpr fun a => ?_
  obtain ⟨fs₁, hw₁, e₁⟩ := (walk_whole_iff ht hf).mp (split_eq_ok_iff.mp h₁ a)
  obtain ⟨fs₂, hw₂, e₂⟩ := (walk_whole_iff hr hfr).mp (split_eq_ok_iff.mp h₂ a)
  have hw := Walks.continued (d := d) hc (hw₁.collapse hf) hw₂ hfr (dropsAfter?_asserting _) hd
  refine (walk_whole_iff hg' (hgrouping ▸ hf)).mpr ⟨_, hw, ?_⟩
  have second : Request.keep (!a) fs₂ = if a then s₂.asserted else s₂.excluded := by
    rw [← e₂, Request.dropsFirst, hstart]
    cases a <;> rfl
  rw [hgrouping, ← keep_append _ hw₁.ne_nil]
  refine (congrArg₂ (· ++ ·) e₁ second).trans ?_
  cases a <;> rfl

/-- **Joining queries joins their selections.**  What is excluded of the second query stays so as
long as no `NOT` opens it, and behind a blank it must not begin like an operator. -/
theorem split_joined {q₁ q₂ : String} {t₁ t₂ : Tree} {registry : Registry} {j : Joiner}
    {d₁ d₂ : Int} {s₁ s₂ : Selection} (hq₁ : trim q₁.toList = q₁.toList)
    (hq₂ : trim q₂.toList = q₂.toList) (hp₁ : parse q₁ = .ok (some t₁))
    (hp₂ : parse q₂ = .ok (some t₂)) (hs₁ : split (some t₁) registry j d₁ = .ok s₁)
    (hs₂ : split (some t₂) registry j d₂ = .ok s₂) (hstart : t₂.grouping.start = none)
    (ho : j = .implicit → ¬BeginsOperator q₂.toList) :
    ∃ t, parse (q₁ ++ j.between ++ q₂) = .ok (some t) ∧
      ∀ d, d₁ + d₂ < d → split (some t) registry j d =
        .ok ⟨s₁.asserted ++ s₂.asserted, s₁.excluded ++ s₂.excluded⟩ := by
  have positive : j.asserting = .implicit ∨ j.asserting = .and ∨ j.asserting = .or := by
    cases j <;> decide
  have implicit : j.asserting = .implicit → j = .implicit := by
    cases j <;> decide
  obtain ⟨t, ht, hc⟩ := parse_joined positive hq₁ hq₂ hp₁ hp₂ hstart fun h => ho (implicit h)
  obtain ⟨formed₁, group₁, -⟩ := formed_of_parse False hp₁ False.elim
  obtain ⟨formed₂, group₂, -⟩ := formed_of_parse False hp₂ False.elim
  rw [← Joiner.between_eq] at ht
  exact ⟨t, ht, fun d hd => split_continued hc group₁ group₂ (formed₁.outer group₁).field
    (formed₂.outer group₂).field hstart hs₁ hs₂ hd⟩

/-- The tree of `NOT a b`. -/
def Tree.excludedFirst : Tree :=
  .binary (.term { text := "a" }) .implicit (.term { text := "b" }) { start := some .not }

/-- The tree of `c NOT d`. -/
def Tree.excludedLast : Tree :=
  .binary (.term { text := "c" }) .not (.term { text := "d" }) {}

theorem split_joined_sample :
    (trim "NOT a b".toList = "NOT a b".toList ∧ trim "c NOT d".toList = "c NOT d".toList) ∧
      parse "NOT a b" = .ok (some Tree.excludedFirst) ∧
      parse "c NOT d" = .ok (some Tree.excludedLast) ∧
      split (some Tree.excludedFirst) Registry.implicit .implicit 1 =
        .ok ⟨[.ofWord "b"], [.ofWord "a"]⟩ ∧
      split (some Tree.excludedLast) Registry.implicit .implicit 1 =
        .ok ⟨[.ofWord "c"], [.ofWord "d"]⟩ ∧
      ¬BeginsOperator "c NOT d".toList ∧
      ∃ t, parse ("NOT a b" ++ " " ++ "c NOT d") = .ok (some t) ∧
        ∀ d, 1 + 1 < d → split (some t) Registry.implicit .implicit d =
          .ok ⟨[.ofWord "b", .ofWord "c"], [.ofWord "a", .ofWord "d"]⟩ := by
  have hq : trim "NOT a b".toList = "NOT a b".toList ∧
      trim "c NOT d".toList = "c NOT d".toList := by decide
  have hp₁ : parse "NOT a b" = .ok (some Tree.excludedFirst) := parse_of_run (by decide +kernel)
  have hp₂ : parse "c NOT d" = .ok (some Tree.excludedLast) := parse_of_run (by decide +kernel)
  have hs₁ : split (some Tree.excludedFirst) Registry.implicit .implicit 1 =
      .ok ⟨[.ofWord "b"], [.ofWord "a"]⟩ := rfl
  have hs₂ : split (some Tree.excludedLast) Registry.implicit .implicit 1 =
      .ok ⟨[.ofWord "c"], [.ofWord "d"]⟩ := rfl
  have ho : ¬BeginsOperator "c NOT d".toList := by decide
  have joined := split_joined hq.1 hq.2 hp₁ hp₂ hs₁ hs₂ rfl fun _ => ho
  exact ⟨hq, hp₁, hp₂, hs₁, hs₂, ho, joined⟩

end SearchFilters
