import SearchFilters.Proofs.Query.Effect
import SearchFilters.Proofs.Query.Lexical
import SearchFilters.Proofs.Query.Readable
import SearchFilters.Proofs.Query.Tally

/-!
# Proofs — Query — Formed

The trees that reading gives, and those that it gives of texts whose potential it does not lower:
such a text has no operator in symbols, and no word of it has an escape that printing never writes.

Both are described at once, by a proposition `strict` under which the further conditions hold
(`Term.Formed`, `Tree.Formed`).  What may stand behind an operator depends on how the right side
begins: whether `NOT` opens it, and whether its first clause looks like an operator.  The reader has
the clauses of a node in a row, the last one first, and does not build a right side before the node
ends; so the condition is told of rows first (`Linked`), each operator of the row seeing only the
clause right behind it.  `formed_node` builds the tree: the first clause of a node is all that the
operator in front of the node has to know (`Heads.joined`).
-/

namespace SearchFilters
open Text Query

/-! ### Trees -/

/-- A number that a modifier is read as. -/
def Number.Written (x : Number) : Prop := ∃ s y, Binary64.ofPlain? s = some y ∧ x = .float y

/-- A sign that is read. -/
def IsMark (m : Option String) : Prop := m = none ∨ m = some "+" ∨ m = some "-"

/-- A term that is read; for `strict` texts all blanks in words are such that printing escapes them.
-/
structure Term.Formed (strict : Prop) (t : Term) : Prop where
  field : Leafy t.field
  mark : IsMark t.mark
  boost : ∀ x ∈ t.boost, x.Written
  similarity : ∀ x ∈ t.similarity, x.Written
  proximity : ∀ i ∈ t.proximity, ProximityRereads i
  body : t.IsRegex ∨ t.regex = false ∧ t.quoted = true ∧ t.similarity = none ∨
    t.regex = false ∧ t.quoted = false ∧ t.proximity = none ∧ t.text.toList ≠ [] ∧
      (strict → ∀ c ∈ t.text.toList, isLegible c = true)

/-- A term without numbers is formed where its parts are. -/
theorem Term.formed_of_body {strict : Prop} {t : Term} (hf : Leafy t.field) (hm : IsMark t.mark)
    (hb : t.boost = none) (hs : t.similarity = none) (hp : t.proximity = none)
    (h : t.IsRegex ∨ t.regex = false ∧ t.quoted = true ∧ t.similarity = none ∨
      t.regex = false ∧ t.quoted = false ∧ t.proximity = none ∧ t.text.toList ≠ [] ∧
        (strict → ∀ c ∈ t.text.toList, isLegible c = true)) : t.Formed strict where
  field := hf
  mark := hm
  boost := fun x hx => by rw [hb] at hx; cases hx
  similarity := fun x hx => by rw [hs] at hx; cases hx
  proximity := fun i hi => by rw [hp] at hi; cases hi
  body := h

/-- A phrase that is read has no similarity. -/
theorem Term.Formed.of_quoted {strict : Prop} {t : Term} (h : t.Formed strict)
    (hr : t.regex = false) (hq : t.quoted = true) : t.similarity = none := by
  rcases h.body with h | h | h
  · exact absurd h.regex (by rw [hr]; decide)
  · exact h.2.2
  · exact absurd h.2.1 (by rw [hq]; decide)

/-- A word that is read has no proximity and is not empty. -/
theorem Term.Formed.of_word {strict : Prop} {t : Term} (h : t.Formed strict)
    (hr : t.regex = false) (hq : t.quoted = false) :
    t.proximity = none ∧ t.text.toList ≠ [] ∧
      (strict → ∀ c ∈ t.text.toList, isLegible c = true) := by
  rcases h.body with h | h | h
  · exact absurd h.regex (by rw [hr]; decide)
  · exact absurd h.2.1 (by rw [hq]; decide)
  · exact h.2.2

/-- An operator in front of a node that an operator may open and whose first clause may be written
like an operator. -/
structure Joint (strict : Prop) (op : Operator) (start : Option Operator) (symbolic : Prop) :
    Prop where
  known : ∀ s, op ≠ .other s
  negated : start = some .not → op ≠ .implicit ∧ (strict → op ≠ .and ∧ op ≠ .or)
  plain : strict → op = .implicit → ¬symbolic

theorem Joint.mono {strict : Prop} {op : Operator} {start : Option Operator} {p q : Prop}
    (h : Joint strict op start p) (hq : q → p) : Joint strict op start q :=
  ⟨h.known, h.negated, fun hs ho hq' => h.plain hs ho (hq hq')⟩

namespace Tree

/-- An operator in front of a right side that is read. -/
structure Joined (strict : Prop) (op : Operator) (right : Tree) : Prop where
  known : ∀ s, op ≠ .other s
  negated : right.OpensNegated → op ≠ .implicit ∧ (strict → op ≠ .and ∧ op ≠ .or)
  plain : strict → op = .implicit → right.NotSymbolic
  unwrapped : right.unwrapBare = right

/-- A tree that is read. -/
def Formed (strict : Prop) (outer : Grouping → Prop) : Tree → Prop
  | .term t => t.Formed strict
  | .range r => r.Readable
  | .single l g => outer g ∧ Formed strict Grouping.Enclosed l
  | .binary l op r g =>
    outer g ∧ Formed strict Grouping.Enclosed l ∧ Joined strict op r ∧
      Formed strict (fun g => g.Enclosed ∨ g.Open) r

variable {strict : Prop} {outer outer' : Grouping → Prop} {t : Tree}

/-- A tree is formed in every place that admits more surroundings. -/
theorem Formed.mono (h : ∀ g, outer g → outer' g) (ht : t.Formed strict outer) :
    t.Formed strict outer' := by
  cases t with
  | single l g | binary l op r g => exact ⟨h g ht.1, ht.2⟩
  | _ => exact ht

/-- The same tree in other surroundings. -/
theorem Formed.regroup (ht : t.Formed strict outer) {f : Grouping → Grouping}
    (h : ∀ g, outer g → outer' (f g)) : (t.regroup f).Formed strict outer' := by
  cases t with
  | single l g | binary l op r g => exact ⟨h g ht.1, ht.2⟩
  | _ => exact ht

/-- Right sides that are read need no unwrapping. -/
theorem Formed.collapseRights_eq (ht : t.Formed strict outer) : t.collapseRights = t := by
  induction t generalizing outer with
  | term t | range r => rfl
  | single l g ih => rw [collapseRights, ih ht.2]
  | binary l op r g ihl ihr =>
      obtain ⟨-, hl, hj, hr⟩ := ht
      rw [collapseRights, ihl hl, ihr hr, hj.unwrapped]

theorem notSymbolic_of_parenthesized (h : t.grouping.parenthesized = true) : t.NotSymbolic := by
  intro u hu
  cases t with
  | single l g | binary l op r g =>
        rw [firstTerm?, if_pos (show g.parenthesized = true from h)] at hu; cases hu
  | _ => cases h

theorem grouping_regroup (ht : t.IsGroup) (f : Grouping → Grouping) :
    (t.regroup f).grouping = f t.grouping := by
  cases t with
  | single l g | binary l op r g => rfl
  | _ => exact absurd ht id

/-- A clause stands for itself wherever a right side does. -/
theorem Formed.clause (ht : t.Formed strict Grouping.Enclosed) :
    ¬t.OpensNegated ∧ t.unwrapBare = t := by
  have group {g : Grouping} (h : g.Enclosed) : g.isBare = false ∧ ¬g.parenthesized = false := by
    simp [Grouping.isBare, h.parenthesized]
  cases t with
  | term t | range r => exact ⟨fun h => (nomatch h.2), rfl⟩
  | single l g =>
      obtain ⟨hb, hp⟩ := group ht.1
      exact ⟨fun h => hp h.1, by rw [unwrapBare, hb]; rfl⟩
  | binary l op r g => exact ⟨fun h => (group ht.1).2 h.1, rfl⟩

end Tree

theorem Tree.Formed.outer {strict : Prop} {outer : Grouping → Prop} {t : Tree}
    (ht : t.Formed strict outer) (hg : t.IsGroup) : outer t.grouping := by
  cases t with
  | term u | range r => exact absurd hg id
  | single l g | binary l op r g => exact ht.1

namespace Query

/-! ### Links -/

/-- Links that are joined as they may be, up to a node that an operator may open and whose first
clause may be written like an operator. -/
def Linked (strict : Prop) : List Link → Option Operator → Prop → Prop
  | [], _, _ => True
  | l :: ls, start, symbolic =>
    Joint strict l.op start symbolic ∧ l.clause.Formed strict Grouping.Enclosed ∧
      (l.start = none ∨ l.start = some .not) ∧ Linked strict ls l.start (¬l.clause.NotSymbolic)

theorem Linked.mono {strict : Prop} {ls : List Link} {start : Option Operator} {p q : Prop}
    (h : Linked strict ls start p) (hq : q → p) : Linked strict ls start q := by
  cases ls with
  | nil => trivial
  | cons l ls => exact ⟨h.1.mono hq, h.2⟩

/-- A node whose first clause is given. -/
inductive Heads (start : Option Operator) (clause : Tree) : Tree → Prop where
  | single : Heads start clause (.single clause { start })
  | binary {op : Operator} {right : Tree} :
      Heads start clause (.binary clause op right { start })

/-- A node that goes behind an operator is formed, the bare group of a single clause left out. -/
theorem Heads.formed_collapse {strict : Prop} {start : Option Operator} {clause right : Tree}
    (h : Heads start clause right) (hr : right.Formed strict Grouping.Open)
    (hc : clause.Formed strict Grouping.Enclosed) :
    right.collapse.Formed strict (fun g => g.Enclosed ∨ g.Open) := by
  cases h with
  | single =>
      rw [Tree.collapse]
      split
      · exact hc.mono fun g => .inl
      · exact hr.mono fun g => .inr
  | binary => exact hr.mono fun g => .inr

/-- The first clause of a node decides how the node can be joined. -/
theorem Heads.joined {strict : Prop} {start : Option Operator} {clause right : Tree} {op : Operator}
    (h : Heads start clause right) (hc : clause.Formed strict Grouping.Enclosed)
    (hj : Joint strict op start (¬clause.NotSymbolic)) : Tree.Joined strict op right.collapse := by
  obtain ⟨hn, hu⟩ := hc.clause
  have plain (hs : strict) (ho : op = .implicit) : clause.NotSymbolic :=
    Classical.not_not.mp (hj.plain hs ho)
  cases h with
  | single =>
      rw [Tree.collapse]
      split
      · exact ⟨hj.known, fun h => absurd h hn, plain, hu⟩
      · next hs =>
        refine ⟨hj.known, fun h => hj.negated h.2, plain, ?_⟩
        have hb : Grouping.isBare { start } = false := by
          cases start with
          | none => exact absurd rfl hs
          | some op => rfl
        rw [Tree.unwrapBare, hb]
        rfl
  | binary => exact ⟨hj.known, fun h => hj.negated h.2, plain, rfl⟩

/-- **Linked clauses make up a formed tree.** -/
theorem formed_node {strict : Prop} {links : List Link} {start : Option Operator} {clause : Tree}
    (hs : start = none ∨ start = some .not) (hc : clause.Formed strict Grouping.Enclosed)
    (hl : Linked strict links start (¬clause.NotSymbolic)) :
    (node links start clause).Formed strict Grouping.Open := by
  -- the first clause of the node that grows is kept beside it: it decides what may stand in front
  suffices h : ∀ {right : Tree} {start : Option Operator} {clause : Tree},
      Heads start clause right → right.Formed strict Grouping.Open →
      clause.Formed strict Grouping.Enclosed →
      Linked strict links start (¬clause.NotSymbolic) →
      (links.foldl prepend right).Formed strict Grouping.Open from
    h .single ⟨⟨rfl, hs, rfl⟩, hc⟩ hc hl
  clear hs hc hl
  induction links with
  | nil => exact fun _ hr _ _ => hr
  | cons l ls ih =>
      rintro right start clause hh hr hc ⟨hj, hlc, hls, hl⟩
      exact ih .binary ⟨⟨rfl, hls, rfl⟩, hlc, hh.joined hc hj, hh.formed_collapse hr hc⟩ hlc hl

/-- Leaving a bare group out leaves the last clause. -/
theorem tight_collapse {t : Tree} (hp : t.grouping.parenthesized = false) (ht : t.Tight) :
    t.collapse.Tight := by
  cases t with
  | single l g =>
      have hl : l.Tight := ht.resolve_left (ne_true_of_eq_false hp)
      rw [Tree.collapse]
      split
      · exact hl
      · exact ht
  | _ => exact ht

/-- The end of the last clause is the end of the node. -/
theorem tight_node {links : List Link} {start : Option Operator} {clause : Tree}
    (h : clause.Tight) : (node links start clause).Tight := by
  have both : (node links start clause).grouping.parenthesized = false ∧
      (node links start clause).Tight := by
    refine node_induction (P := fun t => t.grouping.parenthesized = false ∧ t.Tight)
      ⟨rfl, .inr h⟩ fun right l hr => ⟨rfl, .inr ?_⟩
    exact tight_collapse hr.1 hr.2
  exact both.2

end Query
end SearchFilters
