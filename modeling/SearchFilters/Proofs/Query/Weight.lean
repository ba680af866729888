import Mathlib.Algebra.GroupWithZero.Nat
import SearchFilters.Proofs.Query.Effect
import SearchFilters.Proofs.Query.Readable

/-!
# Proofs — Query — Weight

What reading takes from a text it keeps: a weight of the texts in a tree, of the parts of a clause
and of whole readers, which grows with every lexeme by the weight of the text in it.

The weight of a text depends on the place it stands in, since a word is unescaped and the text of a
regular expression is not (`Weights`).  Nothing else in a tree or a reader weighs anything: neither
operators nor parentheses, nor the groups that are left out when a node ends.  So a lexeme adds its
own text, in the cases of its effects (`Reader.weight_of_does`), and a complete query weighs as much
as its reader (`Reader.weight_finish`).
-/

namespace SearchFilters

/-- The weights of texts in the places a tree has for them. -/
structure Weights where
  name : List Char → Nat
  word : List Char → Nat
  phrase : List Char → Nat
  regex : List Char → Nat
  bound : List Char → Nat
  name_implicit : name implicitField.toList = 0

variable (W : Weights)

def Term.weight (t : Term) : Nat :=
  W.name t.field.toList +
    (if t.regex then W.regex t.text.toList
     else if t.quoted then W.phrase t.text.toList
     else W.word t.text.toList)

def Range.weight (r : Range) : Nat :=
  W.name r.field.toList + W.bound r.low.toList + W.bound r.high.toList

/-- The weight of the name that a group is written under. -/
def Grouping.weight (g : Grouping) : Nat := g.field.elim 0 fun f => W.name f.toList

/-- The weight of the texts in a tree. -/
def Tree.weight : Tree → Nat
  | .term t => t.weight W
  | .range r => r.weight W
  | .single l g => g.weight W + l.weight
  | .binary l _ r g => g.weight W + l.weight + r.weight

/-- A group that is left out because nothing surrounds it weighs as much as its clause. -/
theorem Tree.weight_collapse {t : Tree} (h : t.grouping.field = none) :
    t.collapse.weight W = t.weight W := by
  cases t with
  | single l g =>
      have hg : g.weight W = 0 := by
        rw [Grouping.weight, show g.field = none from h]
        rfl
      rw [collapse]
      split
      · rw [weight, hg, Nat.zero_add]
      · rfl
  | _ => rfl

namespace Query

/-- The weight of the text in a lexeme. -/
def gain : Kind → List Char → Nat
  | .fieldName, l => W.name (nameOfLexeme l)
  | .word, l => W.word (unescape l)
  | .phrase, l => W.phrase (unescape (inside l))
  | .regex, l => W.regex (inside l)
  | .bound, l => W.bound l
  | _, _ => 0

namespace Position

/-- The weight of what has been read of a clause. -/
def weight : Position → Nat
  | .node | .clause | .marked _ => 0
  | .named f | .markedNamed _ f | .term _ f => W.name f.toList
  | .modifiers t => t.weight W
  | .done c => c.weight W
  | .low f _ => W.name f.toList
  | .between f _ a | .high f _ a => W.name f.toList + W.bound a.toList
  | .rangeEnd f _ a b => W.name f.toList + W.bound a.toList + W.bound b.toList

theorem weight_of_awaits? {p : Position} {f : String} {m : Option String}
    (h : p.awaits? = some (f, m)) : p.weight W = W.name f.toList := by
  cases p <;> cases h <;> first | rfl | exact W.name_implicit.symm

theorem weight_of_clause? {p : Position} {c : Tree} (h : p.clause? = some c) :
    p.weight W = c.weight W := by
  cases p <;> cases h <;> rfl

theorem weight_ofTerm {k : Kind} {l : List Char} {f : String} {m : Option String} {p : Position}
    (h : ofTerm f m k l = some p) : p.weight W = W.name f.toList + gain W k l := by
  unfold ofTerm at h
  split at h <;> cases h <;> simp [weight, Term.weight, Tree.weight, gain]

/-- A lexeme adds its text to the clause. -/
theorem weight_of_moves {k : Kind} {l : List Char} {p p' : Position} (h : Moves k l p p') :
    p'.weight W = p.weight W + gain W k l := by
  cases h with
  | term hp h => rw [weight_ofTerm W h, weight_of_awaits? W hp]
  | name hp =>
      rw [weight_of_awaits? W hp, W.name_implicit]
      simp [weight, gain]
  | mark hp =>
      rw [weight_of_awaits? W hp, W.name_implicit]
      rfl
  | namedMark hp | low hp =>
      rw [weight_of_awaits? W hp]
      rfl
  | markedName | between | rangeEnd => simp [weight, gain]
  | _ => rfl

end Position

/-! ### Nodes -/

/-- A node with a clause and its operator in front. -/
def prepend (right : Tree) (l : Link) : Tree :=
  .binary l.clause l.op right.collapse { start := l.start }

/-- A node is its last clause with the others put in front, one after another. -/
theorem node_eq (links : List Link) (start : Option Operator) (c : Tree) :
    node links start c = links.foldl prepend (.single c { start }) := rfl

/-- What holds of a clause alone and of whatever clauses are put in front of it holds of its node.
-/
theorem node_induction {P : Tree → Prop} {links : List Link} {start : Option Operator} {c : Tree}
    (single : P (.single c { start })) (binary : ∀ right l, P right → P (prepend right l)) :
    P (node links start c) :=
  List.foldlRecOn links prepend single fun right hr l _ => binary right l hr

/-- What surrounds the node of a clause: at most the operator that opens it. -/
theorem node_grouping (links : List Link) (start : Option Operator) (c : Tree) :
    (node links start c).IsGroup ∧ ∃ s, (node links start c).grouping = { start := s } :=
  node_induction (P := fun t => t.IsGroup ∧ ∃ s, t.grouping = { start := s }) ⟨trivial, _, rfl⟩
    fun _ _ _ => ⟨trivial, _, rfl⟩

/-! ### Readers -/

def Link.weight (l : Link) : Nat := l.clause.weight W

/-- The weight of the clauses before the one at hand. -/
def linksWeight (ls : List Link) : Nat := (ls.map (Link.weight W)).sum

/-- The weight of a suspended group. -/
def Frame.weight (f : Frame) : Nat :=
  Grouping.weight W { field := f.field } + linksWeight W f.links

/-- The weight of what has been read. -/
def Reader.weight (r : Reader) : Nat :=
  (r.frames.map (Frame.weight W)).sum + linksWeight W r.links + r.position.weight W

theorem weight_prepend {right : Tree} (h : right.grouping.field = none) (l : Link) :
    (prepend right l).weight W = l.weight W + right.weight W := by
  simp only [prepend, Tree.weight, Tree.weight_collapse W h, Grouping.weight, Option.elim_none,
    Link.weight, Nat.zero_add]

theorem linksWeight_cons (l : Link) (ls : List Link) :
    linksWeight W (l :: ls) = l.weight W + linksWeight W ls := by
  simp only [linksWeight, List.map_cons, List.sum_cons]

/-- A node weighs as much as its clauses. -/
theorem weight_node (links : List Link) (start : Option Operator) (c : Tree) :
    (node links start c).weight W = linksWeight W links + c.weight W := by
  -- clauses are put in front of a node that grows, so the induction is over every such node
  suffices h : ∀ right : Tree, right.grouping.field = none →
      (links.foldl prepend right).weight W = linksWeight W links + right.weight W by
    rw [node_eq, h _ rfl]
    simp [Tree.weight, Grouping.weight]
  induction links with
  | nil =>
      intro right _
      simp [linksWeight]
  | cons l ls ih =>
      intro right hr
      rw [List.foldl_cons, ih _ rfl, weight_prepend W hr, linksWeight_cons]
      omega

/-- Parentheses weigh nothing, and a field its name. -/
theorem weight_regroup {t : Tree} (ht : t.IsGroup) (h : t.grouping.field = none)
    (f : Option String) :
    (t.regroup fun g => { g with field := f, parenthesized := true }).weight W =
      Grouping.weight W { field := f } + t.weight W := by
  cases t with
  | term t | range r => exact absurd ht id
  | single l g =>
      have hg : g.field = none := h
      simp [Tree.regroup, Tree.weight, Grouping.weight, hg]
  | binary l op r g =>
      have hg : g.field = none := h
      simp [Tree.regroup, Tree.weight, Grouping.weight, hg, Nat.add_assoc]

variable {r r' : Reader} {k : Kind} {l : List Char}

theorem weight_join {c : Tree} (hc : r.position.clause? = some c) (op : Operator) :
    (r.join c op).weight W = r.weight W := by
  have e : (r.join c op).weight W = (r.frames.map (Frame.weight W)).sum +
      (c.weight W + linksWeight W r.links) + 0 := rfl
  rw [e, Reader.weight, Position.weight_of_clause? W hc]
  omega

/-- A parenthesis keeps the name of the field in front of it. -/
theorem weight_openGroup (f : Option String)
    (hp : r.position.weight W = Grouping.weight W { field := f }) :
    (r.openGroup f).weight W = r.weight W := by
  have e : (r.openGroup f).weight W = (Grouping.weight W { field := f } + linksWeight W r.links +
      (r.frames.map (Frame.weight W)).sum) + 0 + 0 := rfl
  rw [e, Reader.weight, hp]
  omega

/-- A group weighs as much as the clauses in it. -/
theorem weight_closeGroup {c : Tree} (hc : r.position.clause? = some c)
    (h : r.closeGroup c = some r') : r'.weight W = r.weight W := by
  obtain ⟨f, fs, hf, rfl⟩ := Reader.closeGroup_eq_some h
  obtain ⟨hg, s, hs⟩ := node_grouping r.links r.start c
  simp only [Reader.weight, hf, List.map_cons, List.sum_cons, Position.weight_of_clause? W hc]
  rw [Position.weight, weight_regroup W hg (by rw [hs]), weight_node, Frame.weight]
  omega

theorem weight_of_begun (h : r.Begun k l r') : r'.weight W = r.weight W + gain W k l := by
  cases h with
  | @move p h =>
      have e : Reader.weight W { r with position := p } = (r.frames.map (Frame.weight W)).sum +
          linksWeight W r.links + p.weight W := rfl
      rw [e, Position.weight_of_moves W h, Reader.weight]
      omega
  | opens hk hp =>
      rw [hk, weight_openGroup W none]
      · rfl
      · rw [Position.weight_of_awaits? W hp, W.name_implicit]
        rfl
  | opensNamed hk hp =>
      rw [hk, weight_openGroup W (some _)]
      · rfl
      · rw [hp]
        rfl

/-- **A lexeme adds its own text.** -/
theorem Reader.weight_of_does (h : r.Does k l r') : r'.weight W = r.weight W + gain W k l := by
  cases h with
  | negate hk hp =>
      subst hk
      simp [weight, hp, Position.weight, gain]
  | goesOn h => exact weight_of_begun W h
  | overflows hk _ _ =>
      subst hk
      rfl
  | joins hc ho =>
      rw [weight_join W hc]
      cases k <;> cases ho <;> rfl
  | follows hc _ h => rw [weight_of_begun W h, weight_join W hc]
  | closes hc hk h =>
      rw [weight_closeGroup W hc h, hk]
      rfl

/-- A complete query weighs as much as its reader. -/
theorem Reader.weight_finish {t : Tree} (h : r.finish = some t) : t.weight W = r.weight W := by
  obtain ⟨c, hf, hc, rfl⟩ := finish_eq_some h
  rw [weight_node, weight, hf, Position.weight_of_clause? W hc]
  simp

end Query
end SearchFilters
