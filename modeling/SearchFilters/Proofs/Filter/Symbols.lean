import Mathlib.Data.List.Basic
import Mathlib.Data.List.Induction
import SearchFilters.Proofs.Filter.Walking
import SearchFilters.Proofs.Query.Effect
import SearchFilters.Proofs.Query.RoundTrip

/-!
# Proofs — Filter — Symbols

Operators in symbols behind a row of clauses.

The reader keeps the clauses of the outermost node that are followed by an operator, and no lexeme
takes one of them back (`outer_of_step`); so their operators are operators of the tree, whatever
comes later (`mem_operators_of_steps`).  Behind a complete clause, symbols are read as an operator
before anything else is tried.  A row followed by a blank and symbols therefore has the operator in
its tree, if it has a tree (`mem_operators_of_symbol`): this holds without looking at what stands
behind the symbols.

A clause that is written like an operator begins with such symbols (`chars_of_symbolic`), since they
are not escaped.
-/

namespace SearchFilters.Query
open Text

/-! ### The outermost node -/

/-- The clauses of the outermost node, given those of the node at hand and the groups around it. -/
def outerLinks : List Frame → List Link → List Link
  | [], links   => links
  | f :: fs, _  => outerLinks fs f.links

/-- The clauses of the outermost node that are followed by an operator. -/
def Reader.outer (r : Reader) : List Link := outerLinks r.frames r.links

variable {r r' : Reader} {k : Kind} {l : List Char} {s s' : List Char}

/-- An operator adds the clause in front of it. -/
theorem outer_join (r : Reader) (c : Tree) (op : Operator) : r.outer ⊆ (r.join c op).outer := by
  obtain ⟨frames, links, start, position, overflow⟩ := r
  cases frames with
  | nil => exact List.subset_cons_self _ _
  | cons f fs => exact fun _ => id

/-- A group that is closed is part of a clause that is still open. -/
theorem outer_closeGroup {c : Tree} (h : r.closeGroup c = some r') : r'.outer = r.outer := by
  obtain ⟨f, fs, hf, rfl⟩ := Reader.closeGroup_eq_some h
  rw [Reader.outer, Reader.outer, hf]
  rfl

theorem outer_of_begun (h : r.Begun k l r') : r'.outer = r.outer := by
  cases h with
  | move | opens | opensNamed => rfl

/-- **No lexeme takes a clause of the outermost node back.** -/
theorem outer_of_step (h : r.step k l = some r') : r.outer ⊆ r'.outer := by
  cases Reader.does_of_step h with
  | negate | overflows => exact fun _ => id
  | goesOn hb =>
      rw [outer_of_begun hb]
      exact fun _ => id
  | joins => exact outer_join r _ _
  | @follows c _ _ _ hb =>
      rw [outer_of_begun hb]
      exact outer_join r c .implicit
  | closes _ _ hg =>
      rw [outer_closeGroup hg]
      exact fun _ => id

theorem outer_of_steps (h : Steps r s r' s') : r.outer ⊆ r'.outer := by
  refine h.invariant (P := fun r' _ => r.outer ⊆ r'.outer) ?_ fun _ => id
  intro r₁ s₁ r₂ s₂ hstep h₁
  cases hstep with
  | skip => exact h₁
  | take _ _ hr => exact fun _ hl => outer_of_step hr (h₁ hl)

/-! ### Operators -/

theorem operators_collapse (t : Tree) : t.operators ⊆ t.collapse.operators := by
  intro op h
  cases t with
  | single l g =>
      rw [Tree.collapse]
      split
      · rw [Tree.operators] at h
        split at h
        · cases h
        · exact h
      · exact h
  | _ => exact h

/-- The operators that follow the clauses of a node are among its operators. -/
theorem mem_operators_node {links : List Link} (start : Option Operator) (c : Tree) {j : Link}
    (h : j ∈ links) : j.op ∈ (node links start c).operators := by
  induction links using List.reverseRecOn with
  | nil => cases h
  | append_singleton links last ih =>
      rw [node_concat]
      simp only [Tree.operators, Option.isSome_none, Bool.false_eq_true, if_false]
      rcases List.mem_append.mp h with h | h
      · exact List.mem_append_right _ (List.mem_cons_of_mem _ (operators_collapse _ (ih h)))
      · rw [List.mem_singleton.mp h]
        exact List.mem_append_right _ (List.mem_cons_self ..)

/-- **The operators of the outermost node are those of the tree** that a run ends with. -/
theorem mem_operators_of_steps {t : Tree} (h : Steps r s r' s') (ht : r'.Complete t) {j : Link}
    (hj : j ∈ r.outer) : j.op ∈ t.operators := by
  have hj := outer_of_steps h hj
  obtain ⟨c, hf, -, rfl⟩ := Reader.finish_eq_some ht.1
  rw [Reader.outer, hf] at hj
  exact mem_operators_node r'.start c hj

/-! ### Operators in symbols -/

/-- An operator written in symbols, and its character. -/
inductive Symbol : Char → Operator → Prop where
  | and : Symbol '&' .and
  | or  : Symbol '|' .or

/-- An operator in symbols is taken as one behind a complete clause, whatever comes after it. -/
theorem step_symbol {a : Char} {op : Operator} (ha : Symbol a op) {c : Tree}
    (hr : r.position.clause? = some c) (s : List Char) :
    Step r (a :: a :: s) (r.join c op) s := by
  obtain ⟨ks, hks, -⟩ := kinds_of_clause? hr
  cases ha with
  | and =>
      refine step_of_lexeme (k := .and) (l := "&&".toList) ?_ ?_
      · rw [hks]
        exact firstLexeme?_append_of_some rfl
      · rw [step_of_clause? hr (by decide)]
        rfl
  | or =>
      refine step_of_lexeme (k := .or) (l := "||".toList) ?_ ?_
      · rw [hks]
        exact firstLexeme?_append_of_some rfl
      · rw [step_of_clause? hr (by decide)]
        rfl

/-- **Symbols behind a row and a blank are read as an operator** of the outermost node. -/
theorem mem_operators_of_symbol {t u : Tree} (ht : t.Readable Grouping.Open) (hg : t.IsGroup)
    {w : List Char} (hw : t.chars = .ok w) {a : Char} {op : Operator} (ha : Symbol a op)
    (hend : EndsTight (w ++ ' ' :: a :: a :: s))
    (hu : parse (String.ofList (w ++ ' ' :: a :: a :: s)) = .ok (some u)) : op ∈ u.operators := by
  obtain ⟨ho, v, hv, hrow⟩ := (Tree.prints t).row _ ht hg
  obtain ⟨_, hw', hhead, -⟩ := Tree.steps_chars ht hg
  cases hw.symm.trans hw'
  obtain rfl : t.grouping.startText ++ v = w :=
    (ho.wrap_eq v).symm.trans (Except.ok.inj (hv.symm.trans hw))
  have trimmed : trim (t.grouping.startText ++ v ++ ' ' :: a :: a :: s) =
      t.grouping.startText ++ v ++ ' ' :: a :: a :: s := by
    obtain ⟨c, rest, e, -⟩ := hrow.solid []
    have hne : t.grouping.startText ++ v ≠ [] := by simp [(List.append_nil v).symm.trans e]
    refine trim_eq_self (fun c hc => hhead c ?_) hend.getLast
    rwa [List.head?_append_of_ne_nil _ hne] at hc
  have follows : Follows (' ' :: a :: a :: s) := by
    cases ha with
    | and => exact .blank _ (by decide) (by decide)
    | or => exact .blank _ (by decide) (by decide)
  obtain ⟨links, start, p, c, h₁, hc, -⟩ := steps_start (r := {}) hrow ho.start rfl rfl follows
  have h₂ := h₁.trans (.more (.skip rfl) (.one (step_symbol ha hc s)))
  have hrun := parse_eq_some_iff.mp hu
  rw [String.toList_ofList, trimmed] at hrun
  obtain ⟨r', h₃, hf⟩ := complete_of_steps h₂ hrun
  exact mem_operators_of_steps h₃ hf (List.mem_cons_self ..)

/-- The symbols of an operator are not escaped in a written word. -/
theorem escapeWord_symbol {a : Char} {op : Operator} (ha : Symbol a op) (s : List Char) :
    escapeWord (a :: a :: s) = a :: a :: escapeSpecials s := by
  cases ha <;> rfl

/-- A clause that is written like an operator begins with the symbols. -/
theorem chars_of_symbolic {t : Tree} (ht : t.Readable Grouping.Enclosed) (hs : ¬t.NotSymbolic)
    {w : List Char} (hw : t.chars = .ok w) : ∃ a op s, Symbol a op ∧ w = a :: a :: s := by
  simp only [Tree.NotSymbolic, not_forall, Classical.not_not] at hs
  obtain ⟨u, hu, hf, hm, hq, hr, hp⟩ := hs
  cases t with
  | range r => cases hu
  | single l g | binary l op r g =>
      rw [Tree.firstTerm?, if_pos ht.1.parenthesized] at hu
      cases hu
  | term t =>
      cases hu
      obtain ⟨a, op, s, ha, htext⟩ : ∃ a op s, Symbol a op ∧ u.text.toList = a :: a :: s := by
        rcases hp with hp | hp <;> obtain ⟨s, e⟩ := List.isPrefixOf_iff_prefix.mp hp
        · exact ⟨'&', .and, s, .and, e.symm⟩
        · exact ⟨'|', .or, s, .or, e.symm⟩
      rw [Tree.chars] at hw
      obtain ⟨v, b, hv, -, rfl⟩ := Term.print_eq_ok hw
      have hne : ¬u.text.isEmpty = true := by
        rw [String.isEmpty_iff]
        intro e
        rw [e] at htext
        cases htext
      rw [Term.core, if_neg (by simp [hr]), if_neg (by simp [hq]), if_neg hne, htext,
        escapeWord_symbol ha] at hv
      obtain ⟨m, -, rfl⟩ := exists_of_map_eq_ok hv
      refine ⟨a, op, escapeSpecials s ++ m ++ b, ha, ?_⟩
      rw [fieldText, if_pos hf, hm]
      simp

end SearchFilters.Query
