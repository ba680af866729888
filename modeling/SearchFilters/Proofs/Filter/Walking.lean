import SearchFilters.Proofs.Filter.Splitting
import SearchFilters.Proofs.Query.Readable

/-!
# Proofs — Filter — Walking

When walking a part of a query gives filters, and what the two polarities have in common.

Walking fails for many reasons, but succeeds for few: `Walks` describes the parts that have filters
by their shape, with the filters, and walking gives filters exactly for these (`walk_iff`).  At the
top of a query what opens it counts as well (`walk_whole_iff`).

A query is walked once for each polarity.  Both find the same clauses, in the same order; each keeps
the first clause of a part and sorts the others by the operators in front of them (`Walks.finds`).
What one polarity drops behind an operator the other one keeps, so that together they share the
clauses out: every clause goes to one side, and the order is kept (`Selection.Sorts`,
`sorts_of_split`).  `Tree.clauses` are the clauses with what stands in front of them, which is all
that this needs to know of the tree.
-/

namespace SearchFilters

variable {q : Request} {topLevel : Bool} {depth : Nat} {t l r : Tree} {op : Operator}
  {g : Grouping} {fs : List Filter}

/-! ### The parts that have filters -/

/-- **A part of a query that has filters at a depth.** -/
inductive Walks (q : Request) : Nat → Tree → List Filter → Prop where
  /-- a clause has its filter -/
  | alone {depth : Nat} {t : Tree} {f : Filter} (ht : t.StandsAlone)
      (hd : (depth : Int) ≤ q.maxDepth) (hf : clauseFilter q.registry t = .ok f) :
      Walks q depth t [f]
  /-- a group of one side has the filters of that side -/
  | single {depth : Nat} {l : Tree} {g : Grouping} {fs : List Filter} (hg : g.field = none)
      (hp : g.parenthesized = false) (hd : (depth : Int) ≤ q.maxDepth)
      (hl : Walks q (depth + 1) l fs) : Walks q depth (.single l g) fs
  /-- two sides have the filters of both, the first one of the right side if its operator says so -/
  | binary {depth : Nat} {l r : Tree} {op : Operator} {g : Grouping} {fs fs' : List Filter}
      {drop : Bool} (hg : g.field = none) (hp : g.parenthesized = false)
      (hd : (depth : Int) ≤ q.maxDepth) (hl : Walks q (depth + 1) l fs)
      (hr : Walks q (depth + 1) r fs') (hj : q.dropsAfter? op = some drop) :
      Walks q depth (.binary l op r g) (fs ++ Request.keep drop fs')

theorem map_eq_ok_iff {ε α β : Type} {f : α → β} {x : Except ε α} {b : β} :
    x.map f = .ok b ↔ ∃ a, x = .ok a ∧ f a = b := by
  cases x with
  | error e => exact ⟨nofun, nofun⟩
  | ok a => exact ⟨fun h => ⟨a, rfl, Except.ok.inj h⟩, by rintro ⟨_, ⟨⟩, rfl⟩; rfl⟩

/-- One thing after another ends well exactly if each does. -/
theorem bind_eq_ok_iff {ε α β : Type} {x : Except ε α} {f : α → Except ε β} {b : β} :
    x >>= f = .ok b ↔ ∃ a, x = .ok a ∧ f a = .ok b := by
  cases x with
  | error e => exact ⟨nofun, nofun⟩
  | ok a => exact ⟨fun h => ⟨a, rfl, h⟩, by rintro ⟨_, ⟨⟩, h⟩; exact h⟩

theorem map_eq_error_iff {ε α β : Type} {f : α → β} {x : Except ε α} {e : ε} :
    x.map f = .error e ↔ x = .error e := by
  cases x with
  | error e' => exact Iff.of_eq (by rw [Except.map, Except.error.injEq, Except.error.injEq])
  | ok a => exact ⟨nofun, nofun⟩

theorem mapError_eq_error_iff {ε ε' α : Type} {g : ε → ε'} {x : Except ε α} {e : ε'} :
    x.mapError g = .error e ↔ ∃ e', x = .error e' ∧ g e' = e := by
  cases x with
  | error e' =>
      constructor
      · intro h
        exact ⟨e', rfl, Except.error.inj h⟩
      · rintro ⟨_, h, rfl⟩
        cases h
        rfl
  | ok a => exact ⟨nofun, nofun⟩

theorem bind_eq_error_iff {ε α β : Type} {x : Except ε α} {f : α → Except ε β} {e : ε} :
    x >>= f = .error e ↔ x = .error e ∨ ∃ a, x = .ok a ∧ f a = .error e := by
  cases x with
  | error e' =>
      constructor
      · intro h
        exact .inl (congrArg _ (Except.error.inj h))
      · rintro (h | ⟨a, ha, -⟩)
        · exact congrArg _ (Except.error.inj h)
        · cases ha
  | ok a =>
      constructor
      · intro h
        exact .inr ⟨a, rfl, h⟩
      · rintro (h | ⟨b, hb, h⟩)
        · cases h
        · cases hb
          exact h

/-- A part that stands alone has its own filter. -/
theorem walk_alone_iff (ht : t.StandsAlone) :
    q.walk topLevel depth t = .ok fs ↔
      (depth : Int) ≤ q.maxDepth ∧ ∃ f, clauseFilter q.registry t = .ok f ∧ [f] = fs := by
  rw [walk_of_standsAlone ht]
  by_cases hd : q.maxDepth < depth
  · simp [hd, Int.not_le.mpr hd]
  · simp [hd, Int.not_lt.mp hd, map_eq_ok_iff]

/-- A group of one clause has the filter of its clause. -/
theorem walk_single_iff (hg : g.field = none) :
    q.walk topLevel depth (.single l g) = .ok fs ↔
      (depth : Int) ≤ q.maxDepth ∧ g.parenthesized = false ∧
        ∃ left, q.walk false (depth + 1) l = .ok left ∧
          Request.keep (topLevel && q.dropsFirst g) left = fs := by
  rw [Request.walk]
  by_cases hd : q.maxDepth < depth
  · simp [hd, Int.not_le.mpr hd]
  cases hp : g.parenthesized with
  | true => simp [hd, hg]
  | false =>
      cases hl : q.walk false (depth + 1) l <;>
        simp [hd, hg, Int.not_lt.mp hd, bind, Except.bind, pure, Except.pure]

/-- A group of two sides has the filters of its left side and those of its right side that are kept.
-/
theorem walk_binary_iff (hg : g.field = none) :
    q.walk topLevel depth (.binary l op r g) = .ok fs ↔
      (depth : Int) ≤ q.maxDepth ∧ g.parenthesized = false ∧
        ∃ left right drop, q.walk false (depth + 1) l = .ok left ∧
          q.walk false (depth + 1) r = .ok right ∧ q.dropsAfter? op = some drop ∧
          Request.keep (topLevel && q.dropsFirst g) left ++ Request.keep drop right = fs := by
  rw [Request.walk]
  by_cases hd : q.maxDepth < depth
  · simp [hd, Int.not_le.mpr hd]
  cases hp : g.parenthesized with
  | true => simp [hd, hg]
  | false =>
      cases q.walk false (depth + 1) l <;> cases q.walk false (depth + 1) r <;>
        cases q.dropsAfter? op <;>
          simp [hd, hg, Int.not_lt.mp hd, bind, Except.bind, pure, Except.pure]

/-- By induction on the tree, what walking gives are the filters that a part has. -/
theorem Walks.of_walk (h : q.walk false depth t = .ok fs) : Walks q depth t fs := by
  have alone {t : Tree} (ht : t.StandsAlone) {depth : Nat} {fs : List Filter}
      (h : q.walk false depth t = .ok fs) : Walks q depth t fs := by
    obtain ⟨hd, f, hf, rfl⟩ := (walk_alone_iff ht).mp h
    exact .alone ht hd hf
  induction t generalizing depth fs with
  | term t => exact alone (t := .term t) trivial h
  | range r => exact alone (t := .range r) trivial h
  | single l g ih =>
      cases hg : g.field with
      | some f => exact alone (t := .single l g) (by simp [Tree.StandsAlone, hg]) h
      | none =>
          obtain ⟨hd, hp, left, hl, rfl⟩ := (walk_single_iff hg).mp h
          exact .single hg hp hd (ih hl)
  | binary l op r g ihl ihr =>
      cases hg : g.field with
      | some f => exact alone (t := .binary l op r g) (by simp [Tree.StandsAlone, hg]) h
      | none =>
          obtain ⟨hd, hp, left, right, drop, hl, hr, hj, rfl⟩ := (walk_binary_iff hg).mp h
          exact .binary hg hp hd (ihl hl) (ihr hr) hj

/-- **Walking gives filters exactly for the parts that have them.** -/
theorem walk_iff : q.walk false depth t = .ok fs ↔ Walks q depth t fs := by
  refine ⟨.of_walk, fun h => ?_⟩
  induction h with
  | alone ht hd hf => exact (walk_alone_iff ht).mpr ⟨hd, _, hf, rfl⟩
  | single hg hp hd hl ih => exact (walk_single_iff hg).mpr ⟨hd, hp, _, ih, rfl⟩
  | binary hg hp hd hl hr hj ihl ihr =>
      exact (walk_binary_iff hg).mpr ⟨hd, hp, _, _, _, ihl, ihr, hj, rfl⟩

/-- The first filter of a part is never left out. -/
theorem Walks.ne_nil (h : Walks q depth t fs) : fs ≠ [] := by
  induction h with
  | alone => exact List.cons_ne_nil _ _
  | single _ _ _ _ ih => exact ih
  | binary _ _ _ _ _ _ ih _ => simp [ih]

/-- Leaving the first filter out leaves what follows in place. -/
theorem keep_append (drop : Bool) {fs : List Filter} (h : fs ≠ []) (fs' : List Filter) :
    Request.keep drop fs ++ fs' = Request.keep drop (fs ++ fs') := by
  cases drop with
  | false => rfl
  | true => exact (List.tail_append_of_ne_nil h).symm

/-- **Walking a whole query** leaves its first filter out if that has the other polarity. -/
theorem walk_whole_iff (ht : t.IsGroup) (hf : t.grouping.field = none) :
    q.walk true depth t = .ok fs ↔
      ∃ fs', Walks q depth t fs' ∧ Request.keep (q.dropsFirst t.grouping) fs' = fs := by
  cases t with
  | term t | range r => exact absurd ht id
  | single l g =>
      have hg : g.field = none := hf
      constructor
      · intro h
        obtain ⟨hd, hp, left, hl, rfl⟩ := (walk_single_iff hg).mp h
        exact ⟨left, .single hg hp hd (.of_walk hl), rfl⟩
      · rintro ⟨left, h, rfl⟩
        obtain ⟨hd, hp, left, hl, rfl⟩ := (walk_single_iff hg).mp (walk_iff.mpr h)
        exact (walk_single_iff hg).mpr ⟨hd, hp, left, hl, rfl⟩
  | binary l op r g =>
      have hg : g.field = none := hf
      constructor
      · intro h
        obtain ⟨hd, hp, left, right, drop, hl, hr, hj, rfl⟩ := (walk_binary_iff hg).mp h
        have hl := Walks.of_walk hl
        exact ⟨_, .binary hg hp hd hl (.of_walk hr) hj, (keep_append _ hl.ne_nil _).symm⟩
      · rintro ⟨both, h, rfl⟩
        obtain ⟨hd, hp, left, right, drop, hl, hr, hj, rfl⟩ :=
          (walk_binary_iff hg).mp (walk_iff.mpr h)
        exact (walk_binary_iff hg).mpr ⟨hd, hp, left, right, drop, hl, hr, hj,
          keep_append _ (Walks.of_walk hl).ne_nil _⟩

theorem isGroup_of_not_standsAlone (h : ¬t.StandsAlone) : t.IsGroup ∧ t.grouping.field = none := by
  cases t with
  | term u | range r => exact absurd trivial h
  | single l g | binary l op r g =>
      exact ⟨trivial, by simpa [Tree.StandsAlone, Tree.grouping] using h⟩

/-- What has filters at the top of a query has filters. -/
theorem Walks.of_walk_top (h : q.walk topLevel depth t = .ok fs) : ∃ fs', Walks q depth t fs' := by
  cases topLevel with
  | false => exact ⟨fs, .of_walk h⟩
  | true =>
      by_cases ht : t.StandsAlone
      · obtain ⟨hd, f, hf, -⟩ := (walk_alone_iff ht).mp h
        exact ⟨[f], .alone ht hd hf⟩
      · obtain ⟨hg, hn⟩ := isGroup_of_not_standsAlone ht
        obtain ⟨fs', hw, -⟩ := (walk_whole_iff hg hn).mp h
        exact ⟨fs', hw⟩

/-! ### Clauses -/

/-- A clause of a query with what stands in front of it. -/
structure Clause where
  tree : Tree
  /-- the operator of the group whose right side the clause begins; none for the first clause -/
  before : Option Operator
  /-- the operators that open the groups which the clause begins, the outermost first -/
  opens : List Operator

/-- The clauses of a part of a query: its leaves and its groups under fields, from left to right.
The given operators stand in front of the first one. -/
def Tree.clausesFrom (before : Option Operator) (opens : List Operator) : Tree → List Clause
  | .single l g =>
    if g.field.isSome then [⟨.single l g, before, opens⟩]
    else l.clausesFrom before (opens ++ g.start.toList)
  | .binary l op r g =>
    if g.field.isSome then [⟨.binary l op r g, before, opens⟩]
    else l.clausesFrom before (opens ++ g.start.toList) ++ r.clausesFrom (some op) []
  | t => [⟨t, before, opens⟩]

/-- The clauses of a query. -/
def Tree.clauses (t : Tree) : List Clause := t.clausesFrom none []

theorem clausesFrom_of_standsAlone (ht : t.StandsAlone) (before : Option Operator)
    (opens : List Operator) : t.clausesFrom before opens = [⟨t, before, opens⟩] := by
  cases t with
  | term t | range r => rfl
  | single l g | binary l op r g => exact if_pos ht

/-- What opens a group opens its first clause. -/
theorem clausesFrom_single (hg : g.field = none) (before : Option Operator)
    (opens : List Operator) :
    (Tree.single l g).clausesFrom before opens =
      l.clausesFrom before (opens ++ g.start.toList) := by
  simp [Tree.clausesFrom, hg]

/-- The operator between two sides stands in front of the first clause of the right side. -/
theorem clausesFrom_binary (hg : g.field = none) (before : Option Operator)
    (opens : List Operator) :
    (Tree.binary l op r g).clausesFrom before opens =
      l.clausesFrom before (opens ++ g.start.toList) ++ r.clausesFrom (some op) [] := by
  simp [Tree.clausesFrom, hg]

/-- The operators between the clauses of a part of a query. -/
def Tree.operators : Tree → List Operator
  | .single l g      => if g.field.isSome then [] else l.operators
  | .binary l op r g => if g.field.isSome then [] else l.operators ++ op :: r.operators
  | _                => []

/-- Every clause but the first one has an operator in front of it. -/
theorem before_clausesFrom (t : Tree) (before : Option Operator) (opens : List Operator) :
    (t.clausesFrom before opens).map Clause.before = before :: t.operators.map some := by
  induction t generalizing before opens with
  | term t | range r => rfl
  | single l g ih =>
      rw [Tree.clausesFrom, Tree.operators]
      split
      · rfl
      · exact ih _ _
  | binary l op r g ihl ihr =>
      rw [Tree.clausesFrom, Tree.operators]
      split
      · rfl
      · simp [ihl, ihr]

/-- The operators of a part that has filters join filters. -/
theorem Walks.joins (h : Walks q depth t fs) :
    ∀ op ∈ t.operators, op = q.joiner.asserting ∨ op = q.joiner.excluding := by
  induction h with
  | @alone depth t f ht hd hf =>
      cases t with
      | term t | range r => simp [Tree.operators]
      | single l g | binary l op r g =>
          have hg : g.field.isSome := ht
          simp [Tree.operators, hg]
  | single hg hp hd hl ih => simpa [Tree.operators, hg] using ih
  | @binary depth l r op g fs fs' drop hg hp hd hl hr hj ihl ihr =>
      have hop : op = q.joiner.asserting ∨ op = q.joiner.excluding := by
        unfold Request.dropsAfter? at hj
        split at hj
        · next h => exact .inl h
        · split at hj
          · next h => exact .inr h
          · cases hj
      intro op' hm
      simp only [Tree.operators, hg, Option.isSome_none, Bool.false_eq_true, if_false,
        List.mem_append, List.mem_cons] at hm
      rcases hm with hm | rfl | hm
      · exact ihl op' hm
      · exact hop
      · exact ihr op' hm

/-! ### Both polarities -/

/-- Whether a clause is excluded by the operator in front of it, the first clause by the operator
that opens the query. -/
def Joiner.excludes (j : Joiner) (start : Option Operator) : Option Operator → Bool
  | none => start == some .not
  | some op => op == j.excluding

/-- Whether a clause of a query that the given operator opens is excluded. -/
def Clause.isExcluded (c : Clause) (j : Joiner) (start : Option Operator) : Bool :=
  j.excludes start c.before

/-- The same request for another polarity. -/
def Request.withPolarity (q : Request) (asserted : Bool) : Request := { q with asserted }

/-- An operator drops the first filter behind it for the polarity that it does not give it. -/
theorem dropsAfter?_withPolarity {drop : Bool} (h : q.dropsAfter? op = some drop) (asserted : Bool)
    (start : Option Operator) :
    (q.withPolarity asserted).dropsAfter? op =
      some ((!q.joiner.excludes start (some op)) != asserted) := by
  obtain ⟨registry, joiner, polarity, maxDepth⟩ := q
  simp only [Request.dropsAfter?, Request.withPolarity, Joiner.excludes] at h ⊢
  split at h
  · next e =>
    subst e
    cases joiner <;> cases asserted <;> rfl
  · split at h
    · next e =>
      subst e
      cases joiner <;> cases asserted <;> rfl
    · cases h

/-- What opens a query decides on its first clause as an operator does on the others. -/
theorem dropsFirst_withPolarity (j : Joiner) (asserted : Bool) (g : Grouping) :
    (q.withPolarity asserted).dropsFirst g = ((!j.excludes g.start none) != asserted) := by
  rw [Request.dropsFirst, Request.withPolarity, Joiner.excludes]
  cases asserted <;> cases g.start == some .not <;> rfl

/-- Entries for clauses in their order, each asserted unless its clause is excluded. -/
def Entry.Mark {P : Filter → Tree → Prop} (es : List (Entry P)) (excluded : Clause → Bool)
    (cs : List Clause) : Prop :=
  es.map (fun e => (e.clause, e.asserted)) = cs.map fun c => (c.tree, !excluded c)

/-- The first entry and the other ones that both polarities find in a part: each polarity keeps the
filter of the first, and of the others those that belong to it. -/
structure Finds (q : Request) (start before : Option Operator) (opens : List Operator) (depth : Nat)
    (t : Tree) (e : Entry (Alone q.registry)) (es : List (Entry (Alone q.registry))) : Prop where
  first : e.asserted = !q.joiner.excludes start before
  marks : Entry.Mark (e :: es) (·.isExcluded q.joiner start) (t.clausesFrom before opens)
  walks : ∀ a, Walks (q.withPolarity a) depth t (e.filter :: Entry.filters a es)

/-- **Both polarities find the same clauses.** -/
theorem Walks.finds (h : Walks q depth t fs) (start before : Option Operator)
    (opens : List Operator) : ∃ e es, Finds q start before opens depth t e es := by
  induction h generalizing before opens with
  | @alone depth t f ht hd hf =>
      refine ⟨⟨f, !q.joiner.excludes start before, t, ht, hf⟩, [], rfl, ?_, fun a => ?_⟩
      · rw [clausesFrom_of_standsAlone ht]
        rfl
      · exact .alone ht hd hf
  | single hg hp hd hl ih =>
      obtain ⟨e, es, he, hm, hw⟩ := ih before _
      exact ⟨e, es, he, by rwa [clausesFrom_single hg], fun a => .single hg hp hd (hw a)⟩
  | @binary depth l r op g fs fs' drop hg hp hd hl hr hj ihl ihr =>
      obtain ⟨e, es, he, hm, hw⟩ := ihl before _
      obtain ⟨e', es', he', hm', hw'⟩ := ihr (some op) []
      refine ⟨e, es ++ e' :: es', he, ?_, fun a => ?_⟩
      · rw [Entry.Mark] at hm hm' ⊢
        rw [clausesFrom_binary hg, ← List.cons_append, List.map_append, hm, hm', List.map_append]
      · rw [Entry.filters_append, Entry.filters_cons, he']
        exact Walks.binary (q := q.withPolarity a) hg hp hd (hw a) (hw' a)
          (dropsAfter?_withPolarity hj a start)

/-! ### Whole queries -/

/-- **A selection that shares clauses out**: every clause has one filter, which is among the
excluded ones or among the asserted ones, as the test says, and both keep the order of the
clauses. -/
def Selection.Sorts (registry : Registry) (cs : List Clause) (excluded : Clause → Bool)
    (s : Selection) : Prop :=
  ∃ es : List (Entry (Alone registry)), Entry.Mark es excluded cs ∧
    s.asserted = Entry.filters true es ∧ s.excluded = Entry.filters false es

/-- Splitting walks a query once for each polarity. -/
theorem split_eq_ok_iff {registry : Registry} {j : Joiner} {d : Int} {s : Selection} :
    split (some t) registry j d = .ok s ↔ ∀ a, (Request.mk registry j a d).walk true 0 t =
      .ok (if a then s.asserted else s.excluded) := by
  obtain ⟨asserted, excluded⟩ := s
  rw [split, deserialize, deserialize, Bool.forall_bool]
  cases (Request.mk registry j false d).walk true 0 t <;>
    cases (Request.mk registry j true d).walk true 0 t <;>
      simp [bind, Except.bind, pure, Except.pure, and_comm]

/-- A query that splits is joined by the operators that filters are joined with. -/
theorem joins_of_split {registry : Registry} {j : Joiner} {d : Int} {s : Selection}
    (ht : t.IsGroup) (hf : t.grouping.field = none) (h : split (some t) registry j d = .ok s) :
    ∀ op ∈ t.operators, op = j.asserting ∨ op = j.excluding := by
  obtain ⟨fs, hw, -⟩ := (walk_whole_iff ht hf).mp (split_eq_ok_iff.mp h true)
  exact hw.joins

/-- **Splitting shares the clauses of a query out by the operators in front of them**, the first
clause by the operator that opens the query. -/
theorem sorts_of_split {registry : Registry} {j : Joiner} {d : Int} {s : Selection}
    (ht : t.IsGroup) (hf : t.grouping.field = none) (h : split (some t) registry j d = .ok s) :
    s.Sorts registry t.clauses (·.isExcluded j t.grouping.start) := by
  have hw (a : Bool) := (walk_whole_iff ht hf).mp (split_eq_ok_iff.mp h a)
  obtain ⟨fs, h₀, -⟩ := hw true
  obtain ⟨e, es, he, hm, hall⟩ := h₀.finds t.grouping.start none []
  have filters (a : Bool) : (if a then s.asserted else s.excluded) = Entry.filters a (e :: es) := by
    obtain ⟨fs, h₁, hfs⟩ := hw a
    have same : fs = e.filter :: Entry.filters a es :=
      Except.ok.inj ((walk_iff.mpr h₁).symm.trans (walk_iff.mpr (hall a)))
    have hdrop := dropsFirst_withPolarity (q := ⟨registry, j, true, d⟩) j a t.grouping
    rw [← hfs, same, Entry.filters_cons, he]
    exact congrArg (Request.keep · _) hdrop
  exact ⟨e :: es, hm, filters true, filters false⟩

end SearchFilters
