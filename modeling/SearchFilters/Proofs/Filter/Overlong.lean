import SearchFilters.Proofs.Filter.Walking

/-!
# Proofs — Filter — Overlong

Integers beyond the digit limit: the one thing that extraction does not answer with filters or with a
rejection.  They come in at two places.  A clause of an integer field may hold one, which is read
(`clauseFilter_eq_number_iff`), and the depth limit may be one, which is written into the rejection of
whatever lies below it.

A query that holds such an integer need not come to it, since walking stops at the first thing that
is refused.  `Stalls` therefore follows walking: a part stalls at its left side, or at its right side
behind a left side that has filters (`Walks`).  Walking fails on a number exactly for the parts that
stall (`walk_eq_number_iff`), which leaves two ways for a query to end: `deserialize_outcome`.

* `Unfit`: the clauses whose text is no value of their field's type; none of them has a filter.
* `not_settled_overlongCount`: an integer that is not answered with a rejection.
-/

namespace SearchFilters
open Numeral (Overlong)

variable {q : Request} {registry : Registry} {topLevel : Bool} {depth : Nat} {t l r : Tree}
  {op : Operator} {g : Grouping} {fault : NumberFault}

/-! ### Clauses -/

theorem readInteger_eq_error_iff {s : String} {e : Refusal} :
    readInteger s = .error e ↔ e = .number .tooManyDigits ∧ Overlong s.toList := by
  rw [readInteger, mapError_eq_error_iff]
  constructor
  · rintro ⟨fault, h, rfl⟩
    obtain ⟨rfl, ho⟩ := Numeral.read_eq_error_iff.mp h
    exact ⟨rfl, ho⟩
  · rintro ⟨rfl, ho⟩
    exact ⟨.tooManyDigits, Numeral.read_eq_error_iff.mpr ⟨rfl, ho⟩, rfl⟩

/-- **A clause that comes to an overlong integer**: the term of an integer field, or a bound of a
range of integers. -/
inductive Unread (registry : Registry) : Tree → Prop where
  | term {u : Term} {f : Field} (hm : u.modifier? = none) (hf : registry.get? u.field = some f)
      (ht : f.type = .integer) (ho : Overlong u.text.toList) : Unread registry (.term u)
  | range {x : Range} {f : Field} (hf : registry.get? x.field = some f)
      (ht : f.type = .integerRange) (hi : x.inclusive = .both)
      (ho : Overlong x.low.toList ∨ Overlong x.high.toList) : Unread registry (.range x)

/-- Of terms only those of integer fields hold overlong integers. -/
theorem termFilter_eq_number_iff {u : Term} {f : Field} :
    termFilter u f = .error (.number fault) ↔
      fault = .tooManyDigits ∧ f.type = .integer ∧ Overlong u.text.toList := by
  unfold termFilter
  split
  · next ht => simp [ht]
  · next ht =>
    simp only [bind_eq_error_iff, readInteger_eq_error_iff, Refusal.number.injEq, ht, true_and]
    refine ⟨?_, .inl⟩
    rintro (h | ⟨_ | i, -, h⟩)
    · exact h
    · cases h
    · cases h
  · next ht => split <;> simp [ht]
  · next ht =>
    split
    · simp [ht]
    · split <;> simp [ht]
  · next ht => simp [ht]
  · next ht => simp [ht]
  · next ht => simp [ht]

/-- Of ranges only those of integers do, if both bounds belong to them; both bounds are looked at.
-/
theorem rangeFilter_eq_number_iff {x : Range} {f : Field} :
    rangeFilter x f = .error (.number fault) ↔ fault = .tooManyDigits ∧ f.type = .integerRange ∧
      x.inclusive = .both ∧ (Overlong x.low.toList ∨ Overlong x.high.toList) := by
  unfold rangeFilter
  split
  · next h => simp [h.1]
  · next h =>
    split
    · next ht =>
      have hi : x.inclusive = .both := Decidable.not_not.mp fun hi => h ⟨hi, by rw [ht]; rfl⟩
      simp only [bind_eq_error_iff, readInteger_eq_error_iff, Refusal.number.injEq, ht, hi,
        true_and]
      constructor
      · rintro (⟨rfl, ho⟩ | ⟨low, -, ⟨rfl, ho⟩ | ⟨high, -, h⟩⟩)
        · exact ⟨rfl, .inl ho⟩
        · exact ⟨rfl, .inr ho⟩
        · cases low <;> cases high <;> cases h
      · rintro ⟨rfl, ho⟩
        -- the upper bound is read unless the lower one is overlong itself
        cases hr : readInteger x.low with
        | error e =>
            obtain ⟨rfl, hl⟩ := readInteger_eq_error_iff.mp hr
            exact .inl ⟨rfl, hl⟩
        | ok low =>
            refine .inr ⟨low, rfl, .inl ⟨rfl, ho.resolve_left fun hl => ?_⟩⟩
            rw [readInteger_eq_error_iff.mpr ⟨rfl, hl⟩] at hr
            cases hr
    · next ht => split <;> simp [ht]
    · next hne _ =>
      simp only [Except.error.injEq, reduceCtorEq, false_iff]
      exact fun h => hne h.2.1

/-- The items of an enum group are texts. -/
theorem groupFilter_ne_number {f : Field} : groupFilter t f ≠ .error (.number fault) := by
  intro h
  unfold groupFilter at h
  split at h
  · split at h
    · cases h
    · cases h
  · cases h

/-- A field that is not known is rejected before its text is read. -/
theorem find_bind_eq_number_iff {name : String} {x : Field → Except Refusal Filter} :
    registry.find name >>= x = .error (.number fault) ↔
      ∃ f, registry.get? name = some f ∧ x f = .error (.number fault) := by
  unfold Registry.find
  cases registry.get? name with
  | none => simp [bind, Except.bind]
  | some f => simp [bind, Except.bind]

/-- **Reading a clause fails on a number** exactly if it comes to an overlong integer. -/
theorem clauseFilter_eq_number_iff :
    clauseFilter registry t = .error (.number fault) ↔
      fault = .tooManyDigits ∧ Unread registry t := by
  cases t with
  | term u =>
      rw [clauseFilter]
      split
      · next m hm =>
        constructor
        · intro h
          cases h
        · rintro ⟨-, h⟩
          cases h with
          | term hm' =>
            rw [hm] at hm'
            cases hm'
      · next hm =>
        simp only [find_bind_eq_number_iff, termFilter_eq_number_iff]
        constructor
        · rintro ⟨f, hf, rfl, ht, ho⟩
          exact ⟨rfl, .term hm hf ht ho⟩
        · rintro ⟨rfl, h⟩
          cases h with
          | term _ hf ht ho => exact ⟨_, hf, rfl, ht, ho⟩
  | range x =>
      rw [clauseFilter]
      simp only [find_bind_eq_number_iff, rangeFilter_eq_number_iff]
      constructor
      · rintro ⟨f, hf, rfl, ht, hi, ho⟩
        exact ⟨rfl, .range hf ht hi ho⟩
      · rintro ⟨rfl, h⟩
        cases h with
        | range hf ht hi ho => exact ⟨_, hf, rfl, ht, hi, ho⟩
  | single l g | binary l op r g =>
      rw [clauseFilter]
      simp only [find_bind_eq_number_iff, groupFilter_ne_number, and_false, exists_false, false_iff]
      rintro ⟨-, ⟨⟩⟩

/-! ### Walking -/

/-- **A part of a query that walking stalls at**: it comes to a clause with an overlong integer, or to
a part that lies below an overlong limit, and everything in front of that has filters and lies within
the limit. -/
inductive Stalls (q : Request) : Nat → Tree → Prop where
  | deep {depth : Nat} {t : Tree} (hd : q.maxDepth < depth) (hl : ¬Numeral.Short q.maxDepth) :
      Stalls q depth t
  | alone {depth : Nat} {t : Tree} (ht : t.StandsAlone) (hd : (depth : Int) ≤ q.maxDepth)
      (hu : Unread q.registry t) : Stalls q depth t
  | single {depth : Nat} {l : Tree} {g : Grouping} (hg : g.field = none)
      (hp : g.parenthesized = false) (hd : (depth : Int) ≤ q.maxDepth)
      (hl : Stalls q (depth + 1) l) : Stalls q depth (.single l g)
  | left {depth : Nat} {l r : Tree} {op : Operator} {g : Grouping} (hg : g.field = none)
      (hp : g.parenthesized = false) (hd : (depth : Int) ≤ q.maxDepth)
      (hl : Stalls q (depth + 1) l) : Stalls q depth (.binary l op r g)
  | right {depth : Nat} {l r : Tree} {op : Operator} {g : Grouping} {fs : List Filter}
      (hg : g.field = none) (hp : g.parenthesized = false) (hd : (depth : Int) ≤ q.maxDepth)
      (hl : Walks q (depth + 1) l fs) (hr : Stalls q (depth + 1) r) :
      Stalls q depth (.binary l op r g)

section Within
variable (hd : (depth : Int) ≤ q.maxDepth)
include hd

/-- Within a limit that can be written only the clause itself can be at fault. -/
theorem walk_alone_eq_number_iff (ht : t.StandsAlone) :
    q.walk topLevel depth t = .error (.number fault) ↔
      clauseFilter q.registry t = .error (.number fault) := by
  rw [walk_of_standsAlone ht, if_neg (Int.not_lt.mpr hd), map_eq_error_iff]

theorem walk_single_eq_number_iff (hg : g.field = none) :
    q.walk topLevel depth (.single l g) = .error (.number fault) ↔ g.parenthesized = false ∧
      q.walk false (depth + 1) l = .error (.number fault) := by
  rw [Request.walk, if_neg (Int.not_lt.mpr hd)]
  cases hp : g.parenthesized with
  | true => simp [hg]
  | false => simp [hg, bind_eq_error_iff, pure, Except.pure]

/-- A right side is come to only behind a left side that has filters. -/
theorem walk_binary_eq_number_iff (hg : g.field = none) :
    q.walk topLevel depth (.binary l op r g) = .error (.number fault) ↔ g.parenthesized = false ∧
      (q.walk false (depth + 1) l = .error (.number fault) ∨
        ∃ left, q.walk false (depth + 1) l = .ok left ∧
          q.walk false (depth + 1) r = .error (.number fault)) := by
  rw [Request.walk, if_neg (Int.not_lt.mpr hd)]
  cases hp : g.parenthesized with
  | true => simp [hg]
  | false =>
      -- the operator is looked at last, and no number is read there
      cases q.dropsAfter? op <;> simp [hg, bind_eq_error_iff, pure, Except.pure]

end Within

/-- By induction on the tree, walking that fails on a number has stalled. -/
theorem Stalls.of_walk (h : q.walk topLevel depth t = .error (.number fault)) :
    fault = .tooManyDigits ∧ Stalls q depth t := by
  -- a part below the limit has that for its reason, whatever its shape
  have deep {topLevel : Bool} {depth : Nat} {t : Tree} (hd : q.maxDepth < depth)
      (h : q.walk topLevel depth t = .error (.number fault)) :
      fault = .tooManyDigits ∧ Stalls q depth t := by
    rw [walk_of_lt hd, Except.error.injEq] at h
    obtain ⟨rfl, hl⟩ := Refusal.tooDeep_eq_number_iff.mp h
    exact ⟨rfl, .deep hd hl⟩
  have alone {t : Tree} (ht : t.StandsAlone) {topLevel : Bool} {depth : Nat}
      (h : q.walk topLevel depth t = .error (.number fault)) :
      fault = .tooManyDigits ∧ Stalls q depth t := by
    rcases Int.lt_or_le q.maxDepth depth with hd | hd
    · exact deep hd h
    · obtain ⟨rfl, hu⟩ := clauseFilter_eq_number_iff.mp ((walk_alone_eq_number_iff hd ht).mp h)
      exact ⟨rfl, .alone ht hd hu⟩
  induction t generalizing topLevel depth with
  | term u => exact alone (t := .term u) trivial h
  | range x => exact alone (t := .range x) trivial h
  | single l g ih =>
      cases hg : g.field with
      | some f => exact alone (t := .single l g) (by simp [Tree.StandsAlone, hg]) h
      | none =>
          rcases Int.lt_or_le q.maxDepth depth with hd | hd
          · exact deep hd h
          · obtain ⟨hp, hl⟩ := (walk_single_eq_number_iff hd hg).mp h
            obtain ⟨rfl, hs⟩ := ih hl
            exact ⟨rfl, .single hg hp hd hs⟩
  | binary l op r g ihl ihr =>
      cases hg : g.field with
      | some f => exact alone (t := .binary l op r g) (by simp [Tree.StandsAlone, hg]) h
      | none =>
          rcases Int.lt_or_le q.maxDepth depth with hd | hd
          · exact deep hd h
          · obtain ⟨hp, hl | ⟨left, hl, hr⟩⟩ := (walk_binary_eq_number_iff hd hg).mp h
            · obtain ⟨rfl, hs⟩ := ihl hl
              exact ⟨rfl, .left hg hp hd hs⟩
            · obtain ⟨rfl, hs⟩ := ihr hr
              exact ⟨rfl, .right hg hp hd (.of_walk hl) hs⟩

/-- **Walking fails on a number** exactly for the parts that it stalls at. -/
theorem walk_eq_number_iff :
    q.walk topLevel depth t = .error (.number fault) ↔
      fault = .tooManyDigits ∧ Stalls q depth t := by
  refine ⟨Stalls.of_walk, ?_⟩
  rintro ⟨rfl, h⟩
  induction h generalizing topLevel with
  | deep hd hl =>
      rw [walk_of_lt hd, Refusal.tooDeep_eq_number_iff.mpr ⟨rfl, hl⟩]
  | alone ht hd hu =>
      exact (walk_alone_eq_number_iff hd ht).mpr (clauseFilter_eq_number_iff.mpr ⟨rfl, hu⟩)
  | single hg hp hd _ ih => exact (walk_single_eq_number_iff hd hg).mpr ⟨hp, ih⟩
  | left hg hp hd _ ih => exact (walk_binary_eq_number_iff hd hg).mpr ⟨hp, .inl ih⟩
  | right hg hp hd hl _ ih =>
      exact (walk_binary_eq_number_iff hd hg).mpr ⟨hp, .inr ⟨_, walk_iff.mpr hl, ih⟩⟩

/-- **Below an overlong limit** walking stalls at whatever it is given. -/
theorem deserialize_of_overlongLimit (h : q.maxDepth < 0) (hl : ¬Numeral.Short q.maxDepth)
    (t : Tree) (topLevel : Bool) :
    deserialize t q topLevel = .error (.number .tooManyDigits) :=
  walk_eq_number_iff.mpr ⟨rfl, .deep h hl⟩

theorem deserialize_overlongDepth (t : Tree) (registry : Registry) (j : Joiner)
    (asserted topLevel : Bool) :
    deserialize t ⟨registry, j, asserted, overlongDepth⟩ topLevel = .error (.number .tooManyDigits) :=
  deserialize_of_overlongLimit overlongDepth_neg not_short_overlongDepth t topLevel

/-! ### Whole queries -/

/-- Whether a text is a value of a type. -/
def FieldType.Reads : FieldType → String → Prop
  | .string, _ | .enum, _ => True
  | .integer, s => ∃ i, readInteger s = .ok (some i)
  | .float, s => ∃ x, readNumber s = some x
  | .boolean, s => s = "true" ∨ s = "false"
  | .integerRange, _ | .floatRange, _ => False

/-- Whether a text is a bound of the ranges of a type. -/
def FieldType.ReadsBound : FieldType → String → Prop
  | .integerRange, s => ∃ i, readInteger s = .ok (some i)
  | .floatRange, s => ∃ x, readNumber s = some x
  | _, _ => False

/-- **A clause whose text is no value of its field's type**: a term, or a range by its bounds. -/
inductive Unfit (registry : Registry) : Tree → Prop where
  | term {u : Term} {f : Field} (hf : registry.get? u.field = some f) (ht : ¬f.type.Reads u.text) :
      Unfit registry (.term u)
  | range {x : Range} {f : Field} (hf : registry.get? x.field = some f)
      (ht : ¬(f.type.ReadsBound x.low ∧ f.type.ReadsBound x.high)) : Unfit registry (.range x)

theorem reads_of_termFilter {u : Term} {f : Field} {x : Filter} (h : termFilter u f = .ok x) :
    f.type.Reads u.text := by
  unfold termFilter at h
  split at h
  · next ht =>
    rw [ht]
    trivial
  · next ht =>
    rw [ht]
    obtain ⟨_ | i, hi, h⟩ := bind_eq_ok_iff.mp h
    · cases h
    · exact ⟨i, hi⟩
  · next ht =>
    rw [ht]
    split at h
    · next y hy => exact ⟨y, hy⟩
    · cases h
  · next ht =>
    rw [ht]
    split at h
    · next hs => exact .inl hs
    · split at h
      · next hs => exact .inr hs
      · cases h
  · next ht =>
    rw [ht]
    trivial
  · cases h
  · cases h

theorem readsBound_of_rangeFilter {x : Range} {f : Field} {y : Filter}
    (h : rangeFilter x f = .ok y) : f.type.ReadsBound x.low ∧ f.type.ReadsBound x.high := by
  unfold rangeFilter at h
  split at h
  · cases h
  · split at h
    · next ht =>
      rw [ht]
      obtain ⟨low, hl, h⟩ := bind_eq_ok_iff.mp h
      obtain ⟨high, hh, h⟩ := bind_eq_ok_iff.mp h
      cases low with
      | none => cases h
      | some a =>
          cases high with
          | none => cases h
          | some b => exact ⟨⟨a, hl⟩, ⟨b, hh⟩⟩
    · next ht =>
      rw [ht]
      split at h
      · next a b ha hb => exact ⟨⟨a, ha⟩, ⟨b, hb⟩⟩
      · cases h
    · cases h

/-- A clause that has a filter has texts that are values. -/
theorem not_unfit_of_clauseFilter {f : Filter} (h : clauseFilter registry t = .ok f) :
    ¬Unfit registry t := by
  intro hu
  cases hu with
  | term hf ht =>
      rw [clauseFilter] at h
      split at h
      · cases h
      · rw [Registry.find, hf] at h
        exact ht (reads_of_termFilter h)
  | range hf ht =>
      rw [clauseFilter, Registry.find, hf] at h
      exact ht (readsBound_of_rangeFilter h)

/-- Every clause of a part that has filters has one. -/
theorem Walks.clauseFilter {fs : List Filter} (h : Walks q depth t fs) {c : Clause}
    (hc : c ∈ t.clauses) : ∃ f, SearchFilters.clauseFilter q.registry c.tree = .ok f := by
  obtain ⟨e, es, -, hm, -⟩ := h.finds none none []
  obtain ⟨e', -, he⟩ := List.mem_map.mp (hm ▸ List.mem_map_of_mem hc)
  exact ⟨e'.filter, (Prod.mk.inj he).1 ▸ e'.holds.filter⟩

/-- **How extraction ends**: it fails on a number exactly if walking stalls, and otherwise it ends
in a rejection or in filters, in filters only if the text of every clause is a value of its field's
type. -/
theorem deserialize_outcome (t : Tree) (q : Request) (topLevel : Bool) :
    (Stalls q 0 t ∧ deserialize t q topLevel = .error (.number .tooManyDigits)) ∨
      (¬Stalls q 0 t ∧ ((∃ r, deserialize t q topLevel = .error (.rejected r)) ∨
        (∃ fs, deserialize t q topLevel = .ok fs) ∧
          ∀ c ∈ t.clauses, ¬Unfit q.registry c.tree)) := by
  by_cases hs : Stalls q 0 t
  · exact .inl ⟨hs, walk_eq_number_iff.mpr ⟨rfl, hs⟩⟩
  · refine .inr ⟨hs, ?_⟩
    cases h : deserialize t q topLevel with
    | ok fs =>
        obtain ⟨fs', hw⟩ := Walks.of_walk_top h
        refine .inr ⟨⟨fs, rfl⟩, fun c hc => ?_⟩
        obtain ⟨f, hf⟩ := hw.clauseFilter hc
        exact not_unfit_of_clauseFilter hf
    | error e =>
        cases e with
        | rejected r => exact .inl ⟨r, rfl⟩
        | number fault => exact absurd (walk_eq_number_iff.mp h).2 hs

/-- The text of an integer that has one digit more than are read. -/
def overlongText : String := String.ofList (List.replicate (Numeral.digitLimit + 1) '1')

theorem overlong_overlongText : Overlong overlongText.toList := by
  have ten : ∀ c ∈ List.replicate (Numeral.digitLimit + 1) '1', Numeral.IsTen c := by
    intro c hc
    rw [List.eq_of_mem_replicate hc]
    exact ⟨1, by decide, rfl⟩
  rw [overlongText, String.toList_ofList]
  exact Numeral.overlong_of_tens ten (by rw [List.length_replicate]; exact Nat.lt_succ_self _)

/-- A registry of one integer field. -/
def Registry.counts : Registry where
  fields := [.ofIntegers "count" "Count"]
  nodup := List.pairwise_singleton _ _

/-- A query for an overlong integer. -/
def Term.overlongCount : Term := { field := "count", text := overlongText }

/-- **Some query has neither filters nor a rejection**: that of an overlong integer. -/
theorem not_settled_overlongCount :
    ¬∀ (t : Tree) (q : Request) (topLevel : Bool),
      (∃ fs, deserialize t q topLevel = .ok fs) ∨
        ∃ r, deserialize t q topLevel = .error (.rejected r) := by
  intro h
  have unread : Unread Registry.counts (.term .overlongCount) :=
    .term (f := Registry.counts.fields[0]) rfl rfl rfl overlong_overlongText
  have fails : deserialize (.term .overlongCount) ⟨Registry.counts, .implicit, true, defaultMaxDepth⟩
      true = .error (.number .tooManyDigits) :=
    walk_eq_number_iff.mpr ⟨rfl, .alone trivial (by decide) unread⟩
  rcases h _ _ true with ⟨fs, hok⟩ | ⟨r, hr⟩
  · cases hok.symm.trans fails
  · cases hr.symm.trans fails

end SearchFilters
