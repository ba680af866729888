import SearchFilters.Filter.Selection
import SearchFilters.Proofs.Number.Numeral

/-!
# Proofs — Filter — Splitting

Building a query of filters and splitting it again, on trees.

A filter is *expressible* when its value has a text that reads back: an integer within the digit
limit, a floating-point value whose text reads back to it, at least one enum item.  An `Entry` is a
filter with a clause that expresses it; the query of a row of entries splits into the filters of the
entries, whatever the clauses look like.

A row is built with its clauses nested to the right, the operator of a clause in front of it, and
walked for one polarity at a time.  A part of the row has lost its own operator, so that walking it
finds its first filter in any case, and only the operator in front of the part tells whether that
filter is dropped.  `walk_rowOf` says so for every part, by induction on the clauses behind the
first, and `split_queryOf` adds what opens the query.  Each clause lies one deeper than the one
before it, which gives the depth from which the query is rejected; and a rejection names the limit,
so that a limit beyond the digit limit fails in another way (`Refusal.tooDeep_eq`).

* `split_build`: the query built of expressible filters splits into exactly these filters, if the
  depth allows.
* `not_split_or_rejected_overlongDepth`: a limit that is not met and cannot be named.
-/

namespace SearchFilters

/-! ### Expressible filters -/

/-- A floating-point value whose text reads back to it. -/
def Number.ReadsBack : Number → Prop
  | .int _   => False
  | .float x => Binary64.read x.text = some x

instance : DecidablePred Number.ReadsBack
  | .int _   => inferInstanceAs (Decidable False)
  | .float _ => inferInstanceAs (Decidable (_ = _))

/-- A value whose query text reads back to it. -/
def Value.Expressible : Value → Prop
  | .string _ | .boolean _   => True
  | .integer i               => Numeral.Short i
  | .float x                 => x.ReadsBack
  | .integerRange low high   => Numeral.Short low ∧ Numeral.Short high
  | .floatRange low high     => low.ReadsBack ∧ high.ReadsBack
  | .enum items              => items ≠ []

/-- A filter on a field of the registry with an expressible value. -/
def Filter.ExpressibleIn (registry : Registry) (f : Filter) : Prop :=
  f.field ∈ registry.fields ∧ f.value.Expressible

theorem Number.ReadsBack.text_ok {x : Number} (h : x.ReadsBack) :
    ∃ s, x.text = .ok s ∧ readNumber (String.ofList s) = some x := by
  cases x with
  | int i => exact h.elim
  | float b =>
      refine ⟨b.text, rfl, ?_⟩
      rw [readNumber, String.toList_ofList, show Binary64.read b.text = some b from h]
      rfl

theorem readInteger_ofInt {i : Int} (h : Numeral.Short i) :
    readInteger (String.ofList (Numeral.ofInt i)) = .ok (some i) := by
  rw [readInteger, String.toList_ofList, Numeral.read_ofInt h]
  rfl

/-! ### Looking up a field -/

/-- What stands under a key that stands once is found under the key. -/
theorem find?_of_nodup {α : Type} {key : α → String} {row : List α} (hn : (row.map key).Nodup)
    {e : α} (he : e ∈ row) : (row.find? fun x => key x == key e) = some e := by
  induction row with
  | nil => cases he
  | cons a row ih =>
      rw [List.map_cons, List.nodup_cons] at hn
      rcases List.mem_cons.mp he with rfl | he
      · simp
      · have hne : key a ≠ key e := fun h => hn.1 (h ▸ List.mem_map_of_mem he)
        rw [List.find?_cons_of_neg (by simpa using hne)]
        exact ih hn.2 he

/-- A field of a registry is the one that its name stands for. -/
theorem Registry.get?_of_mem {r : Registry} {f : Field} (h : f ∈ r.fields) :
    r.get? f.name = some f := find?_of_nodup r.nodup h

theorem Registry.find_of_mem {r : Registry} {f : Field} (h : f ∈ r.fields) :
    r.find f.name = .ok f := by
  rw [find, get?_of_mem h]

/-! ### The depth limit -/

/-- **What is reported of a query that nests too deep** is a rejection as long as the limit can be
written. -/
theorem Refusal.tooDeep_eq (d : Int) :
    Refusal.tooDeep d =
      if Numeral.Short d then .rejected (.tooDeep d) else .number .tooManyDigits := by
  unfold Refusal.tooDeep
  by_cases h : Numeral.Short d
  · rw [Numeral.write_of_short h, if_pos h]
  · rw [Numeral.write_of_not_short h, if_neg h]

/-- The digit limit is exceeded exactly by the limits that are beyond writing. -/
theorem Refusal.tooDeep_eq_number_iff {d : Int} {f : NumberFault} :
    Refusal.tooDeep d = .number f ↔ f = .tooManyDigits ∧ ¬Numeral.Short d := by
  rw [tooDeep_eq]
  by_cases h : Numeral.Short d
  · simp [h]
  · simp [h, eq_comm]

/-- A part that lies too deep is not looked at. -/
theorem walk_of_lt {q : Request} {depth : Nat} (h : q.maxDepth < depth) (topLevel : Bool)
    (t : Tree) : q.walk topLevel depth t = .error (.tooDeep q.maxDepth) := by
  cases t <;> rw [Request.walk, if_pos h]

/-- A limit that is beyond writing: below zero, and of one digit more than are written. -/
def overlongDepth : Int := -10 ^ Numeral.digitLimit

theorem not_short_overlongDepth : ¬Numeral.Short overlongDepth := by
  rw [Numeral.short_iff, overlongDepth, Int.natAbs_neg, Int.natAbs_pow]
  generalize Numeral.digitLimit = n
  exact Nat.lt_irrefl _

/-- No query lies within that limit. -/
theorem overlongDepth_neg : overlongDepth < 0 := by
  rw [overlongDepth]
  exact Int.neg_neg_of_pos (Int.pow_pos (by decide))

-- nothing else is to be computed of it
attribute [irreducible] overlongDepth

/-! ### Clauses -/

/-- A leaf, or a group under a field: a part of a query that stands for one filter. -/
def Tree.StandsAlone : Tree → Prop
  | .term _ | .range _               => True
  | .single _ g | .binary _ _ _ g    => g.field.isSome

theorem map_singleton {ε α : Type} (x : Except ε α) :
    (do pure [← x] : Except ε (List α)) = x.map fun a => [a] := by
  cases x <;> rfl

/-- Walking a part that stands alone gives its filter, unless it lies too deep. -/
theorem walk_of_standsAlone {t : Tree} (h : t.StandsAlone) (q : Request) (topLevel : Bool)
    (depth : Nat) :
    q.walk topLevel depth t =
      if q.maxDepth < depth then .error (.tooDeep q.maxDepth)
      else (clauseFilter q.registry t).map fun f => [f] := by
  cases t with
  | term t | range r => rw [Request.walk, map_singleton]
  | single l g | binary l op r g =>
      rw [Request.walk, map_singleton, if_pos (show g.field.isSome = true from h)]

/-- A clause that stands for a filter. -/
structure Alone (registry : Registry) (f : Filter) (t : Tree) : Prop where
  alone : t.StandsAlone
  filter : clauseFilter registry t = .ok f

/-- A filter with its polarity and a clause for it. -/
structure Entry (P : Filter → Tree → Prop) where
  filter : Filter
  asserted : Bool
  clause : Tree
  holds : P filter clause

namespace Entry
variable {P Q : Filter → Tree → Prop}

def item (e : Entry P) : Item := ⟨e.clause, e.asserted⟩

/-- The same filter with another clause. -/
def map (g : Tree → Tree) (h : ∀ f t, P f t → Q f (g t)) (e : Entry P) : Entry Q :=
  ⟨e.filter, e.asserted, g e.clause, h _ _ e.holds⟩

/-- The filters of one polarity. -/
def filters (asserted : Bool) (es : List (Entry P)) : List Filter :=
  (es.filter fun e => e.asserted == asserted).map Entry.filter

/-- The first of the entries is kept or dropped by its polarity. -/
theorem filters_cons (b : Bool) (e : Entry P) (es : List (Entry P)) :
    filters b (e :: es) = Request.keep (e.asserted != b) (e.filter :: filters b es) := by
  unfold filters Request.keep
  by_cases h : e.asserted = b
  · simp [h]
  · simp [h]

theorem filters_append (b : Bool) (es es' : List (Entry P)) :
    filters b (es ++ es') = filters b es ++ filters b es' := by
  simp only [filters, List.filter_append, List.map_append]

/-- The filters do not depend on the clauses. -/
theorem filters_map (b : Bool) (g : Tree → Tree) (h : ∀ f t, P f t → Q f (g t))
    (es : List (Entry P)) : filters b (es.map (map g h)) = filters b es := by
  rw [filters, List.filter_map, List.map_map]
  rfl

theorem filters_of_same {b : Bool} {es : List (Entry P)} (h : ∀ e ∈ es, e.asserted = b) :
    filters b es = es.map Entry.filter := by
  rw [filters, List.filter_eq_self.mpr fun e he => by simpa using h e he]

theorem filters_of_other {b : Bool} {es : List (Entry P)} (h : ∀ e ∈ es, e.asserted ≠ b) :
    filters b es = [] := by
  rw [filters, List.filter_eq_nil_iff.mpr fun e he => by simpa using h e he, List.map_nil]

end Entry

/-- The items of filters of one polarity whose clauses are of a kind. -/
theorem itemsOf_of_serialize {P : Filter → Tree → Prop} (b : Bool) {fs : List Filter}
    (h : ∀ f ∈ fs, ∃ t, f.serialize = .ok t ∧ P f t) :
    ∃ es : List (Entry P), itemsOf b fs = .ok (es.map Entry.item) ∧
      es.map Entry.filter = fs ∧ ∀ e ∈ es, e.asserted = b := by
  induction fs with
  | nil => exact ⟨[], rfl, rfl, by simp⟩
  | cons f fs ih =>
      obtain ⟨t, ht, hp⟩ := h f (List.mem_cons_self ..)
      obtain ⟨es, hi, hfs, hb⟩ := ih fun g hg => h g (List.mem_cons_of_mem _ hg)
      refine ⟨⟨f, b, t, hp⟩ :: es, ?_, by rw [List.map_cons, hfs], ?_⟩
      · rw [itemsOf] at hi ⊢
        rw [List.mapM_cons, ht, hi]
        rfl
      · intro e he
        rcases List.mem_cons.mp he with rfl | he
        · rfl
        · exact hb e he

/-- The query built of filters whose clauses are of a kind is that of a row of entries, the asserted
ones before the excluded ones. -/
theorem build_eq_queryOf {P : Filter → Tree → Prop} (j : Joiner) {s : Selection}
    (h : ∀ f ∈ s.asserted ++ s.excluded, ∃ t, f.serialize = .ok t ∧ P f t) :
    ∃ es es' : List (Entry P), build s j = .ok (queryOf j ((es ++ es').map Entry.item)) ∧
      es.map Entry.filter = s.asserted ∧ es'.map Entry.filter = s.excluded ∧
      (∀ e ∈ es, e.asserted = true) ∧ ∀ e ∈ es', e.asserted = false := by
  obtain ⟨es, he, hes, hb⟩ := itemsOf_of_serialize true
    fun f hf => h f (List.mem_append_left _ hf)
  obtain ⟨es', he', hes', hb'⟩ := itemsOf_of_serialize false
    fun f hf => h f (List.mem_append_right _ hf)
  refine ⟨es, es', ?_, hes, hes', hb, hb'⟩
  rw [build, he, he', List.map_append]
  rfl

/-- The entries of a query that is built are those of its selection. -/
theorem filters_of_sides {P : Filter → Tree → Prop} {s : Selection} {es es' : List (Entry P)}
    (hes : es.map Entry.filter = s.asserted) (hes' : es'.map Entry.filter = s.excluded)
    (hb : ∀ e ∈ es, e.asserted = true) (hb' : ∀ e ∈ es', e.asserted = false) :
    (es ++ es').length = s.asserted.length + s.excluded.length ∧
      Entry.filters true (es ++ es') = s.asserted ∧
      Entry.filters false (es ++ es') = s.excluded := by
  refine ⟨?_, ?_, ?_⟩
  · rw [List.length_append, ← hes, ← hes', List.length_map, List.length_map]
  · rw [Entry.filters_append, Entry.filters_of_same hb, hes,
      Entry.filters_of_other fun e he => by simp [hb' e he], List.append_nil]
  · rw [Entry.filters_append, Entry.filters_of_other fun e he => by simp [hb e he],
      Entry.filters_of_same hb', hes', List.nil_append]

/-- The query built of filters whose clauses are of a kind is that of a row of entries. -/
theorem build_of_serialize {P : Filter → Tree → Prop} (j : Joiner) {s : Selection}
    (h : ∀ f ∈ s.asserted ++ s.excluded, ∃ t, f.serialize = .ok t ∧ P f t) :
    ∃ es : List (Entry P), build s j = .ok (queryOf j (es.map Entry.item)) ∧
      es.length = s.asserted.length + s.excluded.length ∧
      Entry.filters true es = s.asserted ∧ Entry.filters false es = s.excluded := by
  obtain ⟨es, es', hbuild, hes, hes', hb, hb'⟩ := build_eq_queryOf j h
  exact ⟨es ++ es', hbuild, filters_of_sides hes hes' hb hb'⟩

/-! ### Rows -/

theorem keep_singleton_append (drop : Bool) (f : Filter) (fs : List Filter) :
    Request.keep drop [f] ++ fs = Request.keep drop (f :: fs) := by
  cases drop <;> rfl

/-- Behind the operator of an entry walking drops exactly the entries of the other polarity. -/
theorem dropsAfter?_before (q : Request) (i : Item) :
    q.dropsAfter? (q.joiner.before i) = some (i.asserted != q.asserted) := by
  obtain ⟨registry, joiner, asserted, maxDepth⟩ := q
  obtain ⟨tree, polarity⟩ := i
  cases joiner <;> cases polarity <;> cases asserted <;> rfl

/-- The first clause of a query is dropped by what opens the query. -/
theorem dropsFirst_start (q : Request) (i : Item) :
    q.dropsFirst { start := i.start } = (i.asserted != q.asserted) := by
  obtain ⟨registry, joiner, asserted, maxDepth⟩ := q
  obtain ⟨tree, polarity⟩ := i
  cases polarity <;> cases asserted <;> rfl

/-- The given filters, unless they lie too deep. -/
def unlessDeep (q : Request) (depth : Int) (fs : List Filter) : Except Refusal (List Filter) :=
  if q.maxDepth < depth then .error (.tooDeep q.maxDepth) else .ok fs

theorem unlessDeep_of_lt {q : Request} {depth : Int} (h : q.maxDepth < depth)
    (fs : List Filter) : unlessDeep q depth fs = .error (.tooDeep q.maxDepth) :=
  if_pos h

theorem unlessDeep_of_not_lt {q : Request} {depth : Int} (h : ¬ q.maxDepth < depth)
    (fs : List Filter) : unlessDeep q depth fs = .ok fs :=
  if_neg h

/-- Walking the clause of an entry gives its filter, unless it lies too deep. -/
theorem walk_clause (q : Request) (e : Entry (Alone q.registry)) (topLevel : Bool) (depth : Nat) :
    q.walk topLevel depth e.clause = unlessDeep q depth [e.filter] := by
  rw [walk_of_standsAlone e.holds.alone, e.holds.filter]
  rfl

/-- A group of one clause that nothing but an opening `NOT` surrounds. -/
theorem walk_single (q : Request) (e : Entry (Alone q.registry)) (start : Option Operator)
    (topLevel : Bool) (depth : Nat) :
    q.walk topLevel depth (.single e.clause { start }) =
      unlessDeep q (depth + 1 : Nat)
        (Request.keep (topLevel && q.dropsFirst { start }) [e.filter]) := by
  rw [Request.walk, walk_clause]
  by_cases h₀ : q.maxDepth < depth
  · rw [if_pos h₀, unlessDeep_of_lt (by omega)]
  · rw [if_neg h₀, if_neg (by simp), if_neg (by simp)]
    by_cases h₁ : q.maxDepth < (depth + 1 : Nat)
    · rw [unlessDeep_of_lt h₁, unlessDeep_of_lt h₁]
      rfl
    · rw [unlessDeep_of_not_lt h₁, unlessDeep_of_not_lt h₁]
      rfl

/-- A group that nothing but an opening `NOT` surrounds, with a clause on its left. -/
theorem walk_binary (q : Request) (e : Entry (Alone q.registry)) (next : Item) (right : Tree)
    (start : Option Operator) (topLevel : Bool) (depth : Nat) {last : Nat} {fs : List Filter}
    (hlast : depth < last) (hr : q.walk false (depth + 1) right = unlessDeep q last fs) :
    q.walk topLevel depth (.binary e.clause (q.joiner.before next) right { start }) =
      unlessDeep q last
        (Request.keep (topLevel && q.dropsFirst { start }) [e.filter] ++
          Request.keep (next.asserted != q.asserted) fs) := by
  rw [Request.walk, walk_clause, hr, dropsAfter?_before]
  by_cases h₀ : q.maxDepth < depth
  · rw [if_pos h₀, unlessDeep_of_lt (by omega)]
  · rw [if_neg h₀, if_neg (by simp), if_neg (by simp)]
    by_cases h₁ : q.maxDepth < (depth + 1 : Nat)
    · rw [unlessDeep_of_lt h₁, unlessDeep_of_lt (by omega : q.maxDepth < last),
        unlessDeep_of_lt (by omega)]
      rfl
    · rw [unlessDeep_of_not_lt h₁]
      by_cases h₂ : q.maxDepth < last
      · rw [unlessDeep_of_lt h₂, unlessDeep_of_lt h₂]
        rfl
      · rw [unlessDeep_of_not_lt h₂, unlessDeep_of_not_lt h₂]
        rfl

/-- **The filters of a row.**  The first filter is among them whatever its polarity; what stands
before the row decides about it. -/
theorem walk_rowOf (q : Request) (e : Entry (Alone q.registry))
    (es : List (Entry (Alone q.registry))) (depth : Nat) :
    q.walk false depth (rowOf q.joiner e.item (es.map Entry.item)) =
      unlessDeep q (depth + es.length) (e.filter :: Entry.filters q.asserted es) := by
  induction es generalizing e depth with
  | nil => exact walk_clause q e false depth
  | cons next es ih =>
      have hr := ih next (depth + 1)
      rw [List.map_cons, rowOf, Entry.filters_cons, List.length_cons]
      rw [show ((depth + 1 : Nat) : Int) + es.length = ((depth + (es.length + 1) : Nat) : Int) by
        omega] at hr
      exact walk_binary q e next.item _ none false depth (by omega) hr

/-- The filters of one polarity in the query of a row of entries. -/
theorem deserialize_queryOf (q : Request) (e : Entry (Alone q.registry))
    (es : List (Entry (Alone q.registry))) {t : Tree}
    (ht : queryOf q.joiner ((e :: es).map Entry.item) = some t) :
    deserialize t q true =
      unlessDeep q (max 1 es.length : Nat) (Entry.filters q.asserted (e :: es)) := by
  rw [deserialize, Entry.filters_cons]
  cases es with
  | nil =>
      cases ht
      rw [show e.item.tree = e.clause from rfl, walk_single, dropsFirst_start]
      rfl
  | cons next es =>
      cases ht
      have hr := walk_rowOf q next es 1
      rw [show ((1 : Nat) : Int) + es.length = ((max 1 (next :: es).length : Nat) : Int) by
        simp only [List.length_cons]; omega] at hr
      rw [show e.item.tree = e.clause from rfl,
        walk_binary q e next.item _ e.item.start true 0 (by omega) hr, dropsFirst_start,
        Entry.filters_cons, Bool.true_and, keep_singleton_append]
      rfl

/-- **Splitting the query of a row of entries** gives their filters by polarity if the row lies
within the depth. -/
theorem split_queryOf {registry : Registry} (j : Joiner) (d : Int)
    (es : List (Entry (Alone registry))) :
    split (queryOf j (es.map Entry.item)) registry j d =
      if es.length = 0 ∨ (max 1 (es.length - 1) : Int) ≤ d then
        .ok ⟨Entry.filters true es, Entry.filters false es⟩
      else .error (.tooDeep d) := by
  cases es with
  | nil => rfl
  | cons e es =>
      obtain ⟨t, ht⟩ : ∃ t, queryOf j ((e :: es).map Entry.item) = some t := by
        cases es <;> exact ⟨_, rfl⟩
      have hd (b : Bool) := deserialize_queryOf ⟨registry, j, b, d⟩ e es ht
      rw [ht, split, hd true, hd false]
      by_cases h : d < (max 1 es.length : Nat)
      · rw [unlessDeep_of_lt h, unlessDeep_of_lt h,
          if_neg (by simp only [List.length_cons]; omega)]
        rfl
      · rw [unlessDeep_of_not_lt h, unlessDeep_of_not_lt h,
          if_pos (.inr (by simp only [List.length_cons]; omega))]
        rfl

/-! ### The clauses of expressible filters -/

theorem modifier?_plainTermOf (field text : String) (quoted : Bool) :
    (plainTermOf field text quoted).modifier? = none := rfl

/-- A plain term under a field of the registry is read as a value of that field. -/
theorem clauseFilter_plainTermOf {registry : Registry} {f : Field} (hf : f ∈ registry.fields)
    (text : String) (quoted : Bool) :
    clauseFilter registry (.term (plainTermOf f.name text quoted)) =
      termFilter (plainTermOf f.name text quoted) f := by
  simp only [clauseFilter, modifier?_plainTermOf]
  rw [show (plainTermOf f.name text quoted).field = f.name from rfl, Registry.find_of_mem hf]
  rfl

theorem clauseFilter_range {registry : Registry} {f : Field} (hf : f ∈ registry.fields)
    (low high : String) :
    clauseFilter registry (.range { field := f.name, low, high }) =
      rangeFilter { field := f.name, low, high } f := by
  simp only [clauseFilter, Registry.find_of_mem hf]
  rfl

theorem enumTerms_enumChain (item : String) (items : List String) :
    enumTerms (enumChain item items) = .ok (item :: items) := by
  induction items generalizing item with
  | nil => rfl
  | cons next items ih => simp only [enumChain, enumTerms, ih]; rfl

/-- The items of the group of some selected values. -/
theorem enumTerms_enumGroup (field : String) {items : List String} (h : items ≠ []) :
    enumTerms (enumGroup field items) = .ok items := by
  cases items with
  | nil => exact absurd rfl h
  | cons item items =>
      cases items with
      | nil => rfl
      | cons next items => simp only [enumGroup, enumTerms, enumTerms_enumChain]; rfl

/-- A group under an enum field, with the terms it holds. -/
theorem clauseFilter_group {registry : Registry} {f : Field} (hf : f ∈ registry.fields)
    (ht : f.type = .enum) {t : Tree} (hg : t.grouping.field = some f.name) {items : List String}
    (h : enumTerms t = .ok items) :
    clauseFilter registry t = .ok ⟨f, .enum items, ht.symm⟩ := by
  cases t with
  | term t | range r => cases hg
  | single l g | binary l op r g =>
      simp only [Tree.grouping] at hg
      simp only [clauseFilter, hg, Option.getD_some, Registry.find_of_mem hf]
      change groupFilter _ f = _
      rw [groupFilter, dif_pos ht, h]

theorem grouping_enumGroup (field : String) (items : List String) :
    (enumGroup field items).grouping = { field := some field, parenthesized := true } := by
  unfold enumGroup
  split <;> rfl

theorem standsAlone_of_field {t : Tree} {name : String} (h : t.grouping.field = some name) :
    t.StandsAlone := by
  cases t with
  | term t | range r => trivial
  | single l g | binary l op r g => exact Option.isSome_iff_exists.mpr ⟨name, h⟩

/-- **The clause of an expressible filter** stands alone and gives the filter back. -/
theorem serialize_expresses {registry : Registry} {f : Filter} (h : f.ExpressibleIn registry) :
    ∃ t, f.serialize = .ok t ∧ Alone registry f t := by
  obtain ⟨⟨name, displayName, type, default, minimum, maximum, options, autocomplete, hdef⟩,
    value, fits⟩ := f
  obtain ⟨hf, hv⟩ := h
  simp only at hf hv fits
  subst fits
  cases value with
  | string s => exact ⟨_, rfl, trivial, clauseFilter_plainTermOf hf _ _⟩
  | boolean b =>
      exact ⟨_, rfl, trivial, (clauseFilter_plainTermOf hf _ _).trans (by cases b <;> rfl)⟩
  | integer i =>
      have hi : Numeral.Short i := hv
      refine ⟨_, Filter.serialize_integer rfl (Numeral.write_of_short hi), trivial,
        (clauseFilter_plainTermOf hf _ _).trans ?_⟩
      simp only [termFilter, plainTermOf, readInteger_ofInt hi]
      rfl
  | float x =>
      obtain ⟨s, hs, hr⟩ := Number.ReadsBack.text_ok hv
      refine ⟨_, Filter.serialize_float rfl hs, trivial, (clauseFilter_plainTermOf hf _ _).trans ?_⟩
      simp only [termFilter, plainTermOf, hr]
      rfl
  | integerRange low high =>
      obtain ⟨hl, hh⟩ : Numeral.Short low ∧ Numeral.Short high := hv
      refine ⟨_, Filter.serialize_integerRange rfl (Numeral.write_of_short hl)
        (Numeral.write_of_short hh), trivial, (clauseFilter_range hf _ _).trans ?_⟩
      simp only [rangeFilter, readInteger_ofInt hl, readInteger_ofInt hh]
      rfl
  | floatRange low high =>
      obtain ⟨l, hl, hl'⟩ := Number.ReadsBack.text_ok hv.1
      obtain ⟨u, hu, hu'⟩ := Number.ReadsBack.text_ok hv.2
      refine ⟨_, Filter.serialize_floatRange rfl hl hu, trivial,
        (clauseFilter_range hf _ _).trans ?_⟩
      simp only [rangeFilter, hl', hu']
      rfl
  | enum items =>
      have hg := congrArg Grouping.field (grouping_enumGroup name items)
      exact ⟨_, rfl, standsAlone_of_field hg,
        clauseFilter_group hf rfl hg (enumTerms_enumGroup _ hv)⟩

/-- A selection whose query lies within a depth: it has no filters, or the row of them is short
enough. -/
def Selection.Within (s : Selection) (d : Int) : Prop :=
  s.asserted.length + s.excluded.length = 0 ∨
    (max 1 ((s.asserted.length + s.excluded.length : Nat) - 1) : Int) ≤ d

instance (s : Selection) (d : Int) : Decidable (s.Within d) := inferInstanceAs (Decidable (_ ∨ _))

/-- The query of expressible filters splits into these filters unless it nests too deep. -/
theorem split_of_expressible {registry : Registry} (j : Joiner) {s : Selection} (d : Int)
    (h : ∀ f ∈ s.asserted ++ s.excluded, f.ExpressibleIn registry) :
    ∃ t, build s j = .ok t ∧
      split t registry j d = if s.Within d then .ok s else .error (.tooDeep d) := by
  obtain ⟨es, hb, hl, ha, he⟩ := build_of_serialize j fun f hf => serialize_expresses (h f hf)
  refine ⟨_, hb, ?_⟩
  rw [split_queryOf, ha, he]
  simp only [Selection.Within, ← hl]

/-- A field of integers without bounds. -/
def Field.ofIntegers (name displayName : String) : Field where
  name := name
  displayName := displayName
  type := .integer
  default := .integer 0
  default_type := rfl

namespace Selection

/-- A text, a price range and a colour. -/
def sampleFields : Registry where
  fields := Registry.implicit.fields ++
    [{ name := "price", displayName := "Price", type := .floatRange,
       default := .floatRange (.int 0) (.int 0), default_type := rfl },
     { name := "color", displayName := "Colour", type := .enum, default := .enum [],
       options := [("red", "Red"), ("OR", "Orange")], default_type := rfl }]
  nodup := by decide

/-- A quoted text and two colours are asserted, prices from -1.5 to 0.25 excluded. -/
def sample : Selection where
  asserted :=
    [⟨sampleFields.fields[0], .string "say \"(no)\"", rfl⟩,
     ⟨sampleFields.fields[2], .enum ["red", "OR"], rfl⟩]
  excluded :=
    [⟨sampleFields.fields[1],
      .floatRange (.float (.ofDecimal true 15 (-1))) (.float (.ofDecimal false 25 (-2))), rfl⟩]

theorem sample_expressible :
    ∀ f ∈ sample.asserted ++ sample.excluded, f.ExpressibleIn sampleFields := by
  have bounds : Number.ReadsBack (.float (.ofDecimal true 15 (-1))) ∧
      Number.ReadsBack (.float (.ofDecimal false 25 (-2))) := by decide +kernel
  intro f hf
  simp only [sample, List.cons_append, List.nil_append, List.mem_cons, List.not_mem_nil,
    or_false] at hf
  rcases hf with rfl | rfl | rfl
  · exact ⟨by simp [sampleFields], trivial⟩
  · exact ⟨by simp [sampleFields], List.cons_ne_nil _ _⟩
  · exact ⟨by simp [sampleFields], bounds⟩

end Selection

end SearchFilters
