import SearchFilters.Proofs.Filter.Symbols
import SearchFilters.Proofs.Filter.Writable

/-!
# Proofs — Filter — Editing

Queries whose filters are taken out, put together again, printed and read.

The filters of a query that was read can be written again (`writable_of_split`), so that they make
up a row of clauses, and the text of a row reads as the row as long as each clause fits behind those
before it (`split_text_of_fits`).  A clause that does not fit is a word like an operator in symbols,
behind a clause without an operator (`Filter.Symbolic`).  The first such clause is where the text
goes wrong: the row before it reads as it should, and behind the row the symbols are an operator of
the outermost node (`mem_operators_of_unfit`).  Filters are not joined by this operator, so that the
text does not split into them, whatever it is read as (`not_split_text_of_unfit`).

* `split_text_iff`: the text of a row splits into its filters exactly if all of them fit.
* `split_rebuilt_iff`: which queries keep their filters.
* `not_split_rebuilt_escapedAmpersands`: a query that does not.
-/

namespace SearchFilters
open Text Query

variable {registry : Registry} {d : Int} {s : Selection} {t : Tree} {x : Filter}

/-! ### Filters that look like operators -/

/-- A filter in the implicit field whose text is written as a word that begins like an operator in
symbols. -/
def Filter.Symbolic (f : Filter) : Prop :=
  f.field.name = implicitField ∧ ∃ text, f.value = .string text ∧ needsQuoting text.toList = false ∧
    ("&&".toList.isPrefixOf text.toList = true ∨ "||".toList.isPrefixOf text.toList = true)

/-- A term is written like an operator only in the implicit field. -/
theorem notSymbolic_of_field {u : Term} (h : u.field ≠ implicitField) :
    (Tree.term u).NotSymbolic := by
  rintro v ⟨⟩ hs
  exact h hs.1

/-- A string is written like an operator exactly if it is written as a word in the implicit field
and begins with the symbols. -/
theorem notSymbolic_plainTermOf {field text : String} :
    (Tree.term (plainTermOf field text false)).NotSymbolic ↔
      ¬(field = implicitField ∧ needsQuoting text.toList = false ∧
        ("&&".toList.isPrefixOf text.toList = true ∨
          "||".toList.isPrefixOf text.toList = true)) := by
  constructor
  · rintro h ⟨hf, hq, hp⟩
    refine h _ rfl ⟨hf, rfl, ?_, rfl, hp⟩
    have hne : text.isEmpty = false := by
      rw [← Bool.not_eq_true, String.isEmpty_iff]
      rintro rfl
      simp at hp
    rw [plainTermOf, hne, hq]
    rfl
  · rintro h u ⟨⟩ ⟨hf, -, hq, -, hp⟩
    refine h ⟨hf, ?_, hp⟩
    simp only [plainTermOf, Bool.or_eq_false_iff] at hq
    exact hq.2

/-- **A filter is written like an operator** exactly if its text is one that looks like it. -/
theorem notSymbolic_of_serialize (himp : x.field.name = implicitField → x.field.type = .string)
    (h : x.serialize = .ok t) : t.NotSymbolic ↔ ¬x.Symbolic := by
  obtain ⟨field, value, fits⟩ := x
  by_cases hs : ∃ text, value = .string text
  · obtain ⟨text, rfl⟩ := hs
    cases h
    rw [notSymbolic_plainTermOf, Filter.Symbolic]
    simp
  · have hfield : field.name ≠ implicitField := by
      intro hn
      have ht : value.type = .string := fits.trans (himp hn)
      cases value <;> first | exact hs ⟨_, rfl⟩ | cases ht
    refine iff_of_true ?_ fun h => hfield h.1
    cases value with
    | string text => exact absurd ⟨text, rfl⟩ hs
    | boolean b => cases h; exact notSymbolic_of_field hfield
    | enum items =>
        cases h
        exact Tree.notSymbolic_of_parenthesized (by rw [grouping_enumGroup])
    | integer i | float y =>
        simp only [Filter.serialize] at h
        obtain ⟨w, -, h⟩ := bind_eq_ok_iff.mp h
        cases h
        exact notSymbolic_of_field hfield
    | integerRange low high | floatRange low high =>
        simp only [Filter.serialize] at h
        obtain ⟨l, -, h⟩ := bind_eq_ok_iff.mp h
        obtain ⟨u, -, h⟩ := bind_eq_ok_iff.mp h
        cases h
        rintro u ⟨⟩

/-- A clause that a filter is written as. -/
structure Writes (registry : Registry) (f : Filter) (t : Tree) : Prop where
  expresses : Expresses registry f t
  notSymbolic : t.NotSymbolic ↔ ¬f.Symbolic

/-- The clause of a filter that can be written looks like an operator exactly if the filter does. -/
theorem serialize_writes (hlaw : ∀ f ∈ registry.fields, f.Lawful) (h : x.WritableIn registry) :
    ∃ t, x.serialize = .ok t ∧ Writes registry x t := by
  obtain ⟨t, ht, he⟩ := serialize_writable hlaw h
  exact ⟨t, ht, he, notSymbolic_of_serialize (hlaw _ h.expressible.1).type_of_implicit ht⟩

/-! ### Entries behind each other -/

/-- Behind another entry one does not fit that is asserted and written like an operator, where
filters are joined without one. -/
theorem not_fits_iff {P : Filter → Tree → Prop} {j : Joiner} {e : Entry P} :
    ¬e.Fits j ↔ (j = .implicit ∧ e.asserted = true) ∧ ¬e.clause.NotSymbolic := by
  rw [Entry.Fits, Classical.not_imp, before_eq_implicit_iff]
  rfl

/-- The first entry that does not fit. -/
theorem exists_first_unfit {P : Filter → Tree → Prop} {j : Joiner} {es : List (Entry P)}
    (h : ¬∀ e ∈ es, e.Fits j) :
    ∃ as x bs, es = as ++ x :: bs ∧ (∀ e ∈ as, e.Fits j) ∧ ¬x.Fits j := by
  induction es with
  | nil => exact absurd (by simp) h
  | cons e es ih =>
      by_cases he : e.Fits j
      · obtain ⟨as, x, bs, rfl, has, hx⟩ := ih fun h' => h (List.forall_mem_cons.mpr ⟨he, h'⟩)
        exact ⟨e :: as, x, bs, rfl, List.forall_mem_cons.mpr ⟨he, has⟩, hx⟩
      · exact ⟨[], e, es, rfl, by simp, he⟩

/-! ### The texts of rows -/

/-- The row of a clause that can be written and of those behind it has a text, which begins as the
clause does. -/
theorem chars_rowOf (j : Joiner) (e : Entry (Expresses registry))
    (es : List (Entry (Expresses registry))) :
    ∃ u v, e.clause.chars = .ok u ∧
      (rowOf j e.item (es.map Entry.item)).chars = .ok (u ++ v) ∧ EndsTight (u ++ v) := by
  obtain ⟨u, hu, hc⟩ := (Tree.prints e.clause).clause e.holds.readable
  induction es generalizing e u with
  | nil =>
      refine ⟨u, [], hu, ?_, ?_⟩
      · rw [List.append_nil]
        exact hu
      · rw [List.append_nil]
        exact hc.tight (Tree.tight_collapseRights e.holds.tight)
  | cons next es ih =>
      obtain ⟨w, hw, hc'⟩ := (Tree.prints next.clause).clause next.holds.readable
      obtain ⟨_, v, -, hv, htight⟩ := ih next w hw hc'
      refine ⟨u, _, hu, ?_, (htight.append (j.before next.item).separator).append u⟩
      rw [← List.append_assoc]
      exact Tree.chars_binary hu hv (j.before next.item) {}

/-- The text of a row is that of its first clauses, an operator and that of its other clauses. -/
theorem chars_rowOf_append (j : Joiner) (i next : Item) (is js : List Item) {u v : List Char}
    (hu : (rowOf j i is).chars = .ok u) (hv : (rowOf j next js).chars = .ok v) :
    (rowOf j i (is ++ next :: js)).chars = .ok (u ++ (j.before next).separator ++ v) := by
  induction is generalizing i u with
  | nil => exact Tree.chars_binary hu hv (j.before next) {}
  | cons i' is ih =>
      obtain ⟨w, w', hw, hw', rfl⟩ := Tree.chars_binary_eq_ok hu
      refine (Tree.chars_binary hw (ih i' hw') (j.before i') {}).trans (congrArg Except.ok ?_)
      have bare (s : List Char) : Grouping.wrap {} s = s := rfl
      simp only [bare, List.append_assoc]

/-- The text of a query is that of its row behind what opens it. -/
theorem chars_queryOf (j : Joiner) (i : Item) (is : List Item) {w : List Char}
    (h : (rowOf j i is).chars = .ok w) : ∃ t, queryOf j (i :: is) = some t ∧
      t.chars = .ok (Grouping.startText { start := i.start } ++ w) := by
  cases is with
  | nil => exact ⟨_, rfl, Tree.chars_single h _⟩
  | cons next is =>
      obtain ⟨u, v, hu, hv, rfl⟩ := Tree.chars_binary_eq_ok h
      exact ⟨_, rfl, Tree.chars_binary hu hv _ _⟩

/-- **Behind a row an entry that does not fit is read as an operator.** -/
theorem mem_operators_of_unfit {j : Joiner} (e : Entry (Expresses registry))
    {x : Entry (Expresses registry)} {es : List (Entry (Expresses registry))}
    (xs : List (Entry (Expresses registry))) (h : ∀ x ∈ es, x.Fits j) (hx : ¬x.Fits j) :
    ∃ text, printQuery (queryOf j ((e :: (es ++ x :: xs)).map Entry.item)) = .ok text ∧
      ∀ u, parse text = .ok (some u) → .and ∈ u.operators ∨ .or ∈ u.operators := by
  obtain ⟨hi, hs⟩ := Classical.not_imp.mp hx
  -- the text of the entries that fit
  obtain ⟨t, _, ht, -, hread⟩ := readsAsQuery_queryOf e h
  obtain ⟨a, b, -, hrow, -⟩ := chars_rowOf j e es
  obtain ⟨t', ht', hw⟩ := chars_queryOf j e.item _ hrow
  cases ht.symm.trans ht'
  -- the text behind it
  obtain ⟨c, v, hc, hv, htight⟩ := chars_rowOf j x xs
  obtain ⟨sym, op, s, hsym, rfl⟩ := chars_of_symbolic x.holds.readable hs hc
  obtain ⟨u, hu, hw'⟩ := chars_queryOf j e.item _ (chars_rowOf_append j _ _ _ _ hrow hv)
  have whole : u.print = .ok (String.ofList (Grouping.startText { start := e.item.start } ++
      (a ++ b) ++ ' ' :: sym :: sym :: (s ++ v))) := by
    rw [Tree.print, hw', hi, List.append_assoc (a ++ b), ← List.append_assoc]
    rfl
  refine ⟨_, Eq.trans ?_ whole, fun r hr => ?_⟩
  · rw [List.map_cons, List.map_append, List.map_cons, hu, printQuery]
  · have hop := mem_operators_of_symbol hread.readable hread.group hw hsym
      ((htight.append [' ']).append _) hr
    cases hsym with
    | and => exact .inl hop
    | or => exact .inr hop

/-! ### The edit cycle -/

/-- The entries of a selection fit behind each other if no asserted filter but the first is written
like an operator. -/
theorem fits_iff {j : Joiner} {es es' : List (Entry (Writes registry))}
    (hes : es.map Entry.filter = s.asserted) (hb : ∀ e ∈ es, e.asserted = true)
    (hb' : ∀ e ∈ es', e.asserted = false) :
    (∀ e ∈ (es ++ es').tail, e.Fits j) ↔ (j = .implicit → ∀ f ∈ s.asserted.tail, ¬f.Symbolic) := by
  have excluded : ∀ e ∈ es', e.Fits j := by
    intro e he
    by_contra h
    exact Bool.false_ne_true ((hb' e he).symm.trans (not_fits_iff.mp h).1.2)
  cases es with
  | nil =>
      rw [← hes]
      exact iff_of_true (fun e he => excluded e (List.mem_of_mem_tail he)) (by simp)
  | cons e es =>
      rw [← hes, List.map_cons, List.tail_cons, List.cons_append, List.tail_cons,
        List.forall_mem_map]
      constructor
      · intro h hj x hx
        exact x.holds.notSymbolic.mp (h x (List.mem_append_left _ hx)
          (before_eq_implicit_iff.mpr ⟨hj, hb x (List.mem_cons_of_mem _ hx)⟩))
      · intro h x hx
        rcases List.mem_append.mp hx with hx | hx
        · exact fun hi => x.holds.notSymbolic.mpr (h (before_eq_implicit_iff.mp hi).1 x hx)
        · exact excluded x hx

/-- The text of entries that fit behind each other splits into their filters. -/
theorem split_text_of_fits {j : Joiner} {es : List (Entry (Expresses registry))}
    (hd : es.length = 0 ∨ (max 1 (es.length - 1) : Int) ≤ d) (h : ∀ e ∈ es.tail, e.Fits j) :
    ∃ text v, printQuery (queryOf j (es.map Entry.item)) = .ok text ∧ parse text = .ok v ∧
      split v registry j d = .ok ⟨Entry.filters true es, Entry.filters false es⟩ := by
  obtain ⟨text, hprint, hparse⟩ := parse_print_queryOf_of_fits h
  refine ⟨text, _, hprint, hparse, ?_⟩
  rw [split_queryOf, if_pos (by rwa [List.length_map]), filters_reread, filters_reread]

/-- A row with an entry that does not fit has a text that does not split into its filters: behind
the entries before, that one is read as an operator which joins no filters. -/
theorem not_split_text_of_unfit {j : Joiner} {es : List (Entry (Expresses registry))}
    (h : ¬∀ e ∈ es.tail, e.Fits j) :
    ∃ text, printQuery (queryOf j (es.map Entry.item)) = .ok text ∧ ∀ v, parse text = .ok v →
      split v registry j d ≠ .ok ⟨Entry.filters true es, Entry.filters false es⟩ := by
  cases es with
  | nil => exact absurd (by simp) h
  | cons e rest =>
      obtain ⟨as, x, bs, rfl, has, hx⟩ := exists_first_unfit h
      obtain ⟨⟨rfl, hasserted⟩, -⟩ := not_fits_iff.mp hx
      obtain ⟨text, hprint, hops⟩ := mem_operators_of_unfit e bs has hx
      refine ⟨text, hprint, fun v hv hsplit => ?_⟩
      cases v with
      | none =>
          have hmem : x.filter ∈ Entry.filters true (e :: (as ++ x :: bs)) :=
            List.mem_map_of_mem (List.mem_filter.mpr ⟨by simp, by simpa using hasserted⟩)
          obtain ⟨h, -⟩ := Selection.mk.inj (Except.ok.inj hsplit)
          rw [← h] at hmem
          cases hmem
      | some u =>
          obtain ⟨ho, hg, -⟩ := row_of_split hv hsplit
          have joins := joins_of_split hg ho.field hsplit
          rcases hops u hv with h | h <;> rcases joins _ h with h | h <;> cases h

/-- **The text of a row of entries** splits into their filters exactly if the entries fit behind
each other. -/
theorem split_text_iff (j : Joiner) (es : List (Entry (Expresses registry)))
    (hd : es.length = 0 ∨ (max 1 (es.length - 1) : Int) ≤ d) :
    ∃ text, printQuery (queryOf j (es.map Entry.item)) = .ok text ∧
      ((∃ v, parse text = .ok v ∧
          split v registry j d = .ok ⟨Entry.filters true es, Entry.filters false es⟩) ↔
        ∀ e ∈ es.tail, e.Fits j) := by
  by_cases h : ∀ e ∈ es.tail, e.Fits j
  · obtain ⟨text, v, hprint, hparse, hsplit⟩ := split_text_of_fits hd h
    exact ⟨text, hprint, iff_of_true ⟨v, hparse, hsplit⟩ h⟩
  · obtain ⟨text, hprint, hsplit⟩ := not_split_text_of_unfit h
    exact ⟨text, hprint, iff_of_false (fun ⟨v, hv, hs⟩ => hsplit v hv hs) h⟩

/-- **The edit cycle.**  The filters of a query are built, printed, read and split again.  This
gives them back exactly if none of the asserted ones but the first is written like an operator,
where filters are joined without one. -/
theorem split_rebuilt_iff (hlaw : ∀ f ∈ registry.fields, f.Lawful) {q : String} {t : Option Tree}
    {j : Joiner} (hp : parse q = .ok t) (h : split t registry j d = .ok s)
    (hr : ∀ f ∈ s.asserted ++ s.excluded, f.value.FloatsReadBack) :
    ∃ u text, build s j = .ok u ∧ printQuery u = .ok text ∧
      ((∃ v, parse text = .ok v ∧ split v registry j d = .ok s) ↔
        (j = .implicit → ∀ f ∈ s.asserted.tail, ¬f.Symbolic)) := by
  obtain ⟨hw, hd⟩ := writable_of_split hp h hr
  obtain ⟨es, es', hbuild, hes, hes', hb, hb'⟩ :=
    build_eq_queryOf j fun f hf => serialize_writes hlaw (hw f hf)
  obtain ⟨hlen, ha, he⟩ := filters_of_sides hes hes' hb hb'
  let expresses : Entry (Writes registry) → Entry (Expresses registry) :=
    Entry.map id fun _ _ => Writes.expresses
  obtain ⟨text, hprint, hsplit⟩ := split_text_iff j ((es ++ es').map expresses)
    (by rwa [List.length_map, hlen])
  refine ⟨_, text, hbuild, ?_, ?_⟩
  · rwa [List.map_map] at hprint
  · rw [Entry.filters_map, Entry.filters_map, ha, he, ← List.map_tail, List.forall_mem_map] at hsplit
    exact hsplit.trans (fits_iff hes hb hb')

/-- The query `NOT price:[-1.5 TO 0.25] \||a`. -/
def Tree.barsBehindRange : Tree :=
  .binary (.range { field := "price", low := "-1.5", high := "0.25" }) .implicit
    (.term { text := "||a" }) { start := some .not }

theorem parse_barsBehindRange :
    parse "NOT price:[-1.5 TO 0.25] \\||a" = .ok (some Tree.barsBehindRange) :=
  parse_of_run (by decide +kernel)

/-- What `NOT price:[-1.5 TO 0.25] \||a` selects. -/
def Selection.barsBehindRange : Selection where
  asserted := [.ofWord "||a"]
  excluded := sample.excluded

/-- Its selection: the range is excluded, and the text with the bars is the first asserted filter.
-/
theorem split_barsBehindRange :
    split (some Tree.barsBehindRange) Selection.sampleFields .implicit 256 =
      .ok Selection.barsBehindRange := by
  rfl

theorem Selection.barsBehindRange_readsBack :
    ∀ f ∈ barsBehindRange.asserted ++ barsBehindRange.excluded, f.value.FloatsReadBack := by
  intro f hf
  rcases List.mem_cons.mp hf with rfl | hf
  · trivial
  · exact (sample_expressible f (List.mem_append_right _ hf)).2.floatsReadBack

theorem split_rebuilt_iff_sample :
    (∀ f ∈ Selection.sampleFields.fields, f.Lawful) ∧
    parse "NOT price:[-1.5 TO 0.25] \\||a" = .ok (some Tree.barsBehindRange) ∧
    split (some Tree.barsBehindRange) Selection.sampleFields .implicit 256 =
      .ok Selection.barsBehindRange ∧
    (∀ f ∈ Selection.barsBehindRange.asserted ++ Selection.barsBehindRange.excluded,
      f.value.FloatsReadBack) ∧
    ∃ u text v, build Selection.barsBehindRange .implicit = .ok u ∧ printQuery u = .ok text ∧
      parse text = .ok v ∧
      split v Selection.sampleFields .implicit 256 = .ok Selection.barsBehindRange := by
  obtain ⟨u, text, hb, hp, hstable⟩ := split_rebuilt_iff Selection.sampleFields_lawful
    parse_barsBehindRange split_barsBehindRange Selection.barsBehindRange_readsBack
  obtain ⟨v, hv, hs⟩ := hstable.mpr fun _ => by simp [Selection.barsBehindRange]
  exact ⟨Selection.sampleFields_lawful, parse_barsBehindRange, split_barsBehindRange,
    Selection.barsBehindRange_readsBack, u, text, v, hb, hp, hv, hs⟩

/-- The query `a \&&b`. -/
def Tree.escapedAmpersands : Tree :=
  .binary (.term { text := "a" }) .implicit (.term { text := "&&b" }) {}

theorem parse_escapedAmpersands : parse "a \\&&b" = .ok (some Tree.escapedAmpersands) :=
  parse_of_run (by decide +kernel)

/-- The query `a &&b`. -/
def Tree.joinedByAmpersands : Tree :=
  .binary (.term { text := "a" }) .and (.term { text := "b" }) {}

theorem parse_joinedByAmpersands : parse "a &&b" = .ok (some Tree.joinedByAmpersands) :=
  parse_of_run (by decide +kernel)

/-- **A query whose filters are lost when it is edited**: what is built of the filters of `a \&&b`
is printed as `a &&b`, which no longer splits. -/
theorem not_split_rebuilt_escapedAmpersands :
    parse "a \\&&b" = .ok (some Tree.escapedAmpersands) ∧
      split (some Tree.escapedAmpersands) Registry.implicit .implicit 256 =
        .ok ⟨[.ofWord "a", .ofWord "&&b"], []⟩ ∧
      build ⟨[.ofWord "a", .ofWord "&&b"], []⟩ .implicit = .ok (some Tree.escapedAmpersands) ∧
      printQuery (some Tree.escapedAmpersands) = .ok "a &&b" ∧
      parse "a &&b" = .ok (some Tree.joinedByAmpersands) ∧
      split (some Tree.joinedByAmpersands) Registry.implicit .implicit 256 =
        .error (.rejected (.operator .and)) :=
  ⟨parse_escapedAmpersands, rfl, rfl, rfl, parse_joinedByAmpersands, rfl⟩

end SearchFilters
