import SearchFilters.Proofs.Filter.Splitting
import SearchFilters.Proofs.Number.Text
import SearchFilters.Proofs.Query.RoundTrip

/-!
# Proofs — Filter — Query text

Filters survive the trip through query text: what is built of them, printed, read and split gives
them back.

A filter is written as a clause, the clause is printed and read, and what is read need not be the
clause: a row of enum items comes back with its bare groups left out.  So a clause is asked for
three things (`Expresses`): it can be written, what it is read as stands for the filter too, and
nothing around it is lost where it stands on the right of an operator.  Every filter that can be
written has such a clause (`serialize_writable`), by the type of its value.

A query of entries is a row of their clauses, and it reads as the row of what they read as
(`readsAsQuery_queryOf`), if no clause looks like an operator where it stands.  Both rows have the
same filters, and splitting a row gives them (`split_queryOf`).

* `Field.Lawful`: a field that the rules of fields allow.
* `split_parse_print_build`: the whole trip.
-/

namespace SearchFilters
open Text Query

/-! ### Fields -/

/-- A field that the rules of fields allow. -/
def Field.Lawful (f : Field) : Prop :=
  ∃ name displayName typeName default minimum maximum options autocomplete,
    Field.make name displayName typeName default minimum maximum options autocomplete = .ok f

/-- The implicit field holds strings. -/
theorem Field.Lawful.type_of_implicit {f : Field} (h : f.Lawful) (hn : f.name = implicitField) :
    f.type = .string := by
  obtain ⟨name, displayName, typeName, default, minimum, maximum, options, autocomplete, h⟩ := h
  unfold Field.make at h
  split at h
  · cases h
  · next type _ =>
    split at h
    · cases h
    · split at h
      · cases h
      · next hi =>
        split at h
        · cases h
        · split at h
          · cases h
          · cases h
            exact Decidable.of_not_not fun ht => hi ⟨hn, ht⟩

/-- A filter on a field of the registry with an expressible value, whose field has a name that can
be written. -/
structure Filter.WritableIn (registry : Registry) (f : Filter) : Prop where
  expressible : f.ExpressibleIn registry
  name : Leafy f.field.name

/-! ### Terms -/

/-- A text that needs no quotes has no blanks. -/
theorem not_isBlank_of_needsQuoting {s : List Char} (h : needsQuoting s = false) :
    ∀ c ∈ s, isBlank c = false := by
  simp only [needsQuoting, Bool.or_eq_false_iff, List.any_eq_false] at h
  intro c hc
  have hc := h.2 c hc
  rw [Bool.or_eq_true, not_or, Bool.not_eq_true] at hc
  exact hc.1

/-- A text that needs no quotes can be written as a word. -/
theorem legible_of_needsQuoting {s : List Char} (hne : s ≠ []) (h : needsQuoting s = false) :
    Legible s := by
  refine ⟨hne, fun c hc => ?_⟩
  rw [isLegible, not_isBlank_of_needsQuoting h c hc]
  rfl

/-- A term that is written for a string can be read, and ends in no blank of its own. -/
theorem readable_plainTermOf {field : String} (hf : Leafy field) (text : String) (quoted : Bool) :
    (plainTermOf field text quoted).Readable ∧ (plainTermOf field text quoted).Tight := by
  cases hq : (quoted || text.isEmpty || needsQuoting text.toList) with
  | true =>
      refine ⟨⟨hf, .inl rfl, .inr (.inl ⟨rfl, hq, rfl, ?_, ?_⟩)⟩, fun h => ?_⟩
      · rintro i ⟨⟩
      · rintro x ⟨⟩
      · exact absurd (hq.symm.trans h) (by decide)
  | false =>
      have hq' := hq
      simp only [Bool.or_eq_false_iff] at hq'
      have hb := not_isBlank_of_needsQuoting hq'.2
      have hne : text.toList ≠ [] := by
        intro e
        rw [String.toList_eq_nil_iff] at e
        rw [e] at hq'
        exact absurd hq'.1.2 (by decide)
      refine ⟨⟨hf, .inl rfl,
        .inr (.inr ⟨rfl, hq, legible_of_needsQuoting hne hq'.2, rfl, ?_, ?_⟩)⟩,
        fun _ _ _ _ c hc => hb c (List.mem_of_getLast? hc)⟩
      · rintro x ⟨⟩
      · rintro x ⟨⟩

/-! ### Bounds -/

theorem isBoundChar_of_isTextual {c : Char} (h : Binary64.IsTextual c) : isBoundChar c = true := by
  rcases h with ⟨d, hd, rfl⟩ | h
  · exact (by decide : ∀ d < 10, isBoundChar (Nat.digitChar d) = true) d hd
  · have marks : ∀ c ∈ ['.', '+', '-', 'e', 'i', 'n', 'f', 'a'], isBoundChar c = true :=
      List.all_iff_forall_prop.mp (by decide)
    exact marks c h

/-- A text of a number that reads back is a bound. -/
theorem Number.ReadsBack.bound {x : Number} (h : x.ReadsBack) :
    ∃ s, x.text = .ok s ∧ s ≠ [] ∧ ∀ c ∈ s, isBoundChar c = true := by
  cases x with
  | int i => exact h.elim
  | float b =>
      refine ⟨b.text, rfl, fun e => ?_, fun c hc => isBoundChar_of_isTextual (b.text_chars c hc)⟩
      have h : Binary64.read b.text = some b := h
      rw [e] at h
      cases h

theorem isBoundChar_ofInt (i : Int) : ∀ c ∈ Numeral.ofInt i, isBoundChar c = true := by
  intro c hc
  rcases Numeral.ofInt_chars i c hc with h | rfl
  · exact isBoundChar_of_isTextual (.inl h)
  · decide

theorem readable_range {field : String} (hf : Leafy field) {low high : List Char}
    (hl : low ≠ [] ∧ ∀ c ∈ low, isBoundChar c = true)
    (hh : high ≠ [] ∧ ∀ c ∈ high, isBoundChar c = true) :
    Range.Readable ⟨field, String.ofList low, String.ofList high, .both⟩ := by
  refine ⟨hf, ?_, ?_, true, true, rfl⟩
  · rw [String.toList_ofList]
    exact hl
  · rw [String.toList_ofList]
    exact hh

/-! ### Enum groups -/

theorem enumTerm_readable (item : String) :
    (enumTerm item).Readable Grouping.Enclosed ∧ (enumTerm item).Tight :=
  readable_plainTermOf (.inl rfl) item false

theorem start_enumChain (item : String) (items : List String) :
    (enumChain item items).grouping.start = none := by
  cases items <;> rfl

/-- Any operator stands in front of a right side that `NOT` does not open, the implicit one if the
side is not written like an operator. -/
theorem joins_of_start {op : Operator} (hk : ∀ s, op ≠ .other s) {t : Tree}
    (ht : t.grouping.start = none) (hn : op = .implicit → t.NotSymbolic) : t.Joins op := by
  refine ⟨hk, fun h => ?_, hn⟩
  rw [h.2] at ht
  cases ht

/-- A row of items can stand in parentheses or behind an operator. -/
theorem enumChain_readable (item : String) (items : List String) :
    (enumChain item items).Readable (fun g => g.Enclosed ∨ g.Open) := by
  have bare : Grouping.Open {} := ⟨rfl, .inl rfl, rfl⟩
  induction items generalizing item with
  | nil => exact ⟨.inr bare, (enumTerm_readable item).1⟩
  | cons next items ih =>
      exact ⟨.inr bare, (enumTerm_readable item).1,
        joins_of_start (by simp) (start_enumChain next items) (by simp), ih next⟩

/-- The group of the items is a clause. -/
theorem enumGroup_readable {field : String} (hf : isFieldName field.toList = true)
    (items : List String) :
    (enumGroup field items).Readable Grouping.Enclosed := by
  have enclosed : Grouping.Enclosed { field := some field, parenthesized := true } :=
    ⟨rfl, .inl rfl, fun f h => by cases h; exact hf⟩
  unfold enumGroup
  split
  · exact ⟨enclosed, (enumTerm_readable "").1⟩
  · exact ⟨enclosed, (enumTerm_readable _).1⟩
  · exact ⟨enclosed, (enumTerm_readable _).1,
      joins_of_start (by simp) (start_enumChain ..) (by simp), enumChain_readable ..⟩

/-- Reading an enum group leaves its items as they are. -/
theorem enumTerms_collapse_enumChain (item : String) (items : List String) :
    enumTerms (enumChain item items).collapseRights.unwrapBare = .ok (item :: items) := by
  induction items generalizing item with
  | nil => rfl
  | cons next items ih =>
      change enumTerms (.binary (enumTerm item) .or
        (enumChain next items).collapseRights.unwrapBare {}) = _
      rw [enumTerms, ih]
      rfl

theorem enumTerms_collapse_enumGroup (field : String) {items : List String} (h : items ≠ []) :
    enumTerms (enumGroup field items).collapseRights = .ok items := by
  match items, h with
  | [item], _ => rfl
  | item :: next :: items, _ =>
      change enumTerms (.binary (enumTerm item) .or
        (enumChain next items).collapseRights.unwrapBare _) = _
      rw [enumTerms, enumTerms_collapse_enumChain]
      rfl

/-! ### Filters -/

/-- A clause that can be written, and what its text reads as expresses the filter. -/
structure Expresses (registry : Registry) (f : Filter) (t : Tree) : Prop where
  readable : t.Readable Grouping.Enclosed
  tight : t.Tight
  start : t.grouping.start = none
  /-- nothing around the clause is lost as a right side -/
  kept : t.collapseRights.unwrapBare = t.collapseRights
  reads : Alone registry f t.collapseRights

/-- A term that is read as the filter expresses it. -/
theorem expresses_term {registry : Registry} {f : Filter} {text : String} {quoted : Bool}
    (hf : Leafy f.field.name)
    (h : clauseFilter registry (.term (plainTermOf f.field.name text quoted)) = .ok f) :
    Expresses registry f (.term (plainTermOf f.field.name text quoted)) := by
  obtain ⟨hr, ht⟩ := readable_plainTermOf hf text quoted
  exact ⟨hr, ht, rfl, rfl, trivial, h⟩

theorem expresses_range {registry : Registry} {f : Filter} {low high : List Char}
    (hf : Leafy f.field.name) (hl : low ≠ [] ∧ ∀ c ∈ low, isBoundChar c = true)
    (hh : high ≠ [] ∧ ∀ c ∈ high, isBoundChar c = true)
    (h : clauseFilter registry
      (.range ⟨f.field.name, String.ofList low, String.ofList high, .both⟩) = .ok f) :
    Expresses registry f (.range ⟨f.field.name, String.ofList low, String.ofList high, .both⟩) :=
  ⟨readable_range hf hl hh, trivial, rfl, rfl, trivial, h⟩

/-- **A filter that can be written has a clause whose text reads as one that expresses it**, if its
field is lawful. -/
theorem serialize_writable_of_lawful {registry : Registry} {f : Filter} (hlaw : f.field.Lawful)
    (h : f.WritableIn registry) : ∃ t, f.serialize = .ok t ∧ Expresses registry f t := by
  obtain ⟨t, ht, -, hclause⟩ := serialize_expresses h.expressible
  refine ⟨t, ht, ?_⟩
  obtain ⟨⟨hmem, hv⟩, hname⟩ := h
  have himp := hlaw.type_of_implicit
  obtain ⟨field, value, fits⟩ := f
  cases value with
  | string s | boolean b => cases ht; exact expresses_term hname hclause
  | integer i =>
      cases (Filter.serialize_integer rfl (Numeral.write_of_short hv)).symm.trans ht
      exact expresses_term hname hclause
  | float x =>
      obtain ⟨s, hs, -⟩ := Number.ReadsBack.text_ok hv
      cases (Filter.serialize_float rfl hs).symm.trans ht
      exact expresses_term hname hclause
  | integerRange low high =>
      obtain ⟨hl, hh⟩ : Numeral.Short low ∧ Numeral.Short high := hv
      cases (Filter.serialize_integerRange rfl (Numeral.write_of_short hl)
        (Numeral.write_of_short hh)).symm.trans ht
      exact expresses_range hname ⟨Numeral.ofInt_ne_nil low, isBoundChar_ofInt low⟩
        ⟨Numeral.ofInt_ne_nil high, isBoundChar_ofInt high⟩ hclause
  | floatRange low high =>
      obtain ⟨l, hl, hl'⟩ := Number.ReadsBack.bound hv.1
      obtain ⟨u, hu, hu'⟩ := Number.ReadsBack.bound hv.2
      cases (Filter.serialize_floatRange rfl hl hu).symm.trans ht
      exact expresses_range hname hl' hu' hclause
  | enum items =>
      cases ht
      have hn : isFieldName field.name.toList = true := by
        refine hname.resolve_left fun e => ?_
        have ht : field.type = .string := himp e
        rw [← fits] at ht
        cases ht
      have hg := grouping_enumGroup field.name items
      have hg' := (Tree.grouping_collapseRights _).trans hg
      have hfield := congrArg Grouping.field hg'
      refine ⟨enumGroup_readable hn items, Tree.tight_of_parenthesized (by rw [hg]), by rw [hg],
        Tree.unwrapBare_of_not_isBare (by rw [hg']; rfl), standsAlone_of_field hfield, ?_⟩
      exact clauseFilter_group hmem fits.symm hfield (enumTerms_collapse_enumGroup _ hv)

theorem serialize_writable {registry : Registry} (hlaw : ∀ f ∈ registry.fields, f.Lawful)
    {f : Filter} (h : f.WritableIn registry) :
    ∃ t, f.serialize = .ok t ∧ Expresses registry f t :=
  serialize_writable_of_lawful (hlaw _ h.expressible.1) h

/-! ### Rows -/

/-- The entry that a clause reads as. -/
def Entry.reread {registry : Registry} (e : Entry (Expresses registry)) : Entry (Alone registry) :=
  e.map Tree.collapseRights fun _ _ => Expresses.reads

/-- Reading clauses anew changes none of the filters. -/
theorem filters_reread {registry : Registry} (b : Bool) (es : List (Entry (Expresses registry))) :
    Entry.filters b (es.map Entry.reread) = Entry.filters b es :=
  Entry.filters_map (P := Expresses registry) (Q := Alone registry) b _
    (fun _ _ => Expresses.reads) es

theorem before_known (j : Joiner) (i : Item) : ∀ s, j.before i ≠ .other s := by
  obtain ⟨t, b⟩ := i
  cases j <;> cases b <;> exact nofun

/-- No operator is written only before asserted filters. -/
theorem before_eq_implicit_iff {j : Joiner} {i : Item} :
    j.before i = .implicit ↔ j = .implicit ∧ i.asserted = true := by
  obtain ⟨t, b⟩ := i
  cases j <;> cases b <;> simp [Joiner.before, Joiner.asserting, Joiner.excluding]

/-- An entry that can be written behind another one: its clause is not written like an operator
where it is joined without one. -/
def Entry.Fits {P : Filter → Tree → Prop} (j : Joiner) (e : Entry P) : Prop :=
  j.before e.item = .implicit → e.clause.NotSymbolic

theorem fits_of_ne {P : Filter → Tree → Prop} {j : Joiner} (hj : j ≠ .implicit) (e : Entry P) :
    e.Fits j := fun h => absurd (before_eq_implicit_iff.mp h).1 hj

/-- A row begins as its first clause does. -/
theorem firstTerm?_rowOf (j : Joiner) (i : Item) (is : List Item) :
    (rowOf j i is).firstTerm? = i.tree.firstTerm? := by
  cases is <;> rfl

/-- A row of clauses that can be written stands on the right of any operator that its first clause
fits behind. -/
structure ReadsAsRow (t u : Tree) : Prop where
  readable : t.Readable fun g => g.Enclosed ∨ g.Open
  tight : t.Tight
  start : t.grouping.start = none
  reads : t.collapseRights.unwrapBare = u

/-- **A row of clauses that can be written reads as the row of what they read as**, by induction on
the clauses behind the first. -/
theorem readsAsRow_rowOf {registry : Registry} {j : Joiner} (e : Entry (Expresses registry))
    {es : List (Entry (Expresses registry))} (h : ∀ x ∈ es, x.Fits j) :
    ReadsAsRow (rowOf j e.item (es.map Entry.item))
      (rowOf j e.reread.item ((es.map Entry.reread).map Entry.item)) := by
  induction es generalizing e with
  | nil =>
      obtain ⟨hr, ht, hs, hk, -, -⟩ := e.holds
      exact ⟨hr.mono fun _ => .inl, ht, hs, hk⟩
  | cons next es ih =>
      obtain ⟨hfit, h⟩ := List.forall_mem_cons.mp h
      obtain ⟨hr, ht, hs, hu⟩ := ih next h
      have fits : j.before next.item = .implicit →
          (rowOf j next.item (es.map Entry.item)).NotSymbolic := by
        intro hi
        rw [Tree.NotSymbolic, firstTerm?_rowOf]
        exact hfit hi
      refine ⟨⟨.inr ⟨rfl, .inl rfl, rfl⟩, e.holds.readable,
        joins_of_start (before_known j next.item) hs fits, hr⟩, .inr ht, rfl, ?_⟩
      exact congrArg (Tree.binary e.clause.collapseRights (j.before next.item) · {}) hu

/-- A whole query that can be written, and what its text reads as. -/
structure ReadsAsQuery (t u : Tree) : Prop where
  readable : t.Readable Grouping.Open
  group : t.IsGroup
  tight : t.Tight
  reads : t.collapseRights = u

/-- **The query of clauses that can be written** reads as the query of what they read as, if each
one fits behind those before it. -/
theorem readsAsQuery_queryOf {registry : Registry} {j : Joiner} (e : Entry (Expresses registry))
    {es : List (Entry (Expresses registry))} (h : ∀ x ∈ es, x.Fits j) :
    ∃ t u, queryOf j ((e :: es).map Entry.item) = some t ∧
      queryOf j (((e :: es).map Entry.reread).map Entry.item) = some u ∧ ReadsAsQuery t u := by
  have surrounded (i : Item) : Grouping.Open { start := i.start } := by
    obtain ⟨t, b⟩ := i
    cases b
    · exact ⟨rfl, .inr rfl, rfl⟩
    · exact ⟨rfl, .inl rfl, rfl⟩
  cases es with
  | nil =>
      exact ⟨.single e.clause { start := e.item.start }, _, rfl, rfl,
        ⟨surrounded _, e.holds.readable⟩, trivial, .inr e.holds.tight, rfl⟩
  | cons next es =>
      obtain ⟨⟨-, hl, hj, hr⟩, ht, -, hu⟩ := readsAsRow_rowOf e h
      exact ⟨.binary e.clause (j.before next.item) (rowOf j next.item (es.map Entry.item))
        { start := e.item.start }, _, rfl, rfl, ⟨surrounded _, hl, hj, hr⟩, trivial, ht,
        congrArg (Tree.regroup fun _ => { start := e.item.start }) hu⟩

/-- **The text of the query of clauses** that can be written and fit behind each other. -/
theorem parse_print_queryOf_of_fits {registry : Registry} {j : Joiner}
    {es : List (Entry (Expresses registry))} (h : ∀ x ∈ es.tail, x.Fits j) :
    ∃ text, printQuery (queryOf j (es.map Entry.item)) = .ok text ∧
      parse text = .ok (queryOf j ((es.map Entry.reread).map Entry.item)) := by
  cases es with
  | nil => exact ⟨"", rfl, parse_eq_none_iff.mpr rfl⟩
  | cons e es =>
      obtain ⟨t, u, ht, hu, hr⟩ := readsAsQuery_queryOf e h
      rw [List.tail_cons] at ht hu
      rw [ht, hu, ← hr.reads]
      exact Tree.parse_print_of_tight hr.readable hr.group hr.tight

/-- **The query of a row of clauses that can be written reads as the query of what they read as.**
-/
theorem parse_print_queryOf {registry : Registry} {j : Joiner} (hj : j ≠ .implicit)
    (es : List (Entry (Expresses registry))) :
    ∃ text, printQuery (queryOf j (es.map Entry.item)) = .ok text ∧
      parse text = .ok (queryOf j ((es.map Entry.reread).map Entry.item)) :=
  parse_print_queryOf_of_fits fun e _ => fits_of_ne hj e

/-- **Filters survive the trip through query text.**  The query of filters joined by `AND` or `OR`
is printed and read, and what was read splits into exactly these filters within the depth of their
row. -/
theorem split_parse_print_build (registry : Registry) (hlaw : ∀ f ∈ registry.fields, f.Lawful)
    (j : Joiner) (hj : j ≠ .implicit) (s : Selection)
    (h : ∀ f ∈ s.asserted ++ s.excluded, f.WritableIn registry) :
    ∃ t text u, build s j = .ok t ∧ printQuery t = .ok text ∧ parse text = .ok u ∧
      ∀ d : Int, (max 1 ((s.asserted.length + s.excluded.length : Nat) - 1) : Int) ≤ d →
        split u registry j d = .ok s := by
  obtain ⟨es, hb, hl, ha, he⟩ :=
    build_of_serialize j fun f hf => serialize_writable hlaw (h f hf)
  obtain ⟨text, hp, hq⟩ := parse_print_queryOf hj es
  refine ⟨_, text, _, hb, hp, hq, fun d hd => ?_⟩
  have hd : (max 1 ((es.map Entry.reread).length - 1) : Int) ≤ d := by
    rw [List.length_map, hl]
    exact hd
  have filters (b : Bool) : Entry.filters b (es.map Entry.reread) = Entry.filters b es :=
    Entry.filters_map (P := Expresses registry) (Q := Alone registry) b _
      (fun _ _ => Expresses.reads) es
  rw [split_queryOf, if_pos (.inr hd), filters, filters, ha, he]

theorem Selection.sampleFields_lawful : ∀ f ∈ Selection.sampleFields.fields, f.Lawful := by
  intro f hf
  simp only [sampleFields, Registry.implicit, List.cons_append, List.nil_append, List.mem_cons,
    List.not_mem_nil, or_false] at hf
  rcases hf with rfl | rfl | rfl
  · exact ⟨implicitField, "Default field", "string", .string "", .null, .null, [], false, rfl⟩
  · exact ⟨"price", "Price", "float-range", .tuple [.int 0, .int 0], .null, .null, [], false, rfl⟩
  · exact ⟨"color", "Colour", "enum", .tuple [], .null, .null, [("red", "Red"), ("OR", "Orange")],
      false, rfl⟩

theorem Selection.sample_writable :
    ∀ f ∈ sample.asserted ++ sample.excluded, f.WritableIn sampleFields := by
  intro f hf
  refine ⟨sample_expressible f hf, ?_⟩
  simp only [sample, List.cons_append, List.nil_append, List.mem_cons, List.not_mem_nil,
    or_false] at hf
  rcases hf with rfl | rfl | rfl
  · exact .inl rfl
  · exact .inr (by decide)
  · exact .inr (by decide)

theorem split_parse_print_build_sample :
    (∀ f ∈ Selection.sampleFields.fields, f.Lawful) ∧ Joiner.or ≠ .implicit ∧
    (∀ f ∈ Selection.sample.asserted ++ Selection.sample.excluded,
      f.WritableIn Selection.sampleFields) ∧
    ∃ t text u, build Selection.sample .or = .ok t ∧ printQuery t = .ok text ∧
      parse text = .ok u ∧ split u Selection.sampleFields .or 2 = .ok Selection.sample := by
  obtain ⟨t, text, u, hb, hp, hq, hs⟩ := split_parse_print_build Selection.sampleFields
    Selection.sampleFields_lawful .or (by decide) Selection.sample Selection.sample_writable
  exact ⟨Selection.sampleFields_lawful, by decide, Selection.sample_writable, t, text, u, hb, hp, hq,
    hs 2 (by decide)⟩

end SearchFilters
