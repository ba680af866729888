import SearchFilters.Config.Document
import SearchFilters.Proofs.Config.RoundTrip
import SearchFilters.Proofs.Filter.Walking

/-!
# Proofs — Config — Reloading

What makes a configuration usable, and what a configuration that is written and loaded again gives.

Loading a document reads a table out of it, makes a configuration of the table, and checks it.  What
comes out can be written again, since every field was made by the rules of fields and with bounds
that are numbers (`Config.storable_of_ofTable`).  What the checks look at is not changed by
normalizing a configuration (`Config.Usable.normalized`), so that a usable configuration is usable
when it is loaded again (`Config.Usable.reload`), if its document is read as the table that it was
made of (`Config.ReadsBack`).  The order of sections does not matter there, as a table is read by
its keys (`Config.ofTable_congr`).

That documents read back is a hypothesis here; for one configuration it is shown
(`Config.readsBack_sizes`).
-/

namespace SearchFilters

/-! ### Results for every item of a list -/

section Lists
variable {ε α β : Type} {f : α → Except ε β} {xs : List α} {ys : List β}

theorem mapM_cons_eq_ok_iff {x : α} : (x :: xs).mapM f = .ok ys ↔
    ∃ y ys', f x = .ok y ∧ xs.mapM f = .ok ys' ∧ y :: ys' = ys := by
  rw [List.mapM_cons]
  simp only [bind_eq_ok_iff, pure, Except.pure, Except.ok.injEq]
  exact exists_congr fun y => ⟨fun ⟨h, ys', h'⟩ => ⟨ys', h, h'⟩, fun ⟨ys', h, h'⟩ => ⟨h, ys', h'⟩⟩

/-- Every result is that of an item. -/
theorem exists_of_mem_mapM (h : xs.mapM f = .ok ys) {y : β} (hy : y ∈ ys) :
    ∃ x ∈ xs, f x = .ok y := by
  induction xs generalizing ys with
  | nil =>
      cases h
      cases hy
  | cons x xs ih =>
      obtain ⟨z, ys', hz, hys, rfl⟩ := mapM_cons_eq_ok_iff.mp h
      rcases List.mem_cons.mp hy with rfl | hy
      · exact ⟨x, List.mem_cons_self, hz⟩
      · obtain ⟨x', hx, hxy⟩ := ih hys hy
        exact ⟨x', List.mem_cons_of_mem _ hx, hxy⟩

/-- Every item of a list has its result. -/
theorem exists_mem_of_mapM (h : xs.mapM f = .ok ys) {x : α} (hx : x ∈ xs) :
    ∃ y, f x = .ok y ∧ y ∈ ys := by
  induction xs generalizing ys with
  | nil => cases hx
  | cons x' xs ih =>
      obtain ⟨y, ys', hy, hys, rfl⟩ := mapM_cons_eq_ok_iff.mp h
      rcases List.mem_cons.mp hx with rfl | hx
      · exact ⟨y, hy, List.mem_cons_self⟩
      · obtain ⟨z, hz, hm⟩ := ih hys hx
        exact ⟨z, hz, List.mem_cons_of_mem _ hm⟩

/-- There are results for a list if there is one for every item. -/
theorem exists_mapM_iff : (∃ ys, xs.mapM f = .ok ys) ↔ ∀ x ∈ xs, ∃ y, f x = .ok y := by
  induction xs with
  | nil => exact ⟨fun _ => List.forall_mem_nil _, fun _ => ⟨[], rfl⟩⟩
  | cons x xs ih =>
      rw [List.forall_mem_cons, ← ih]
      constructor
      · rintro ⟨_, h⟩
        obtain ⟨y, ys', hy, hys, -⟩ := mapM_cons_eq_ok_iff.mp h
        exact ⟨⟨y, hy⟩, ys', hys⟩
      · rintro ⟨⟨y, hy⟩, ys', hys⟩
        exact ⟨y :: ys', mapM_cons_eq_ok_iff.mpr ⟨y, ys', hy, hys, rfl⟩⟩

end Lists

/-- Wording an error changes no result. -/
theorem mapError_eq_ok_iff {ε ε' α : Type} {g : ε → ε'} {x : Except ε α} {a : α} :
    x.mapError g = .ok a ↔ x = .ok a := by
  cases x with
  | error e => exact ⟨nofun, nofun⟩
  | ok b => exact ⟨fun h => congrArg _ (Except.ok.inj h), fun h => congrArg _ (Except.ok.inj h)⟩

/-- An entry under a key of its own may stand first or last. -/
theorem Datum.get?_rotate {es : List (String × Datum)} {k : String} (h : get? es k = none)
    (d : Datum) (key : String) :
    get? ((k, d) :: es) key = get? (es ++ [(k, d)]) key := by
  unfold get? at h ⊢
  rw [List.find?_append, List.find?_cons]
  by_cases hk : k = key
  · subst hk
    simp [Option.map_eq_none_iff.mp h]
  · simp [beq_false_of_ne hk]

/-! ### Fields out of tables -/

namespace Field

/-- The parts of a field are those that it is made of. -/
structure MadeOf (f : Field) (name displayName typeName : String) (default minimum maximum : Datum)
    (options : List (String × String)) (autocomplete : Bool) : Prop where
  name : f.name = name
  displayName : f.displayName = displayName
  type : FieldType.ofName? typeName = some f.type
  default : Value.ofDatum? f.type default = some f.default
  minimum : f.minimum = minimum
  maximum : f.maximum = maximum
  options : f.options = options
  autocomplete : f.autocomplete = autocomplete

/-- A field that was made has the parts that it was made of. -/
theorem madeOf_of_make {f : Field} {name displayName typeName : String}
    {default minimum maximum : Datum} {options : List (String × String)} {autocomplete : Bool}
    (h : make name displayName typeName default minimum maximum options autocomplete = .ok f) :
    f.MadeOf name displayName typeName default minimum maximum options autocomplete := by
  unfold make at h
  split at h
  · cases h
  · next type ht =>
    split at h
    · cases h
    · split at h
      · cases h
      · split at h
        · cases h
        · split at h
          · cases h
          · next hd =>
            cases h
            exact ⟨rfl, rfl, ht, hd, rfl, rfl, rfl, rfl⟩

theorem isBound_of_boundOf {key : String} {d? : Option Datum} {d : Datum}
    (h : boundOf key d? = .ok d) : IsBound d := by
  unfold boundOf at h
  split at h
  · exact .inl (Except.ok.inj h).symm
  · exact .inl (Except.ok.inj h).symm
  · exact .inr ⟨_, (Except.ok.inj h).symm⟩
  · cases h

/-- A field that the rules allow, with bounds that fields may have. -/
structure Storable (f : Field) : Prop where
  lawful : f.Lawful
  minimum : IsBound f.minimum
  maximum : IsBound f.maximum

/-- A field that was made with bounds that were read can be written. -/
theorem storable_of_make {f : Field} {name displayName typeName key key' : String}
    {default low high : Datum} {low? high? : Option Datum} {options : List (String × String)}
    {autocomplete : Bool}
    (hf : make name displayName typeName default low high options autocomplete = .ok f)
    (hl : boundOf key low? = .ok low) (hh : boundOf key' high? = .ok high) : f.Storable := by
  obtain ⟨-, -, -, -, rfl, rfl, -, -⟩ := madeOf_of_make hf
  exact ⟨⟨_, _, _, _, _, _, _, _, hf⟩, isBound_of_boundOf hl, isBound_of_boundOf hh⟩

/-- **The field of a table can be put into a table.** -/
theorem storable_of_ofTable {i : Nat} {d : Datum} {f : Field} (h : ofTable i d = .ok f) :
    f.Storable := by
  unfold ofTable at h
  dsimp only [bind, Except.bind] at h
  -- a part that is wrong ends the reading, one that is right or missing leads on to the next
  repeat' first
    | contradiction
    | split at h
  all_goals cases h
  all_goals exact storable_of_make (by assumption) (by assumption) (by assumption)

end Field

namespace Config

/-! ### Configurations that can be written -/

/-- A configuration can be written if its fields can. -/
theorem storable_iff {c : Config} : c.Storable ↔ ∀ f ∈ c.fields.fields, f.Storable :=
  ⟨fun h f hf => ⟨h.lawful f hf, (h.bounds f hf).1, (h.bounds f hf).2⟩,
    fun h => ⟨fun f hf => (h f hf).lawful, fun f hf => ⟨(h f hf).minimum, (h f hf).maximum⟩⟩⟩

/-- The implicit field alone can be written. -/
theorem storable_default : ({} : Config).Storable := by
  refine storable_iff.mpr fun f hf => ?_
  cases List.mem_singleton.mp hf
  exact ⟨⟨implicitField, "Default field", "string", .string "", .null, .null, [], false, rfl⟩,
    .inl rfl, .inl rfl⟩

theorem storable_of_fieldsOf {d : Option Datum} {r : Registry} (h : fieldsOf d = .ok r) :
    ∀ f ∈ r.fields, f.Storable := by
  unfold fieldsOf at h
  split at h
  · cases h
    exact storable_iff.mp storable_default
  · obtain ⟨fields, hf, h⟩ := bind_eq_ok_iff.mp h
    unfold Registry.ofFields at h
    split_ifs at h
    cases h
    intro f hm
    obtain ⟨x, -, hx⟩ := exists_of_mem_mapM hf hm
    exact Field.storable_of_ofTable hx
  · cases h

/-- **The configuration of a table can be put into a table.** -/
theorem storable_of_ofTable {es : List (String × Datum)} {c : Config} (h : ofTable es = .ok c) :
    c.Storable := by
  unfold ofTable at h
  dsimp only [bind, Except.bind, pure, Except.pure] at h
  repeat' first
    | contradiction
    | split at h
  all_goals cases h
  all_goals exact storable_iff.mpr (storable_of_fieldsOf (by assumption))

/-- What a table gives depends on what stands under its keys, not on the order of its entries. -/
theorem ofTable_congr {es es' : List (String × Datum)}
    (h : ∀ key, Datum.get? es key = Datum.get? es' key) : ofTable es = ofTable es' := by
  have values (name key : String) : valueIn es name key = valueIn es' name key := by
    rw [valueIn, valueIn, h]
  simp only [ofTable, values, h]

/-! ### Configurations that can be used -/

/-- A configuration that passes its checks, whose warnings can be worded. -/
def Usable (c : Config) : Prop :=
  ∃ warnings lines, c.validate = .ok warnings ∧ warnings.mapM ConfigWarning.message = .ok lines

end Config

/-- A field whose bounds can be compared, with a warning about them, if any, that can be worded. -/
def Field.Comparable (f : Field) : Prop :=
  ∃ warning?, Config.boundsWarning f = .ok warning? ∧ ∀ w ∈ warning?, ∃ s, w.message = .ok s

/-- Bounds that are floating-point numbers can be compared and worded. -/
theorem Field.comparable_of_floats {f : Field} {low high : Option Binary64}
    (hl : f.minimum = (low.map Datum.float).getD .null)
    (hh : f.maximum = (high.map Datum.float).getD .null) : f.Comparable := by
  have missing (h : (f.minimum.isNull || f.maximum.isNull) = true) : f.Comparable :=
    ⟨none, if_pos h, nofun⟩
  cases low with
  | none => exact missing (by rw [hl]; rfl)
  | some low =>
    cases high with
    | none => exact missing (by rw [hl, hh]; rfl)
    | some high =>
      have compared : f.minimum.exceeds? f.maximum =
          some ((Number.float low).exceeds (.float high)) := by
        rw [hl, hh]
        rfl
      have present : ¬(f.minimum.isNull || f.maximum.isNull) = true := by
        rw [hl, hh]
        exact Bool.false_ne_true
      unfold Field.Comparable Config.boundsWarning
      rw [if_neg present, compared]
      cases (Number.float low).exceeds (.float high) with
      | false => exact ⟨none, rfl, nofun⟩
      | true =>
        refine ⟨_, rfl, fun w hw => ?_⟩
        cases hw
        rw [hl, hh]
        exact ⟨_, rfl⟩

namespace Config

/-- **A configuration can be used exactly if its operator and its depth are right and the bounds of
its fields can be compared.** -/
theorem usable_iff {c : Config} : c.Usable ↔ c.joiner?.isNone = false ∧ ¬c.maxDepth < 1 ∧
    ∀ f ∈ c.fields.fields, f.Comparable := by
  unfold Usable validate
  cases hj : c.joiner?.isNone with
  | true => simp
  | false =>
    by_cases hd : c.maxDepth < 1
    · simp [hd]
    · rw [if_neg Bool.false_ne_true, if_neg hd]
      constructor
      · rintro ⟨warnings, lines, hw, hl⟩
        refine ⟨rfl, hd, fun f hf => ?_⟩
        obtain ⟨bounds, hb, hw⟩ := bind_eq_ok_iff.mp hw
        obtain ⟨warning?, hwf, hm⟩ := exists_mem_of_mapM hb hf
        refine ⟨warning?, hwf, fun w hw' => exists_mapM_iff.mp ⟨lines, hl⟩ w ?_⟩
        cases hw
        exact List.mem_append_right _ (List.mem_filterMap.mpr ⟨warning?, hm, hw'⟩)
      · rintro ⟨-, -, hc⟩
        obtain ⟨bounds, hb⟩ := exists_mapM_iff.mpr fun f hf => (hc f hf).imp fun _ h => h.1
        have worded : ∀ w ∈ (if c.fields.size = 0 then [.noFields] else []) ++ bounds.filterMap id,
            ∃ s, ConfigWarning.message w = .ok s := by
          intro w hw
          rcases List.mem_append.mp hw with hw | hw
          · split at hw
            · cases List.mem_singleton.mp hw
              exact ⟨_, rfl⟩
            · cases hw
          · obtain ⟨warning?, hm, hw⟩ := List.mem_filterMap.mp hw
            obtain ⟨f, hf, hwf⟩ := exists_of_mem_mapM hb hm
            obtain ⟨_, hwf', hworded⟩ := hc f hf
            cases hwf.symm.trans hwf'
            exact hworded w hw
        obtain ⟨lines, hl⟩ := exists_mapM_iff.mpr worded
        exact ⟨_, lines, bind_eq_ok_iff.mpr ⟨bounds, hb, rfl⟩, hl⟩

/-- The configuration of the implicit field alone passes its checks. -/
theorem usable_default : ({} : Config).Usable := by
  refine usable_iff.mpr ⟨rfl, by decide, fun f hf => ?_⟩
  cases List.mem_singleton.mp hf
  exact ⟨none, rfl, nofun⟩

/-- Normalizing changes nothing that the checks look at. -/
theorem Usable.normalized {c : Config} (h : c.Usable) : c.normalized.Usable := by
  obtain ⟨hj, hd, hc⟩ := usable_iff.mp h
  refine usable_iff.mpr ⟨hj, hd, fun f hf => ?_⟩
  obtain ⟨g, hg, rfl⟩ := List.mem_map.mp hf
  exact hc g hg

/-! ### Writing and loading again -/

/-- The document of a configuration is read as the table that it was made of, whatever the order of
its sections. -/
def ReadsBack (c : Config) : Prop :=
  ∀ text, c.toText = .ok text →
    ∃ es, Toml.read text = .ok es ∧ ∀ key, Datum.get? es key = Datum.get? c.toTable key

/-- The implicit field and sizes. -/
def sizes : Config where
  fields :=
    { fields := Registry.implicit.fields ++ [.ofIntegers "size" "size"]
      nodup := by decide }

/-- The document of the two. -/
def sizesText : String :=
  "fields = [
    \x7b name = \"<implicit>\", display_name = \"Default field\", type = \"string\", default = \"\" \x7d,
    \x7b name = \"size\", display_name = \"size\", type = \"integer\", default = 0 \x7d,
]

[display]
colored_output = true

[query]
default_operator = \"<implicit>\"
max_depth = 256
"

/-- What the document is read as: the list of fields, which fits in lines, comes first. -/
def sizesEntries : List (String × Datum) :=
  [("fields", .list [
      .table [("name", .string "<implicit>"), ("display_name", .string "Default field"),
        ("type", .string "string"), ("default", .string "")],
      .table [("name", .string "size"), ("display_name", .string "size"),
        ("type", .string "integer"), ("default", .int 0)]]),
    ("display", .table [("colored_output", .bool true)]),
    ("query", .table [("default_operator", .string "<implicit>"), ("max_depth", .int 256)])]

set_option maxRecDepth 10000 in
theorem toText_sizes : sizes.toText = .ok sizesText := by
  rfl

set_option maxRecDepth 10000 in
theorem read_sizesText : Toml.read sizesText = .ok sizesEntries := by
  unfold sizesText Toml.read
  rw [String.toList_ofList]
  rfl

/-- The document is read as the table that it was made of. -/
theorem readsBack_sizes : sizes.ReadsBack := by
  intro text h
  cases toText_sizes.symm.trans h
  -- the fields are read before the other sections and stand behind them in the table
  exact ⟨sizesEntries, read_sizesText, Datum.get?_rotate rfl _⟩

/-- **A usable configuration is usable when it is loaded again.** -/
theorem Usable.reload {c : Config} {text : String} (h : c.Usable) (hs : c.Storable)
    (hb : c.ReadsBack) (ht : c.toText = .ok text) :
    c.normalized.Usable ∧ ∃ warnings, ofText text = .ok (c.normalized, warnings) := by
  obtain ⟨es, hr, he⟩ := hb text ht
  obtain ⟨warnings, lines, hw, hl⟩ := h.normalized
  have table : ofTable es = .ok c.normalized := (ofTable_congr he).trans (ofTable_toTable hs)
  refine ⟨h.normalized, warnings, ?_⟩
  simp only [ofText, hr, table, hw, Except.mapError, bind, Except.bind, pure, Except.pure]

/-- What a text gives can be written, and passes its checks. -/
theorem checked_of_ofText {text : String} {c : Config} {warnings : List ConfigWarning}
    (h : ofText text = .ok (c, warnings)) : c.Storable ∧ c.validate = .ok warnings := by
  simp only [ofText, bind_eq_ok_iff, mapError_eq_ok_iff] at h
  obtain ⟨es, -, c', hc, warnings', hw, h⟩ := h
  cases h
  exact ⟨storable_of_ofTable hc, hw⟩

end Config
end SearchFilters
