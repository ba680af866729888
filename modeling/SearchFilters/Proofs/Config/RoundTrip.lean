import Mathlib.Data.List.Induction
import SearchFilters.Config.Table
import SearchFilters.Proofs.Filter.QueryText

/-!
# Proofs — Config — RoundTrip

What is left of a configuration that is put into a table and read again.

A table of options has every key once, and an entry for autocompletion is made for enum fields
alone.  So two things are lost, and `Field.normalized` is a field without them: the options are
merged, each key at its first place and with its last label (`map_fst_mergeEntries`,
`find?_mergeEntries`), and only an enum field keeps its autocompletion.  The table of a field holds
the field's parts under their keys (`Field.Holds`), and since the field has passed the rules once,
its normalized parts pass them again (`Field.Ruled.make`); so the table is read as the normalized
field (`Field.ofTable_toTable`), and that of a configuration as the normalized configuration
(`Config.ofTable_toTable`).

Normalizing twice is normalizing once.  Everything else about the second trip follows from that
(`Config.reread_normalized`).
-/

namespace SearchFilters

/-! ### Merged entries -/

section Entries
variable {α β : Type}

/-- Merging takes the entries in their order, so that the last one is put in at the end. -/
theorem mergeEntries_concat (row : List (String × α)) (e : String × α) :
    mergeEntries (row ++ [e]) = putEntry (mergeEntries row) e.1 e.2 := by
  rw [mergeEntries, List.foldl_append]
  rfl

/-- Every key is kept at its first place. -/
theorem map_fst_mergeEntries (row : List (String × α)) :
    (mergeEntries row).map Prod.fst = (row.map Prod.fst).eraseDups := by
  induction row using List.reverseRecOn with
  | nil => rfl
  | append_singleton row e ih =>
      rw [mergeEntries_concat, map_fst_putEntry, ih, List.map_append, List.eraseDups_append]
      by_cases h : e.1 ∈ row.map Prod.fst
      · rw [if_pos (List.mem_eraseDups.mpr h)]
        simp [List.removeAll, h]
      · rw [if_neg (mt List.mem_eraseDups.mp h)]
        simp [List.removeAll, h, List.eraseDups_cons]

/-- Every key is kept with its last value. -/
theorem find?_mergeEntries (row : List (String × α)) (key : String) :
    ((mergeEntries row).find? fun e => e.1 == key) = row.reverse.find? fun e => e.1 == key := by
  induction row using List.reverseRecOn with
  | nil => rfl
  | append_singleton row e ih =>
      rw [mergeEntries_concat, find?_putEntry, ih, List.reverse_concat]
      by_cases h : key = e.1
      · simp [h]
      · simp [h, Ne.symm h]

/-- Putting an entry in looks only at keys. -/
theorem putEntry_map (f : α → β) (row : List (String × α)) (key : String) (value : α) :
    putEntry (row.map fun e => (e.1, f e.2)) key (f value) =
      (putEntry row key value).map fun e => (e.1, f e.2) := by
  have mem : ((row.map fun e => (e.1, f e.2)).any fun e => e.1 == key) =
      row.any fun e => e.1 == key := List.any_map
  unfold putEntry
  rw [mem]
  split
  · rw [List.map_map, List.map_map]
    refine List.map_congr_left fun e _ => ?_
    by_cases h : e.1 = key <;> simp [h]
  · rw [List.map_append, List.map_singleton]

/-- Merging looks only at keys. -/
theorem mergeEntries_map (f : α → β) (row : List (String × α)) :
    mergeEntries (row.map fun e => (e.1, f e.2)) =
      (mergeEntries row).map fun e => (e.1, f e.2) := by
  induction row using List.reverseRecOn with
  | nil => rfl
  | append_singleton row e ih =>
      rw [List.map_append, List.map_singleton, mergeEntries_concat, mergeEntries_concat, ih,
        putEntry_map]

/-- Merging changes a row exactly if some key is repeated. -/
theorem mergeEntries_eq_self_iff {row : List (String × α)} :
    mergeEntries row = row ↔ (row.map Prod.fst).Nodup := by
  constructor
  · intro h
    exact h ▸ nodup_mergeEntries row
  · intro h
    induction row using List.reverseRecOn with
    | nil => rfl
    | append_singleton row e ih =>
        rw [List.map_append, List.map_singleton] at h
        obtain ⟨hn, -, hnew⟩ := List.nodup_append.mp h
        have new : ¬(row.any fun x => x.1 == e.1) = true := by
          simp only [List.any_eq_true, beq_iff_eq, not_exists, not_and]
          exact fun x hx => hnew x.1 (List.mem_map_of_mem hx) e.1 (List.mem_singleton_self _)
        rw [mergeEntries_concat, ih hn, putEntry, if_neg new]

end Entries

/-! ### Normalized fields -/

namespace Field

/-- Merging the options of a field keeps every key once, at its first place and with its label. -/
theorem mergeEntries_options (f : Field) :
    mergeEntries f.options = f.optionKeys.eraseDups.map fun k => (k, f.labelFor k) := by
  have label : ∀ e ∈ mergeEntries f.options, (e.1, f.labelFor e.1) = e := by
    intro e he
    rw [labelFor, ← find?_mergeEntries, find?_of_nodup (nodup_mergeEntries _) he]
    rfl
  rw [optionKeys, ← map_fst_mergeEntries, List.map_map]
  exact ((List.map_congr_left label).trans (List.map_id _)).symm

/-- **A field as a file keeps it**: every option key once, at its first place and with its last
label, and no autocompletion but for an enum field. -/
def normalized (f : Field) : Field :=
  { f with
    options := f.optionKeys.eraseDups.map fun k => (k, f.labelFor k)
    autocomplete := f.autocomplete && f.type == .enum }

/-- The options of a normalized field are those that a table keeps. -/
theorem options_normalized (f : Field) : f.normalized.options = mergeEntries f.options :=
  f.mergeEntries_options.symm

/-- Normalizing changes no label. -/
theorem labelFor_normalized (f : Field) (key : String) :
    f.normalized.labelFor key = f.labelFor key := by
  have merged : mergeEntries (mergeEntries f.options) = mergeEntries f.options :=
    mergeEntries_eq_self_iff.mpr (nodup_mergeEntries _)
  rw [labelFor, labelFor, options_normalized, ← find?_mergeEntries, merged, find?_mergeEntries]

/-- A field is normalized unless it has repeated option keys, or autocompletion without being an
enum field. -/
theorem normalized_eq_iff (f : Field) :
    f.normalized = f ↔ f.optionKeys.Nodup ∧ (f.autocomplete = true → f.type = .enum) := by
  rw [optionKeys, ← mergeEntries_eq_self_iff, ← options_normalized]
  constructor
  · intro h
    refine ⟨congrArg Field.options h, fun ha => ?_⟩
    have := congrArg Field.autocomplete h
    simp only [normalized, ha, Bool.true_and] at this
    exact beq_iff_eq.mp this
  · rintro ⟨ho, ha⟩
    have auto : f.normalized.autocomplete = f.autocomplete := by
      rw [normalized]
      cases h : f.autocomplete with
      | false => rfl
      | true => simp [ha h]
    obtain ⟨name, displayName, type, default, minimum, maximum, options, autocomplete, hd⟩ := f
    simp only [normalized] at ho auto ⊢
    rw [ho, auto]

end Field

/-! ### The table of a field -/

/-- A finite number stays one when it is shown as a datum. -/
theorem finite?_number {d : Datum} {x : Number} (h : d.finite? = some x) :
    (Datum.number x).finite? = some x := by
  unfold Datum.finite? at h
  split at h
  · split at h
    · next hx =>
      cases h
      rw [Datum.finite?, if_pos hx]
    · cases h
  · cases h

theorem mapM_string? (items : List String) :
    (items.map Datum.string).mapM Datum.string? = some items := by
  induction items with
  | nil => rfl
  | cons s items ih =>
      rw [List.map_cons, List.mapM_cons, ih]
      rfl

/-- A value is read again from what a table holds for it. -/
theorem Value.ofDatum?_toListed {t : FieldType} {d : Datum} {v : Value}
    (h : ofDatum? t d = some v) : ofDatum? t v.toListed = some v := by
  cases t <;> simp only [ofDatum?, Option.map_eq_some_iff, Option.bind_eq_bind,
    Option.bind_eq_some_iff, Option.pure_def, Option.some.injEq] at h
  · obtain ⟨_, -, rfl⟩ := h
    rfl
  · obtain ⟨_, -, rfl⟩ := h
    rfl
  · obtain ⟨x, hx, rfl⟩ := h
    simp only [ofDatum?, toListed, toDatum, finite?_number hx, Option.map_some]
  · obtain ⟨_, -, _, -, _, -, rfl⟩ := h
    rfl
  · obtain ⟨_, -, _, hx, _, hy, rfl⟩ := h
    simp only [ofDatum?, toListed, toDatum, pair?, Datum.items?, Option.bind_eq_bind,
      Option.bind_some, finite?_number hx, finite?_number hy, Option.pure_def]
  · split at h
    · cases h
      rfl
    · cases h
  · obtain ⟨_, -, items, -, rfl⟩ := h
    simp only [ofDatum?, toListed, toDatum, Datum.items?, Option.bind_eq_bind, Option.bind_some,
      mapM_string?, Option.pure_def]

namespace Field

/-- The entries of a field under the keys that are looked up. -/
structure Holds (es : List (String × Datum)) (f : Field) : Prop where
  name : Datum.get? es "name" = some (.string f.name)
  type : Datum.get? es "type" = some (.string f.type.name)
  displayName : Datum.get? es "display_name" = some (.string f.displayName)
  default : Datum.get? es "default" = some f.default.toListed
  minimum : Datum.get? es "min" = if f.minimum.isNull then none else some f.minimum
  maximum : Datum.get? es "max" = if f.maximum.isNull then none else some f.maximum
  autocomplete : Datum.get? es "autocomplete" =
    if f.type = .enum then some (.bool f.autocomplete) else none
  options : Datum.get? es "options" =
    if f.type = .enum ∧ f.options ≠ [] then
      some (.table (mergeEntries (f.options.map fun o => (o.1, .string o.2))))
    else none

/-- The table of a field holds its parts under their keys. -/
theorem exists_holds (f : Field) : ∃ es, f.toTable = .table es ∧ Holds es f := by
  refine ⟨_, rfl, ?_⟩
  by_cases ht : f.type = .enum <;> by_cases ho : f.options = [] <;>
    cases hl : f.minimum.isNull <;> cases hh : f.maximum.isNull <;>
      constructor <;> simp [Datum.get?, boundEntry, ht, ho, hl, hh]

/-- What the rules of fields say of a field that they allow. -/
structure Ruled (f : Field) : Prop where
  name : f.name.isEmpty = false
  implicit : ¬(f.name = implicitField ∧ f.type ≠ .string)
  options : f.type ≠ .enum → f.options = []
  default : Value.ofDatum? f.type f.default.toListed = some f.default

/-- A lawful field keeps to the rules. -/
theorem Lawful.ruled {f : Field} (h : f.Lawful) : f.Ruled := by
  obtain ⟨name, displayName, typeName, default, minimum, maximum, options, autocomplete, h⟩ := h
  unfold make at h
  split at h
  · cases h
  · next type _ =>
    split at h
    · cases h
    · next hn =>
      split at h
      · cases h
      · next hi =>
        split at h
        · cases h
        · next ho =>
          split at h
          · cases h
          · next value hd =>
            cases h
            refine ⟨by simpa using hn, hi, fun ht => ?_, Value.ofDatum?_toListed hd⟩
            by_contra hne
            exact ho ⟨by simpa using hne, ht⟩

/-- The parts of a normalized field pass the rules. -/
theorem Ruled.make {f : Field} (h : f.Ruled) :
    make f.name f.displayName f.type.name f.default.toListed f.minimum f.maximum
        (mergeEntries f.options) (f.autocomplete && f.type == .enum) = .ok f.normalized := by
  have options : ¬((!(mergeEntries f.options).isEmpty) = true ∧ f.type ≠ .enum) := by
    rintro ⟨hne, ht⟩
    rw [h.options ht] at hne
    cases hne
  unfold Field.make
  split
  · next hn =>
    rw [FieldType.ofName?_name] at hn
    cases hn
  · next type hn =>
    rw [FieldType.ofName?_name] at hn
    cases hn
    rw [if_neg (by simp [h.name]), if_neg h.implicit, if_neg options]
    split
    · next hd =>
      rw [h.default] at hd
      cases hd
    · next value hd =>
      rw [h.default] at hd
      cases hd
      simp only [normalized, mergeEntries_options]

/-- A bound that a field may have. -/
def IsBound (d : Datum) : Prop := d = .null ∨ ∃ n, d = .number n

theorem boundOf_get? {d : Datum} (h : IsBound d) (key : String) :
    boundOf key (if d.isNull then none else some d) = .ok d := by
  rcases h with rfl | ⟨n, rfl⟩ <;> rfl

theorem mapM_labels (key : String) (options : List (String × String)) :
    labelsOf key (some (.table (options.map fun o => (o.1, .string o.2)))) = .ok options := by
  have labels : (options.map fun o => (o.1, Datum.string o.2)).mapM
      (fun e => e.2.string?.map (Prod.mk e.1)) = some options := by
    induction options with
    | nil => rfl
    | cons o options ih =>
        rw [List.map_cons, List.mapM_cons, ih]
        rfl
  simp only [labelsOf, labels]

/-- The options of a field are read back merged. -/
theorem Ruled.labelsOf {f : Field} (h : f.Ruled) (key : String) :
    labelsOf key (if f.type = .enum ∧ f.options ≠ [] then
        some (.table (mergeEntries (f.options.map fun o => (o.1, .string o.2)))) else none) =
      .ok (mergeEntries f.options) := by
  split
  · rw [mergeEntries_map, mapM_labels]
  · next hc =>
    have none : f.options = [] := by
      by_cases ht : f.type = .enum
      · exact not_not.mp fun ho => hc ⟨ht, ho⟩
      · exact h.options ht
    rw [none]
    rfl

/-- **The table of a field is read as the normalized field**, whatever its place. -/
theorem ofTable_toTable {f : Field} (h : f.Ruled) (hl : IsBound f.minimum)
    (hh : IsBound f.maximum) (i : Nat) : ofTable i f.toTable = .ok f.normalized := by
  obtain ⟨es, he, hes⟩ := f.exists_holds
  have make := h.make
  rw [he]
  simp only [ofTable, hes.name, hes.type, hes.displayName, hes.default, hes.minimum, hes.maximum,
    hes.options, hes.autocomplete, h.name, FieldType.ofName?_name, boundOf_get? hl, boundOf_get? hh,
    h.labelsOf]
  by_cases ht : f.type = .enum
  · simp only [ht, beq_self_eq_true, Bool.and_true] at make
    simp only [ht, if_true, Bool.false_eq_true, if_false, bind, Except.bind, Option.getD_some, make]
  · simp only [beq_eq_false_iff_ne.mpr ht, Bool.and_false] at make
    simp only [ht, Bool.false_eq_true, if_false, bind, Except.bind, Option.getD_some, make]

end Field

/-! ### The table of a configuration -/

/-- A configuration of fields that the rules allow, with bounds that fields may have. -/
structure Config.Storable (c : Config) : Prop where
  lawful : ∀ f ∈ c.fields.fields, f.Lawful
  bounds : ∀ f ∈ c.fields.fields, Field.IsBound f.minimum ∧ Field.IsBound f.maximum

/-- The registry of the normalized fields. -/
def Registry.normalized (r : Registry) : Registry where
  fields := r.fields.map Field.normalized
  nodup := by
    rw [List.map_map]
    exact r.nodup

/-- **A configuration as a file keeps it.** -/
def Config.normalized (c : Config) : Config := { c with fields := c.fields.normalized }

/-- The tables of fields are read as the normalized fields, in their order. -/
theorem mapM_ofTable (fs : List Field) (h : ∀ f ∈ fs, f.Lawful)
    (hb : ∀ f ∈ fs, Field.IsBound f.minimum ∧ Field.IsBound f.maximum) (i : Nat) :
    ((fs.map Field.toTable).zipIdx i).mapM (fun (x, i) => Field.ofTable i x) =
      .ok (fs.map Field.normalized) := by
  induction fs generalizing i with
  | nil => rfl
  | cons f fs ih =>
      obtain ⟨hf, hfs⟩ := List.forall_mem_cons.mp h
      obtain ⟨hbf, hbfs⟩ := List.forall_mem_cons.mp hb
      simp only [List.map_cons, List.zipIdx_cons, List.mapM_cons, ih hfs hbfs,
        Field.ofTable_toTable hf.ruled hbf.1 hbf.2]
      rfl

/-- The fields of a configuration are read back normalized. -/
theorem Config.fieldsOf_toTable {c : Config} (h : c.Storable) :
    Config.fieldsOf (some (.list (c.fields.fields.map Field.toTable))) =
      .ok c.fields.normalized := by
  have hn : ((c.fields.fields.map Field.normalized).map Field.name).Nodup :=
    c.fields.normalized.nodup
  simp only [Config.fieldsOf, mapM_ofTable _ h.lawful h.bounds 0, bind, Except.bind,
    Registry.ofFields, dif_pos hn]
  rfl

/-- **The table of a configuration is read as the normalized configuration.** -/
theorem Config.ofTable_toTable {c : Config} (h : c.Storable) :
    Config.ofTable c.toTable = .ok c.normalized := by
  have color : valueIn c.toTable "display" "colored_output" = .ok (some (.bool c.coloredOutput)) :=
    rfl
  have operator : valueIn c.toTable "query" "default_operator" =
      .ok (some (.string c.defaultOperator)) := rfl
  have depth : valueIn c.toTable "query" "max_depth" = .ok (some (.int c.maxDepth)) := rfl
  have fields : fieldsOf (Datum.get? c.toTable "fields") = .ok c.fields.normalized :=
    fieldsOf_toTable h
  simp only [ofTable, color, operator, depth, fields, bind, Except.bind]
  rfl

/-- Normalized fields are lawful and are normalized no further. -/
theorem Field.Lawful.normalized {f : Field} (h : f.Lawful) :
    f.normalized.Lawful ∧ f.normalized.normalized = f.normalized := by
  refine ⟨⟨_, _, _, _, _, _, _, _, h.ruled.make⟩, ?_⟩
  rw [normalized_eq_iff, optionKeys, options_normalized]
  refine ⟨nodup_mergeEntries _, fun ha => ?_⟩
  simp only [Field.normalized, Bool.and_eq_true, beq_iff_eq] at ha
  exact ha.2

/-- A normalized configuration can be written too. -/
theorem Config.Storable.normalized {c : Config} (h : c.Storable) : c.normalized.Storable := by
  refine ⟨fun f hf => ?_, fun f hf => ?_⟩ <;> obtain ⟨g, hg, rfl⟩ := List.mem_map.mp hf
  · exact (h.lawful g hg).normalized.1
  · exact h.bounds g hg

/-- A configuration is normalized if its fields are. -/
theorem Config.normalized_eq_iff {c : Config} :
    c.normalized = c ↔ ∀ f ∈ c.fields.fields, f.normalized = f := by
  have fields : c.fields.fields.map Field.normalized = c.fields.fields ↔
      ∀ f ∈ c.fields.fields, f.normalized = f := by
    rw [← List.map_inj_left, List.map_id']
  rw [← fields]
  constructor
  · intro h
    exact congrArg (fun c : Config => c.fields.fields) h
  · intro h
    obtain ⟨⟨fields, nodup⟩, operator, depth, color⟩ := c
    simp only [Config.normalized, Registry.normalized] at h ⊢
    simp only [h]

/-- **Writing a configuration and reading it again.**  It comes back as it was but for two things: a
field that is no enum field has lost its autocompletion, and repeated option keys are merged at
their first place with their last label.  So it comes back unchanged exactly if it has neither; what has
come back once does not change any more; and no label has changed. -/
theorem Config.reread_normalized {c : Config} (h : c.Storable) :
    ofTable c.toTable = .ok c.normalized ∧
      (ofTable c.toTable = .ok c ↔ ∀ f ∈ c.fields.fields,
        f.optionKeys.Nodup ∧ (f.autocomplete = true → f.type = .enum)) ∧
      (∀ c', ofTable c.toTable = .ok c' → ofTable c'.toTable = .ok c') ∧
      ∀ f ∈ c.fields.fields, ∀ key, f.normalized.labelFor key = f.labelFor key := by
  have first := ofTable_toTable h
  have second : c.normalized.normalized = c.normalized := by
    rw [normalized_eq_iff]
    intro f hf
    obtain ⟨g, hg, rfl⟩ := List.mem_map.mp hf
    exact (h.lawful g hg).normalized.2
  refine ⟨first, ?_, ?_, fun f _ key => f.labelFor_normalized key⟩
  · rw [first, Except.ok.injEq, normalized_eq_iff]
    exact forall₂_congr fun f _ => f.normalized_eq_iff
  · intro c' hc
    cases first.symm.trans hc
    rw [ofTable_toTable h.normalized, second]

/-- A title with autocompletion, a colour with a repeated option key, and a price. -/
def Config.sample : Config where
  fields :=
    { fields :=
        [{ name := "title", displayName := "Title", type := .string, default := .string "any",
           autocomplete := true, default_type := rfl },
         { name := "color", displayName := "Colour", type := .enum, default := .enum ["red"],
           options := [("red", "Red"), ("blue", "Blue"), ("red", "Scarlet")], autocomplete := true,
           default_type := rfl },
         { name := "price", displayName := "Price", type := .integerRange,
           default := .integerRange 0 10, minimum := .int 0, default_type := rfl }]
      nodup := by decide }
  maxDepth := 8

theorem Config.sample_storable : Config.sample.Storable := by
  constructor <;> simp only [sample, List.forall_mem_cons]
  · exact ⟨⟨"title", "Title", "string", .string "any", .null, .null, [], true, rfl⟩,
      ⟨"color", "Colour", "enum", .list [.string "red"], .null, .null,
        [("red", "Red"), ("blue", "Blue"), ("red", "Scarlet")], true, rfl⟩,
      ⟨"price", "Price", "integer-range", .list [.int 0, .int 10], .int 0, .null, [], false, rfl⟩,
      List.forall_mem_nil _⟩
  · exact ⟨⟨.inl rfl, .inl rfl⟩, ⟨.inl rfl, .inl rfl⟩, ⟨.inr ⟨_, rfl⟩, .inl rfl⟩,
      List.forall_mem_nil _⟩

theorem Config.reread_normalized_sample :
    Config.sample.Storable ∧ ∃ c, Config.ofTable Config.sample.toTable = .ok c ∧
      c.fields.fields.map Field.options = [[], [("red", "Scarlet"), ("blue", "Blue")], []] ∧
      c.fields.fields.map Field.autocomplete = [false, true, false] ∧
      Config.ofTable c.toTable = .ok c := by
  obtain ⟨h, -, again, -⟩ := Config.reread_normalized Config.sample_storable
  exact ⟨Config.sample_storable, _, h, by decide, by decide, again _ h⟩

end SearchFilters
