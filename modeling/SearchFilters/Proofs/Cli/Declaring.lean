import SearchFilters.Cli.Fields
import SearchFilters.Proofs.Config.Reloading
import SearchFilters.Proofs.Filter.Extending

/-!
# Proofs — Cli — Declaring

What declaring a field does to a configuration.

A draft is checked by the rules of fields and its default is read from a text, and if nothing is
wrong the field has the parts that the draft describes (`FieldDraft.Describes`,
`describes_of_toField`).  It is put at the end of the registry, if its name is new.  `Declares` says
what the configuration has in common with the one before: the same settings, and the same fields
with the new one behind them.  From this alone it follows that it can be written and used if that
could, and that its fields are found as before.
-/

namespace SearchFilters

/-! ### Values and their data -/

theorem number_of_finite? {x y : Number} (h : (Datum.number x).finite? = some y) : y = x := by
  rw [Datum.finite?] at h
  split at h
  · exact (Option.some.inj h).symm
  · cases h

/-- The datum of a value gives no other value. -/
theorem eq_of_ofDatum?_toDatum {v v' : Value} (h : Value.ofDatum? v.type v.toDatum = some v') :
    v' = v := by
  cases v with
  | string s | integer i | boolean b | integerRange low high => exact (Option.some.inj h).symm
  | float x =>
      obtain ⟨y, hy, rfl⟩ := Option.map_eq_some_iff.mp h
      rw [number_of_finite? hy]
  | floatRange low high =>
      simp only [Value.ofDatum?, Value.type, Value.toDatum, Value.pair?, Datum.items?,
        Option.bind_eq_bind, Option.bind_some, Option.bind_eq_some_iff, Option.pure_def,
        Option.some.injEq] at h
      obtain ⟨x, hx, y, hy, rfl⟩ := h
      rw [number_of_finite? hx, number_of_finite? hy]
  | enum items =>
      simp only [Value.ofDatum?, Value.type, Value.toDatum, Datum.items?, Option.bind_eq_bind,
        Option.bind_some, mapM_string?, Option.pure_def, Option.some.injEq] at h
      exact h.symm

/-- A filter that a text gives has the value that is read. -/
theorem read_of_ofText {f : Field} {text : String} {x : Filter} (h : Filter.ofText f text = .ok x) :
    Value.read f.type text.toList = .ok (some x.value) := by
  unfold Filter.ofText at h
  split at h
  · cases h
  · cases h
  · next hv =>
    cases h
    exact hv

namespace Cli

variable {d : FieldDraft} {f : Field} {c : Config}

/-! ### The field of a draft -/

namespace FieldDraft

/-- The display name of a draft, its name if none is given. -/
def label (d : FieldDraft) : String :=
  match d.displayName with
  | some l => if l.isEmpty then d.name else l
  | none => d.name

/-- **The field that a draft describes.** -/
structure Describes (d : FieldDraft) (f : Field) : Prop where
  lawful : f.Lawful
  name : f.name = d.name
  displayName : f.displayName = d.label
  type : f.type = d.type
  default : match d.default with
    | none => f.default = Value.empty d.type
    | some text => Value.read d.type text.toList = .ok (some f.default)
  minimum : f.minimum = (d.minimum.map Datum.float).getD .null
  maximum : f.maximum = (d.maximum.map Datum.float).getD .null

end FieldDraft

/-- **The field of a draft is the one that it describes.** -/
theorem FieldDraft.describes_of_toField (h : d.toField = .ok f) : d.Describes f := by
  simp only [FieldDraft.toField, bind_eq_ok_iff, mapError_eq_ok_iff] at h
  obtain ⟨options, -, g, hg, h⟩ := h
  have made := Field.madeOf_of_make hg
  have type : g.type = d.type :=
    Option.some.inj (made.type.symm.trans (FieldType.ofName?_name d.type))
  -- a default is read as a value of the field without one, and then the field is made again
  cases hd : d.default with
  | none =>
      rw [hd] at h
      cases h
      refine ⟨⟨_, _, _, _, _, _, _, _, hg⟩, made.name, made.displayName, type, ?_, made.minimum,
        made.maximum⟩
      rw [hd]
      refine eq_of_ofDatum?_toDatum ?_
      rw [Value.type_empty, ← type]
      exact type ▸ made.default
  | some text =>
      simp only [hd, bind_eq_ok_iff] at h
      obtain ⟨x, hx, h⟩ := h
      split at h
      · next hf =>
        cases h
        have again := Field.madeOf_of_make hf
        have same : f.type = g.type :=
          Option.some.inj (again.type.symm.trans (FieldType.ofName?_name g.type))
        have value := read_of_ofText hx
        have default : f.default = x.value := by
          refine eq_of_ofDatum?_toDatum ?_
          rw [Value.type_of_read value, ← same]
          exact again.default
        refine ⟨⟨_, _, _, _, _, _, _, _, hf⟩, again.name.trans made.name,
          again.displayName.trans made.displayName, same.trans type, ?_,
          again.minimum.trans made.minimum, again.maximum.trans made.maximum⟩
        rw [hd, default, ← type]
        exact value
      · cases h

/-! ### A configuration with one more field -/

/-- A configuration with the field of a draft at the end. -/
def FieldDraft.declare (d : FieldDraft) (c : Config) : Except AssignmentError Config := do
  let f ← d.toField
  let fields ← (c.fields.add f).mapError .invalid
  pure { c with fields }

/-- A configuration that declares one more field than another one, and is otherwise like it. -/
structure Declares (d : FieldDraft) (c c' : Config) (f : Field) : Prop where
  describes : d.Describes f
  fields : c'.fields.fields = c.fields.fields ++ [f]
  defaultOperator : c'.defaultOperator = c.defaultOperator
  maxDepth : c'.maxDepth = c.maxDepth
  coloredOutput : c'.coloredOutput = c.coloredOutput

/-- Declaring a draft adds its field at the end and changes nothing else. -/
theorem FieldDraft.declares_of_declare {c' : Config} (h : d.declare c = .ok c') :
    ∃ f, Declares d c c' f := by
  simp only [FieldDraft.declare, bind_eq_ok_iff, mapError_eq_ok_iff] at h
  obtain ⟨f, hf, fields, ha, h⟩ := h
  cases h
  refine ⟨f, describes_of_toField hf, ?_, rfl, rfl, rfl⟩
  unfold Registry.add Registry.ofFields at ha
  split at ha
  · cases ha
    rfl
  · cases ha

namespace Declares
variable {c' : Config} (h : Declares d c c' f)
include h

theorem joiner? : c'.joiner? = c.joiner? := by
  rw [Config.joiner?, h.defaultOperator, Config.joiner?]

/-- One more field can be written. -/
theorem storable (hc : c.Storable) : c'.Storable := by
  refine Config.storable_iff.mpr fun g hg => ?_
  rw [h.fields] at hg
  rcases List.mem_append.mp hg with hg | hg
  · exact Config.storable_iff.mp hc g hg
  · obtain rfl := List.mem_singleton.mp hg
    have bound (b : Option Binary64) : Field.IsBound ((b.map Datum.float).getD .null) := by
      cases b with
      | none => exact .inl rfl
      | some x => exact .inr ⟨_, rfl⟩
    exact ⟨h.describes.lawful, h.describes.minimum ▸ bound _, h.describes.maximum ▸ bound _⟩

/-- One more field can be used, its bounds being floating-point numbers. -/
theorem usable (hc : c.Usable) : c'.Usable := by
  obtain ⟨hj, hd, hf⟩ := Config.usable_iff.mp hc
  refine Config.usable_iff.mpr ⟨h.joiner? ▸ hj, h.maxDepth ▸ hd, fun g hg => ?_⟩
  rw [h.fields] at hg
  rcases List.mem_append.mp hg with hg | hg
  · exact hf g hg
  · obtain rfl := List.mem_singleton.mp hg
    exact Field.comparable_of_floats h.describes.minimum h.describes.maximum

/-- The fields that there were are found as before, also when the file keeps them. -/
theorem within : c.fields.Within c'.normalized.fields := by
  have kept : c'.normalized.fields.fields = c'.fields.fields.map Field.normalized := rfl
  exact (Registry.within_of_append h.fields).trans
    (Registry.within_of_map kept fun _ => ⟨rfl, rfl⟩)

end Declares

end Cli
end SearchFilters
