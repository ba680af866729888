import SearchFilters.Proofs.Config.Reloading
import SearchFilters.Proofs.Text.Split

/-!
# Proofs — Config — Faults

How reading a table as a configuration fails.

Almost everything that is wrong with a table is answered with an error that names the key of the
value.  `Reports` says of a part of reading that it fails in no other way, and it goes through
whatever is done one after another, so that it holds of fields and of settings by what they are made
of (`Field.reports_ofTable`, `Config.reports_settingOf`).

What is not answered so is the look into a section before it is known to be a table.  A number
breaks in any case, and a list or a text does if the key occurs in it (`Datum.Breaks`).  As a table
is read setting by setting (`Config.ofTable_eq`), reading stops at the display section, or at the
query section if the setting before it was right (`Config.Stops`).  `Config.ofTable_outcome` puts
both together for every table, and `Config.not_reported_numericDisplay` is one whose section is not
answered with an error.
-/

namespace SearchFilters

/-! ### Errors for values -/

/-- Reading that fails only with an error for the value under a key. -/
def Reports {α : Type} (x : Except ConfigError α) : Prop :=
  ∀ e, x = .error e → ∃ key fault, e = .value key fault

section Reports
variable {α β : Type}

theorem reports_ok (a : α) : Reports (.ok a) := nofun

theorem reports_value (key : String) (fault : ConfigFault) :
    Reports (α := α) (.error (.value key fault)) := by
  intro e h
  exact ⟨key, fault, (Except.error.inj h).symm⟩

/-- Reading one thing after another fails on a value if each of them does. -/
theorem Reports.bind {x : Except ConfigError α} {f : α → Except ConfigError β} (hx : Reports x)
    (hf : ∀ a, Reports (f a)) : Reports (x >>= f) := by
  intro e h
  rcases bind_eq_error_iff.mp h with h | ⟨a, -, h⟩
  · exact hx e h
  · exact hf a e h

theorem reports_mapM {f : α → Except ConfigError β} (hf : ∀ a, Reports (f a)) (xs : List α) :
    Reports (xs.mapM f) := by
  induction xs with
  | nil => exact reports_ok []
  | cons x xs ih =>
      rw [List.mapM_cons]
      exact (hf x).bind fun y => ih.bind fun ys => reports_ok _

end Reports

namespace Field

theorem reports_boundOf (key : String) (d : Option Datum) : Reports (boundOf key d) := by
  unfold boundOf
  split
  · exact reports_ok _
  · exact reports_ok _
  · exact reports_ok _
  · exact reports_value _ _

theorem reports_labelsOf (key : String) (d : Option Datum) : Reports (labelsOf key d) := by
  unfold labelsOf
  split
  · exact reports_ok _
  · split
    · exact reports_ok _
    · exact reports_value _ _
  · exact reports_value _ _

/-- **The table of a field fails on a value**, whatever is wrong with it. -/
theorem reports_ofTable (i : Nat) (d : Datum) : Reports (ofTable i d) := by
  intro e h
  unfold ofTable at h
  dsimp only [bind, Except.bind] at h
  -- a part that is right or missing leads on to the next
  repeat' first
    | contradiction
    | split at h
  all_goals cases h
  -- the parts that are wrong themselves, then those that are read by functions of their own
  all_goals first
    | exact ⟨_, _, rfl⟩
    | exact reports_labelsOf _ _ _ (by assumption)
    | exact reports_boundOf _ _ _ (by assumption)

end Field

theorem Config.reports_fieldsOf (d : Option Datum) : Reports (fieldsOf d) := by
  unfold fieldsOf
  split
  · exact reports_ok _
  · refine (reports_mapM (fun x => ?_) _).bind fun fs => ?_
    · exact Field.reports_ofTable x.2 x.1
    split
    · exact reports_ok _
    · exact reports_value _ _
  · exact reports_value _ _

/-! ### Sections -/

/-- **A section in which a key cannot be looked up**: one that is no table, unless it is a row or a
text in which the key does not occur. -/
def Datum.Breaks (key : String) : Datum → Prop
  | .table _                                => False
  | .list xs | .tuple xs                    => .string key ∈ xs
  | .string s                               => key.toList <:+: s.toList
  | .null | .bool _ | .number _ | .moment _ => True

theorem Datum.any_string?_iff {xs : List Datum} {key : String} :
    (xs.any fun x => x.string? == some key) = true ↔ .string key ∈ xs := by
  rw [List.any_eq_true]
  constructor
  · rintro ⟨x, hx, h⟩
    cases x with
    | string s =>
        cases Option.some.inj (beq_iff_eq.mp h)
        exact hx
    | _ => cases h
  · intro h
    exact ⟨_, h, beq_self_eq_true _⟩

namespace Config

variable {es : List (String × Datum)} {d : Datum} {name key key' : String}

/-- **A setting cannot be looked up** exactly if its section breaks for its key. -/
theorem valueIn_eq_error_iff {e : ConfigError} : valueIn es name key = .error e ↔
    e = .unusableSection name ∧ ∃ d, Datum.get? es name = some d ∧ d.Breaks key := by
  rw [valueIn]
  cases Datum.get? es name with
  | none => simp
  | some d =>
      cases d with
      | table sub => simp [Datum.Breaks]
      | list xs | tuple xs =>
          simp only [Option.some.injEq, exists_eq_left', Datum.Breaks, ← Datum.any_string?_iff]
          split
          · next h => simp [h, eq_comm]
          · next h => simp [h]
      | string s =>
          simp only [Option.some.injEq, exists_eq_left', Datum.Breaks, ← Text.isSome_cut?_iff]
          split
          · next h => simp [h, eq_comm]
          · next h => simp [h]
      | null | bool b | number n | moment s => simp [Datum.Breaks, eq_comm]

/-- A section that breaks for one key only has nothing under the other. -/
theorem valueIn_of_breaks (hd : Datum.get? es name = some d) (h : d.Breaks key)
    (h' : ¬d.Breaks key') : valueIn es name key' = .ok none := by
  rw [valueIn, hd]
  cases d with
  | table sub => cases h
  | list xs | tuple xs => exact if_neg (mt Datum.any_string?_iff.mp h')
  | string s => exact if_neg (mt Text.isSome_cut?_iff.mp h')
  | null | bool b | number n | moment s => exact absurd trivial h'

/-! ### Settings -/

/-- A boolean. -/
def bool? : Datum → Option Bool
  | .bool b => some b
  | _       => none

/-- A setting out of the value under its key, or what is usual. -/
def settingOf {α : Type} (key : String) (fault : ConfigFault) (usual : α)
    (get? : Datum → Option α) : Option Datum → Except ConfigError α
  | none => .ok usual
  | some d =>
    match get? d with
    | some a => .ok a
    | none   => .error (.value key fault)

def coloredOf : Option Datum → Except ConfigError Bool :=
  settingOf "display.colored_output" .notBoolean true bool?

def operatorOf : Option Datum → Except ConfigError String :=
  settingOf "query.default_operator" .notString Joiner.implicit.text Datum.string?

def depthOf : Option Datum → Except ConfigError Int :=
  settingOf "query.max_depth" .notInteger defaultMaxDepth Datum.int?

/-- A table is read setting by setting. -/
theorem ofTable_eq (es : List (String × Datum)) :
    ofTable es = (valueIn es "display" "colored_output" >>= coloredOf) >>= fun coloredOutput =>
      (valueIn es "query" "default_operator" >>= operatorOf) >>= fun defaultOperator =>
        (valueIn es "query" "max_depth" >>= depthOf) >>= fun maxDepth =>
          fieldsOf (Datum.get? es "fields") >>= fun fields =>
            .ok { fields, defaultOperator, maxDepth, coloredOutput } := by
  unfold ofTable
  cases valueIn es "display" "colored_output" with
  | error e => rfl
  | ok color =>
    rcases color with _ | ⟨_ | _ | _ | _ | _ | _ | _ | _⟩ <;> try rfl
    all_goals
      cases valueIn es "query" "default_operator" with
      | error e => rfl
      | ok operator =>
        rcases operator with _ | ⟨_ | _ | _ | _ | _ | _ | _ | _⟩ <;> try rfl
        all_goals
          cases valueIn es "query" "max_depth" with
          | error e => rfl
          | ok depth => rcases depth with _ | ⟨_ | _ | ⟨_ | _⟩ | _ | _ | _ | _ | _⟩ <;> rfl

/-- A setting of the wrong type is reported with its key. -/
theorem reports_settingOf {α : Type} {fault : ConfigFault} {usual : α} {get? : Datum → Option α}
    (d : Option Datum) : Reports (settingOf key fault usual get? d) := by
  unfold settingOf
  split
  · exact reports_ok _
  · split
    · exact reports_ok _
    · exact reports_value _ _

theorem reports_coloredOf (d : Option Datum) : Reports (coloredOf d) := reports_settingOf d

theorem reports_operatorOf (d : Option Datum) : Reports (operatorOf d) := reports_settingOf d

theorem reports_depthOf (d : Option Datum) : Reports (depthOf d) := reports_settingOf d

/-- The only section that a setting comes to is its own. -/
theorem setting_eq_error_iff {α : Type} {read : Option Datum → Except ConfigError α}
    (hr : ∀ d, Reports (read d)) {n : String} :
    valueIn es name key >>= read = .error (.unusableSection n) ↔
      n = name ∧ ∃ d, Datum.get? es name = some d ∧ d.Breaks key := by
  rw [bind_eq_error_iff, valueIn_eq_error_iff, ConfigError.unusableSection.injEq]
  refine or_iff_left ?_
  rintro ⟨d, -, h⟩
  obtain ⟨_, _, ⟨⟩⟩ := hr d _ h

/-- **Reading a table stops at a section**: at the display section if that breaks, and at the query
section if only that does and the setting of colours is a boolean. -/
inductive Stops (es : List (String × Datum)) : String → Prop where
  | display {d : Datum} (hd : Datum.get? es "display" = some d) (hb : d.Breaks "colored_output") :
      Stops es "display"
  | query {d : Datum} {color : Option Bool}
      (hc : valueIn es "display" "colored_output" = .ok (color.map .bool))
      (hd : Datum.get? es "query" = some d)
      (hb : d.Breaks "default_operator" ∨ d.Breaks "max_depth") : Stops es "query"

/-- The setting of colours is right exactly if it is missing or a boolean. -/
theorem coloredOf_eq_ok_iff {d : Option Datum} :
    (∃ b, coloredOf d = .ok b) ↔ ∃ color : Option Bool, d = color.map .bool := by
  constructor
  · rintro ⟨b, h⟩
    cases d with
    | none => exact ⟨none, rfl⟩
    | some d =>
        cases d with
        | bool b => exact ⟨some b, rfl⟩
        | _ => cases h
  · rintro ⟨color, rfl⟩
    cases color with
    | none => exact ⟨true, rfl⟩
    | some b => exact ⟨b, rfl⟩

/-- **Reading a table fails on a section** exactly if it stops there. -/
theorem ofTable_eq_unusableSection_iff :
    ofTable es = .error (.unusableSection name) ↔ Stops es name := by
  have fields : ¬fieldsOf (Datum.get? es "fields") = .error (.unusableSection name) := by
    intro h
    obtain ⟨_, _, ⟨⟩⟩ := reports_fieldsOf _ _ h
  rw [ofTable_eq, bind_eq_error_iff, setting_eq_error_iff reports_coloredOf]
  simp only [bind_eq_error_iff, setting_eq_error_iff reports_operatorOf,
    setting_eq_error_iff reports_depthOf, fields, reduceCtorEq, and_false, exists_false, or_false]
  constructor
  · rintro (⟨rfl, d, hd, hb⟩ | ⟨b, hc, h⟩)
    · exact .display hd hb
    · obtain ⟨c, hv, hc⟩ := bind_eq_ok_iff.mp hc
      obtain ⟨color, rfl⟩ := coloredOf_eq_ok_iff.mp ⟨b, hc⟩
      rcases h with ⟨rfl, d, hd, hb⟩ | ⟨s, -, rfl, d, hd, hb⟩
      · exact .query hv hd (.inl hb)
      · exact .query hv hd (.inr hb)
  · intro h
    cases h with
    | display hd hb => exact .inl ⟨rfl, _, hd, hb⟩
    | @query d color hv hd hb =>
        obtain ⟨b, hc⟩ := coloredOf_eq_ok_iff.mpr ⟨color, rfl⟩
        refine .inr ⟨b, bind_eq_ok_iff.mpr ⟨_, hv, hc⟩, ?_⟩
        by_cases ho : d.Breaks "default_operator"
        · exact .inl ⟨rfl, d, hd, ho⟩
        · -- a section that breaks is no table, so it has no operator
          have hm : d.Breaks "max_depth" := hb.resolve_left ho
          exact .inr ⟨_, bind_eq_ok_iff.mpr ⟨none, valueIn_of_breaks hd hm ho, rfl⟩, rfl, d, hd, hm⟩

/-- A setting fails on its section or on its value, and on nothing else. -/
theorem setting_error {α : Type} {read : Option Datum → Except ConfigError α}
    (hr : ∀ d, Reports (read d)) {e : ConfigError} (h : valueIn es name key >>= read = .error e) :
    (∃ n, e = .unusableSection n) ∨ ∃ key fault, e = .value key fault := by
  rcases bind_eq_error_iff.mp h with h | ⟨d, -, h⟩
  · exact .inl ⟨name, (valueIn_eq_error_iff.mp h).1⟩
  · exact .inr (hr d e h)

/-- What reading a table fails with is a section or a value. -/
theorem ofTable_error {e : ConfigError} (h : ofTable es = .error e) :
    (∃ n, e = .unusableSection n) ∨ ∃ key fault, e = .value key fault := by
  rw [ofTable_eq] at h
  rcases bind_eq_error_iff.mp h with h | ⟨b, -, h⟩
  · exact setting_error reports_coloredOf h
  rcases bind_eq_error_iff.mp h with h | ⟨s, -, h⟩
  · exact setting_error reports_operatorOf h
  rcases bind_eq_error_iff.mp h with h | ⟨i, -, h⟩
  · exact setting_error reports_depthOf h
  · exact .inr (((reports_fieldsOf _).bind fun r => reports_ok _) e h)

/-- **How reading a table ends**: it fails on a section exactly if it stops there, and otherwise it
ends in an error for a value or in a configuration, whose fields obey the rules and have names of
their own. -/
theorem ofTable_outcome (es : List (String × Datum)) :
    (∃ name, Stops es name ∧ ofTable es = .error (.unusableSection name)) ∨
      ((∀ name, ¬Stops es name) ∧
        ((∃ key fault, ofTable es = .error (.value key fault)) ∨
          ∃ c, ofTable es = .ok c ∧ (c.fields.fields.map Field.name).Nodup ∧
            ∀ f ∈ c.fields.fields,
              f.Ruled ∧ Field.IsBound f.minimum ∧ Field.IsBound f.maximum)) := by
  by_cases hs : ∃ name, Stops es name
  · obtain ⟨name, hs⟩ := hs
    exact .inl ⟨name, hs, ofTable_eq_unusableSection_iff.mpr hs⟩
  · refine .inr ⟨not_exists.mp hs, ?_⟩
    cases h : ofTable es with
    | ok c =>
        refine .inr ⟨c, rfl, c.fields.nodup, fun f hf => ?_⟩
        have hf := storable_iff.mp (storable_of_ofTable h) f hf
        exact ⟨hf.lawful.ruled, hf.minimum, hf.maximum⟩
    | error e =>
        rcases ofTable_error h with ⟨name, rfl⟩ | ⟨key, fault, rfl⟩
        · exact absurd ⟨name, ofTable_eq_unusableSection_iff.mp h⟩ hs
        · exact .inl ⟨key, fault, rfl⟩

/-- A table whose display section is a number. -/
def numericDisplay : List (String × Datum) := [("display", .int 1)]

/-- **Some table has neither a configuration nor an error for a value**: one with a number for a
section. -/
theorem not_reported_numericDisplay :
    ¬∀ es, (∃ c, ofTable es = .ok c) ∨ ∃ key fault, ofTable es = .error (.value key fault) := by
  intro h
  have fails : ofTable numericDisplay = .error (.unusableSection "display") :=
    ofTable_eq_unusableSection_iff.mpr (.display rfl trivial)
  rcases h numericDisplay with ⟨c, hc⟩ | ⟨key, fault, hv⟩
  · cases hc.symm.trans fails
  · cases hv.symm.trans fails

end Config
end SearchFilters
