import SearchFilters.Cli.Run
import SearchFilters.Proofs.Cli.Declaring
import SearchFilters.Proofs.Cli.Loading

/-!
# Proofs — Cli — Running

What a run asks for, and what it does to the files.

A run is taken apart in two steps.  What it would do if it could show all its lines (`intent`) is known
from its command: of the six commands two write a file, each in one way, and a write is done, or
refused behind the directories on the way, or has something in its way (`writeOutcome_cases`).  Where
the output breaks off then, the run has done that already or does nothing (`Outcome.cutOff_cases`), and
it never ends well.  So every run has one of four effects on the files (`Effect`, `effect`), in
whatever circumstances.

* `asked`: the manner and the command that the arguments of a run ask for.
* `saves_of_addField`, `load_after_addField`: a run that declares a field and ends well has saved the
  configuration with that field, and it is loaded after the run.
-/

namespace SearchFilters.Cli

variable {c : Circumstances} {w : Workspace} {args : List String} {m : Manner} {l : Loaded}
  {d : FieldDraft}

/-! ### Outcomes -/

namespace Outcome

variable {o : Outcome} {fs : Files} {p : Path} {text : String}

/-- An outcome that writes a text in a place where nothing is in the way.  It ends well unless a line
behind that cannot be shown. -/
structure Saves (o : Outcome) (fs : Files) (p : Path) (text : String) : Prop where
  deed : o.deed = some (.write p text)
  writable : fs.writeFault? p = none
  ending : o.ending = .exit 0 ∨ o.ending = .breakdown .output

/-- An outcome that fails to write in a place where nothing is in the way, and leaves directories. -/
structure Stops (o : Outcome) (fs : Files) (p : Path) : Prop where
  deed : ∃ h : Hindrance, o.deed = some (.make (h.directory p))
  writable : fs.writeFault? p = none
  ending : o.ending ≠ .exit 0

/-- Warnings in front change nothing of what a run does. -/
theorem Fails.after (h : o.Fails) (messages : List String) : (o.after messages).Fails :=
  ⟨h.ending, h.deed⟩

theorem Saves.after (h : o.Saves fs p text) (messages : List String) :
    (o.after messages).Saves fs p text := ⟨h.deed, h.writable, h.ending⟩

theorem Stops.after (h : o.Stops fs p) (messages : List String) : (o.after messages).Stops fs p :=
  ⟨h.deed, h.writable, h.ending⟩

/-- Showing results leaves the files alone. -/
theorem deed_ofNumber_showing (x : Except NumberFault (List String)) :
    (ofNumber (x.map showing)).deed = none := by
  cases x <;> rfl

/-- **An outcome that is cut off** is the same if nothing is missing; otherwise the output breaks off,
before anything is done to the files or behind it. -/
theorem cutOff_cases (o : Outcome) (shown : Option Nat) :
    o.cutOff shown = o ∨ (o.cutOff shown).ending = .breakdown .output ∧
      ((o.cutOff shown).deed = none ∨ (o.cutOff shown).deed = o.deed) := by
  cases shown with
  | none => exact .inl rfl
  | some n =>
      rw [cutOff]
      split
      · exact .inr ⟨rfl, .inl rfl⟩
      · split
        · exact .inr ⟨rfl, .inr rfl⟩
        · exact .inl rfl

/-- What ends with an exit code has shown all its lines. -/
theorem cutOff_of_exit {shown : Option Nat} {code : Nat}
    (h : (o.cutOff shown).ending = .exit code) : o.cutOff shown = o := by
  rcases o.cutOff_cases shown with same | ⟨broken, -⟩
  · exact same
  · cases h.symm.trans broken

end Outcome

/-! ### Commands -/

/-- **Writing a file** is done, or refused behind the directories on the way, or has something in its
way. -/
theorem writeOutcome_cases (c : Circumstances) (fs : Files) (p : Path) (text : String)
    {done : Outcome} (hd : done.ending = .exit 0) {code : Nat} (hc : code ≠ 0) :
    (writeOutcome c fs p text done code).Saves fs p text ∨
      (writeOutcome c fs p text done code).Stops fs p ∨
      (writeOutcome c fs p text done code).Fails := by
  rw [writeOutcome]
  cases hw : fs.writeFault? p with
  | some fault => exact .inr (.inr (Outcome.fails_failed hc _ _))
  | none =>
      cases hh : c.hindrance? p with
      | some h => exact .inr (.inl ⟨⟨h, rfl⟩, hw, fun e => hc (Ending.exit.inj e)⟩)
      | none => exact .inl ⟨rfl, hw, .inl hd⟩

/-- Saving a configuration that has a text is writing that text. -/
theorem saveOutcome_cases (c : Circumstances) (w : Workspace) (m : Manner) (l : Loaded)
    (config : Config) (message : String) :
    (∃ text, config.toText = .ok text ∧
      (saveOutcome c w m l config message).Saves w.files l.path text) ∨
    (saveOutcome c w m l config message).Stops w.files l.path ∨
    (saveOutcome c w m l config message).Fails := by
  rw [saveOutcome]
  cases ht : config.toText with
  | error e => exact .inr (.inr (Outcome.fails_broken _))
  | ok text =>
      refine (writeOutcome_cases c w.files l.path text ?_ (by decide)).imp_left fun hs =>
        ⟨text, rfl, hs⟩
      rfl

/-- **Declaring a field** saves the configuration with that field, or stops at that, or fails. -/
theorem runAddField_cases (c : Circumstances) (w : Workspace) (m : Manner) (l : Loaded)
    (d : FieldDraft) :
    (∃ config text, d.declare l.config = .ok config ∧ config.toText = .ok text ∧
      (runAddField c w m l d).Saves w.files l.path text) ∨
    (runAddField c w m l d).Stops w.files l.path ∨ (runAddField c w m l d).Fails := by
  rw [runAddField]
  cases hn : l.config.fields.contains d.name with
  | true => exact .inr (.inr (Outcome.fails_failed (by decide) _ _))
  | false =>
    rw [if_neg Bool.false_ne_true]
    cases hf : d.toField with
    | error e =>
      cases e with
      | number f => exact .inr (.inr (Outcome.fails_broken _))
      | invalid e => exact .inr (.inr (Outcome.fails_failed (by decide) _ _))
    | ok f =>
      cases ha : l.config.fields.add f with
      | error e =>
        simp only [ha]
        exact .inr (.inr (Outcome.fails_failed (by decide) _ _))
      | ok fields =>
        simp only [ha]
        have declared : d.declare l.config = .ok { l.config with fields } := by
          simp only [FieldDraft.declare, hf, ha, Except.mapError, bind, Except.bind, pure,
            Except.pure]
        rcases saveOutcome_cases c w m l { l.config with fields } _ with ⟨text, ht, hs⟩ | hs | hs
        · exact .inl ⟨_, text, declared, ht, hs.after _⟩
        · exact .inr (.inl (hs.after _))
        · exact .inr (.inr (hs.after _))

/-- **Writing the example** saves it where nothing stands or replacing is asked for, or stops at that,
or fails. -/
theorem runInitConfig_cases (c : Circumstances) (w : Workspace) (force : Bool)
    (output : Option String) :
    (∃ p, placeOf? w output = some p ∧ (w.files.has p = true → force = true) ∧
      ((runInitConfig c w force output).Saves w.files p Config.exampleText ∨
        (runInitConfig c w force output).Stops w.files p)) ∨
    (runInitConfig c w force output).Fails := by
  rw [runInitConfig]
  cases hp : placeOf? w output with
  | none => exact .inr (Outcome.fails_broken _)
  | some p =>
    by_cases hc : (w.files.has p && !force) = true
    · simp only [if_pos hc]
      exact .inr (Outcome.fails_failed (by decide) _ _)
    · simp only [if_neg hc]
      have forced : w.files.has p = true → force = true := by
        intro h
        rw [h] at hc
        simpa using hc
      rcases writeOutcome_cases c w.files p Config.exampleText
        (rfl : (Outcome.showing _).ending = .exit 0) (by decide : 1 ≠ 0) with hs | hs | hs
      · exact .inl ⟨p, rfl, forced, .inl hs⟩
      · exact .inl ⟨p, rfl, forced, .inr hs⟩
      · exact .inr hs

theorem deed_runParse (m : Manner) (c : Config) (words : List String) (j : Option Joiner)
    (layout : Layout) : (runParse m c words j layout).deed = none := by
  unfold runParse
  dsimp only
  split
  · rfl
  · rfl
  · split
    · rfl
    · rfl
    · exact Outcome.deed_ofNumber_showing _

theorem deed_runBuild (m : Manner) (c : Config) (assignments exclusions : List String)
    (j : Option Joiner) : (runBuild m c assignments exclusions j).deed = none := by
  unfold runBuild
  split
  · rfl
  · rfl
  · next s _ =>
    cases ht : build s (joinerFor c j) with
    | error f => rfl
    | ok t =>
      simp only [bind, Except.bind, pure, Except.pure]
      cases printQuery t <;> rfl

theorem deed_runListFields (c : Config) (layout : Layout) :
    (runListFields c layout).deed = none :=
  Outcome.deed_ofNumber_showing _

theorem deed_runHelp (words : List String) : (runHelp words).deed = none := by
  unfold runHelp
  split <;> rfl

theorem deed_haltOutcome (h : Halt) : (haltOutcome h).deed = none := by
  unfold haltOutcome
  split <;> rfl

/-! ### Runs -/

/-- What the arguments of a run ask for. -/
def asked (w : Workspace) (args : List String) : Except Halt (Manner × Command) := do
  let isDirectory := w.files.namesDirectory w.directory
  let (m, name, rest) ← readRoot isDirectory args
  let command ← readCommand isDirectory name rest
  pure (m, command)

/-- Where the configuration is loaded, the command is run behind the warnings about it. -/
theorem intent_of_asked {command : Command} (ha : asked w args = .ok (m, command))
    (hl : load w m = .ok l) :
    intent c w args = (runCommand c w m l command).after l.messages := by
  simp only [asked, bind_eq_ok_iff] at ha
  obtain ⟨⟨m', name, rest⟩, hr, command', hc, h⟩ := ha
  cases h
  simp only [intent, hr, hl, hc]

/-- A run whose configuration cannot be loaded ends there. -/
theorem intent_of_load_error {command : Command} {o : Outcome}
    (ha : asked w args = .ok (m, command)) (hl : load w m = .error o) : intent c w args = o := by
  simp only [asked, bind_eq_ok_iff] at ha
  obtain ⟨⟨m', name, rest⟩, hr, command', hc, h⟩ := ha
  cases h
  simp only [intent, hr, hl]

/-- A run either gets to its command or leaves the files alone. -/
theorem intent_cases (c : Circumstances) (w : Workspace) (args : List String) :
    (∃ m command l, asked w args = .ok (m, command) ∧ load w m = .ok l ∧
      intent c w args = (runCommand c w m l command).after l.messages) ∨
    (intent c w args).deed = none := by
  cases hr : readRoot (w.files.namesDirectory w.directory) args with
  | error h =>
    right
    simp only [intent, hr]
    exact deed_haltOutcome h
  | ok r =>
    obtain ⟨m, name, rest⟩ := r
    cases hl : load w m with
    | error o =>
      right
      simp only [intent, hr, hl]
      exact (fails_of_load hl).deed
    | ok l =>
      cases hc : readCommand (w.files.namesDirectory w.directory) name rest with
      | error h =>
        right
        simp only [intent, hr, hl, hc]
        exact deed_haltOutcome h
      | ok command =>
        have ha : asked w args = .ok (m, command) := by
          simp only [asked, hr, hc, bind, Except.bind, pure, Except.pure]
        exact .inl ⟨m, command, l, ha, hl, intent_of_asked ha hl⟩

/-- The arguments of a run ask for a file to be written in a place: the configuration there with one
more field, or the example. -/
inductive AsksToWrite (w : Workspace) (args : List String) (p : Path) : Prop where
  | declare {m : Manner} {d : FieldDraft} (ha : asked w args = .ok (m, .addField d))
      (hp : placeOf? w m.config = some p)
  | start {m : Manner} {force : Bool} {output : Option String}
      (ha : asked w args = .ok (m, .initConfig force output)) (hp : placeOf? w output = some p)

/-- **What an outcome of a run does to the files.** -/
inductive Effect (w : Workspace) (args : List String) (o : Outcome) : Prop where
  /-- it leaves them alone -/
  | reads (h : o.deed = none)
  /-- it stops at the file that it is asked to write, and leaves directories -/
  | stops {p : Path} (ha : AsksToWrite w args p) (hs : o.Stops w.files p)
  /-- it saves the configuration with one more field where the configuration was looked for -/
  | declares {m : Manner} {d : FieldDraft} {l : Loaded} {c : Config} {text : String}
      (ha : asked w args = .ok (m, .addField d)) (hl : load w m = .ok l)
      (hd : d.declare l.config = .ok c) (ht : c.toText = .ok text)
      (hs : o.Saves w.files l.path text)
  /-- it saves the example in the place that is asked for -/
  | starts {m : Manner} {force : Bool} {output : Option String} {p : Path}
      (ha : asked w args = .ok (m, .initConfig force output)) (hp : placeOf? w output = some p)
      (hf : w.files.has p = true → force = true) (hs : o.Saves w.files p Config.exampleText)

/-- Cutting an outcome off undoes nothing: what it has done to the files, it has done. -/
theorem Effect.cutOff {o : Outcome} (h : Effect w args o) (shown : Option Nat) :
    Effect w args (o.cutOff shown) := by
  rcases o.cutOff_cases shown with same | ⟨broken, hn | hd⟩
  · rwa [same]
  · exact .reads hn
  · have unwell : (o.cutOff shown).ending ≠ .exit 0 := by
      rw [broken]
      exact nofun
    cases h with
    | reads h => exact .reads (hd.trans h)
    | stops ha hs =>
        obtain ⟨h, e⟩ := hs.deed
        exact .stops ha ⟨⟨h, hd.trans e⟩, hs.writable, unwell⟩
    | declares ha hl hc ht hs =>
        exact .declares ha hl hc ht ⟨hd.trans hs.deed, hs.writable, .inr broken⟩
    | starts ha hp hf hs =>
        exact .starts ha hp hf ⟨hd.trans hs.deed, hs.writable, .inr broken⟩

/-- **Every run does one of the four.** -/
theorem effect (c : Circumstances) (w : Workspace) (args : List String) :
    Effect w args (run c w args) := by
  refine Effect.cutOff ?_ c.shown
  rcases intent_cases c w args with ⟨m, command, l, ha, hl, hr⟩ | h
  · -- four commands never write, and the other two do nothing when they fail
    have reads (h : (runCommand c w m l command).deed = none) : Effect w args (intent c w args) := by
      refine .reads ?_
      rw [hr]
      exact h
    cases command with
    | help words => exact reads (deed_runHelp words)
    | parse words j layout => exact reads (deed_runParse m l.config words j layout)
    | build assignments exclusions j =>
        exact reads (deed_runBuild m l.config assignments exclusions j)
    | listFields layout => exact reads (deed_runListFields l.config layout)
    | addField d =>
        rcases runAddField_cases c w m l d with ⟨config, text, hd, ht, hs⟩ | hs | hf
        · refine .declares ha hl hd ht ?_
          rw [hr]
          exact hs.after _
        · refine .stops (.declare ha (gives_of_load hl).1) ?_
          rw [hr]
          exact hs.after _
        · exact reads hf.deed
    | initConfig force output =>
        rcases runInitConfig_cases c w force output with ⟨p, hp, hf, hs | hs⟩ | hf
        · refine .starts ha hp hf ?_
          rw [hr]
          exact hs.after _
        · refine .stops (.start ha hp) ?_
          rw [hr]
          exact hs.after _
        · exact reads hf.deed
  · exact .reads h

/-- **A run that declares a field and ends well** has saved the configuration with that field. -/
theorem saves_of_addField (ha : asked w args = .ok (m, .addField d)) (hl : load w m = .ok l)
    (ok : (run c w args).ending = .exit 0) :
    ∃ config text, d.declare l.config = .ok config ∧ config.toText = .ok text ∧
      (run c w args).Saves w.files l.path text := by
  have whole : run c w args = (runAddField c w m l d).after l.messages :=
    (Outcome.cutOff_of_exit ok).trans (intent_of_asked ha hl)
  rw [whole] at ok ⊢
  rcases runAddField_cases c w m l d with ⟨config, text, hd, ht, hs⟩ | hs | hf
  · exact ⟨config, text, hd, ht, hs.after _⟩
  · exact absurd ok hs.ending
  · exact absurd ok hf.ending

/-- **A run that is asked for the example**, where nothing is in the way of it, writes it unless the
system refuses, and otherwise leaves the directories that it has made. -/
theorem intent_of_initConfig {force : Bool} {output : Option String} {p : Path}
    (ha : asked w args = .ok (m, .initConfig force output)) (hl : load w m = .ok l)
    (hp : placeOf? w output = some p) (hf : w.files.has p = true → force = true)
    (hw : w.files.writeFault? p = none) :
    (c.hindrance? p = none → (intent c w args).ending = .exit 0 ∧
      (intent c w args).deed = some (.write p Config.exampleText)) ∧
    ∀ h, c.hindrance? p = some h → (intent c w args).ending = .exit 1 ∧
      (intent c w args).deed = some (.make (h.directory p)) := by
  have free : ¬(w.files.has p && !force) = true := by
    rw [Bool.and_eq_true, Bool.not_eq_true']
    rintro ⟨h, hn⟩
    exact nomatch hn.symm.trans (hf h)
  rw [intent_of_asked ha hl, runCommand, runInitConfig, hp]
  simp only [if_neg free, writeOutcome, hw]
  constructor
  · intro hh
    rw [hh]
    exact ⟨rfl, rfl⟩
  · intro h hh
    rw [hh]
    exact ⟨rfl, rfl⟩

/-! ### Files after a run -/

/-- Runs do not move. -/
@[simp] theorem placeOf?_after (w : Workspace) (o : Outcome) (written : Option String) :
    placeOf? (w.after o) written = placeOf? w written := by
  cases written <;> rfl

/-- A run that does nothing leaves everything as it was. -/
theorem after_of_reads {o : Outcome} (h : o.deed = none) : w.after o = w := by
  rw [Workspace.after, Outcome.leaves, h]
  rfl

/-- A run that saves leaves the file written. -/
theorem after_of_saves {o : Outcome} {p : Path} {text : String} (h : o.Saves w.files p text) :
    (w.after o).files = w.files.put p text := by
  rw [Workspace.after, Outcome.leaves, h.deed]
  rfl

/-- What is saved is found. -/
theorem gives_of_saves {o : Outcome} {p : Path} {text : String} {c : Config}
    {warnings : List ConfigWarning} (h : o.Saves w.files p text)
    (hc : Config.ofText text = .ok (c, warnings)) (hu : c.Usable) : (w.after o).Gives p c := by
  have found : (w.after o).files.get? p = some ⟨some text, true⟩ := by
    rw [after_of_saves h, Files.get?_put, if_pos rfl]
  exact .file found hc hu

/-- **A configuration that is saved with one more field is the one that is found.** -/
theorem gives_of_declares {o : Outcome} {c : Config} {text : String} (hl : load w m = .ok l)
    (hd : d.declare l.config = .ok c) (ht : c.toText = .ok text) (hb : c.ReadsBack)
    (hs : o.Saves w.files l.path text) : (w.after o).Gives l.path c.normalized := by
  obtain ⟨f, declares⟩ := FieldDraft.declares_of_declare hd
  obtain ⟨storable, usable⟩ := (gives_of_load hl).2.sound
  obtain ⟨hu, warnings, hc⟩ := (declares.usable usable).reload (declares.storable storable) hb ht
  exact gives_of_saves hs hc hu

/-- **After a run that declares a field and ends well**, the configuration with that field is loaded
as its file keeps it. -/
theorem load_after_addField (ha : asked w args = .ok (m, .addField d)) (hl : load w m = .ok l)
    (ok : (run c w args).ending = .exit 0)
    (toml : ∀ config, d.declare l.config = .ok config → config.ReadsBack) :
    ∃ config messages, d.declare l.config = .ok config ∧
      load (w.after (run c w args)) m = .ok ⟨config.normalized, l.path, messages⟩ := by
  obtain ⟨config, text, hd, ht, hs⟩ := saves_of_addField ha hl ok
  have place : placeOf? (w.after (run c w args)) m.config = some l.path := by
    rw [placeOf?_after]
    exact (gives_of_load hl).1
  obtain ⟨messages, hl'⟩ := (gives_of_declares hl hd ht (toml config hd) hs).load place
  exact ⟨config, messages, hd, hl'⟩

end SearchFilters.Cli
