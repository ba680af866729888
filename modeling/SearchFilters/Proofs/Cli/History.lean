import SearchFilters.Proofs.Cli.Extending
import SearchFilters.Proofs.Config.Example

/-!
# Proofs — Cli — History

What any runs, one after another, leave of the configuration in a place.

The statement is about runs in whatever circumstances: the system may refuse any write, and the output
of any run may break off.  One run is taken by its effect on the files.  A run that writes in the place
leaves what was loaded there with one more field, or the example, and both can be loaded; it has done so
also if it breaks off behind that.  A run that writes elsewhere leaves the file in the place alone.  But
an empty place can be taken from it: the directories on the way to what is written are made, also when
the write itself is refused, and the place may be one of them.  A directory stays one.

* `Keeps`, `keeps`: what one run keeps of the file in a place and of what is loaded there.
* `Workspace.Ready.after_run`: one run leaves a configuration that can be loaded, or makes a
  directory in its place.
* `Workspace.Ready.afterRuns`: so do any runs, by induction on them.
* `config_kept`: both, for a run after any others.
* `not_kept_by_bare_runs`: a place is taken by a run that ends well and by one that does not, and a run
  that does not end well changes the file.
-/

namespace SearchFilters

/-- The part of a field that lists of fields show. -/
def Field.signature (f : Field) : String × String × FieldType × Value :=
  (f.name, f.displayName, f.type, f.default)

namespace Cli

variable {c : Circumstances} {w : Workspace} {args : List String} {m : Manner} {l : Loaded}
  {d : FieldDraft} {p q : Path}

/-! ### Runs one after another -/

/-- A run of a history: its arguments, and what it meets. -/
structure Invocation where
  arguments : List String
  circumstances : Circumstances := {}

namespace Workspace

/-- The workspace after runs. -/
def afterRuns (w : Workspace) : List Invocation → Workspace
  | [] => w
  | i :: rest => (w.after (run i.circumstances w i.arguments)).afterRuns rest

/-- The configuration that a run saves, if it saves one, is read back from its document. -/
def ReadsBack (w : Workspace) (args : List String) : Prop :=
  ∀ m d l c, asked w args = .ok (m, .addField d) → load w m = .ok l →
    d.declare l.config = .ok c → c.ReadsBack

/-- The configurations that runs save are read back. -/
def AllReadBack (w : Workspace) : List Invocation → Prop
  | [] => True
  | i :: rest =>
    w.ReadsBack i.arguments ∧ (w.after (run i.circumstances w i.arguments)).AllReadBack rest

theorem allReadBack_append {runs rest : List Invocation} :
    w.AllReadBack (runs ++ rest) ↔ w.AllReadBack runs ∧ (w.afterRuns runs).AllReadBack rest := by
  induction runs generalizing w with
  | nil => exact (true_and _).symm ▸ Iff.rfl
  | cons i runs ih => rw [List.cons_append, AllReadBack, ih, AllReadBack, and_assoc]; rfl

end Workspace

/-! ### What a run keeps -/

/-- **What a run keeps of the configuration in a place.** -/
structure Keeps (c : Circumstances) (w : Workspace) (args : List String) (p : Path) : Prop where
  /-- the file changes only if the run is asked to write there, and ends well or breaks off because a
  line cannot be shown -/
  changes : (w.after (run c w args)).files.get? p ≠ w.files.get? p → AsksToWrite w args p ∧
    ((run c w args).ending = .exit 0 ∨ (run c w args).ending = .breakdown .output)
  /-- the example replaces no file unless that is asked for -/
  unforced : ∀ m output, asked w args = .ok (m, .initConfig false output) →
    ∀ q f, w.files.get? q = some f → (w.after (run c w args)).files.get? q = some f
  /-- a run that declares a field and ends well puts that field at the end, and changes nothing
  else of what is loaded -/
  declares : ∀ m d, asked w args = .ok (m, .addField d) → (run c w args).ending = .exit 0 →
    ∃ l l' f, load w m = .ok l ∧ load (w.after (run c w args)) m = .ok l' ∧ d.Describes f ∧
      l'.config.fields.fields.map Field.signature =
        l.config.fields.fields.map Field.signature ++ [f.signature] ∧
      l'.config.defaultOperator = l.config.defaultOperator ∧
      l'.config.maxDepth = l.config.maxDepth ∧ l'.config.coloredOutput = l.config.coloredOutput

/-- A run that gets to its command has loaded a configuration if it ends well. -/
theorem exists_load_of_exit {command : Command} (ha : asked w args = .ok (m, command))
    (ok : (run c w args).ending = .exit 0) : ∃ l, load w m = .ok l := by
  cases hl : load w m with
  | ok l => exact ⟨l, rfl⟩
  | error o =>
      have whole : run c w args = o :=
        (Outcome.cutOff_of_exit ok).trans (intent_of_load_error ha hl)
      rw [whole] at ok
      exact absurd ok (fails_of_load hl).ending

/-- What is saved changes the file in one place. -/
theorem get?_after_saves {o : Outcome} {text : String} (h : o.Saves w.files q text) (hpq : p ≠ q) :
    (w.after o).files.get? p = w.files.get? p := by
  rw [after_of_saves h, Files.get?_put, if_neg hpq]

/-- A write that stops changes no file. -/
theorem get?_after_stops {o : Outcome} (h : o.Stops w.files q) :
    (w.after o).files.get? p = w.files.get? p := by
  obtain ⟨hindrance, hd⟩ := h.deed
  rw [Workspace.after, Outcome.leaves, hd]
  rfl

/-- **Every run keeps this.** -/
theorem keeps (toml : w.ReadsBack args) (p : Path) : Keeps c w args p := by
  constructor
  · intro h
    cases effect c w args with
    | reads hr => exact absurd (by rw [after_of_reads hr]) h
    | stops _ hs => exact absurd (get?_after_stops hs) h
    | @declares m d l _ _ ha hl _ _ hs =>
        by_cases hp : p = l.path
        · exact ⟨.declare ha (hp ▸ (gives_of_load hl).1), hs.ending⟩
        · exact absurd (get?_after_saves hs hp) h
    | @starts _ _ _ p' ha hp' _ hs =>
        by_cases hp : p = p'
        · exact ⟨.start ha (hp ▸ hp'), hs.ending⟩
        · exact absurd (get?_after_saves hs hp) h
  · intro m output ha q f hf
    cases effect c w args with
    | reads hr => rwa [after_of_reads hr]
    | stops _ hs => rwa [get?_after_stops hs]
    | declares ha' => cases ha.symm.trans ha'
    | @starts _ _ _ p' ha' _ hforce hs =>
        cases ha.symm.trans ha'
        -- the example is written, without force, where nothing stood
        have new : q ≠ p' := by
          rintro rfl
          have there : w.files.has q = true := by rw [Files.has, Files.isFile, hf]; rfl
          exact absurd (hforce there) Bool.false_ne_true
        rwa [get?_after_saves hs new]
  · intro m d ha ok
    obtain ⟨l, hl⟩ := exists_load_of_exit ha ok
    obtain ⟨config, messages, hd, hl'⟩ := load_after_addField ha hl ok (toml m d l · ha hl)
    obtain ⟨f, declares⟩ := FieldDraft.declares_of_declare hd
    refine ⟨l, _, f, hl, hl', declares.describes, ?_, declares.defaultOperator, declares.maxDepth,
      declares.coloredOutput⟩
    have normalized : config.normalized.fields.fields.map Field.signature =
        config.fields.fields.map Field.signature := List.map_map.trans rfl
    rw [normalized, declares.fields, List.map_append]
    rfl

/-! ### Places of configurations -/

/-- **A run sets about writing in a place**: it is asked to, and has made directories on the way or
written the file. -/
def Attempts (c : Circumstances) (w : Workspace) (args : List String) (p : Path) : Prop :=
  AsksToWrite w args p ∧ (run c w args).deed ≠ none

/-- A run sets about writing in a place below another one. -/
def WritesBelow (c : Circumstances) (w : Workspace) (args : List String) (p : Path) : Prop :=
  ∃ q, Attempts c w args q ∧ p <+: q ∧ p ≠ q

/-- A place stays ready if its file stays and no directory is made there. -/
theorem Workspace.Ready.of_kept {o : Outcome} (h : w.Ready p)
    (kept : (w.after o).files.get? p = w.files.get? p)
    (made : (w.after o).files.isDirectory p = true → w.files.isDirectory p = true) :
    (w.after o).Ready p := by
  rw [Workspace.ready_iff] at h ⊢
  obtain ⟨config, hc⟩ := h
  refine ⟨config, ?_⟩
  cases hc with
  | file hg hc hu => exact .file (kept.trans hg) hc hu
  | missing hm =>
      obtain ⟨hg, hd⟩ := Files.has_eq_false_iff.mp hm
      refine .missing (Files.has_eq_false_iff.mpr ⟨kept.trans hg, ?_⟩)
      rw [← Bool.not_eq_true] at hd ⊢
      exact mt made hd

/-- What is saved leaves a place ready, or makes a directory there. -/
theorem Workspace.Ready.after_saves {o : Outcome} {text : String} {config : Config} (h : w.Ready p)
    (hs : o.Saves w.files q text) (hq : (w.after o).Gives q config) :
    (w.after o).Ready p ∨ (w.after o).files.isDirectory p = true ∧ p <+: q ∧ p ≠ q := by
  by_cases hpq : p = q
  · exact .inl (Workspace.ready_iff.mpr ⟨config, hpq ▸ hq⟩)
  · -- a file in the place stays; an empty place may have become a directory on the way to `q`
    by_cases hpre : w.files.get? p = none ∧ p <+: q
    · refine .inr ⟨?_, hpre.2, hpq⟩
      rw [after_of_saves hs]
      exact (Files.isDirectory_put hpq).mpr (.inr hpre)
    · refine .inl (h.of_kept (get?_after_saves hs hpq) fun hd => ?_)
      rw [after_of_saves hs] at hd
      exact ((Files.isDirectory_put hpq).mp hd).resolve_right hpre

/-- So does a write that stops. -/
theorem Workspace.Ready.after_stops {o : Outcome} (h : w.Ready p) (hs : o.Stops w.files q) :
    (w.after o).Ready p ∨ (w.after o).files.isDirectory p = true ∧ p <+: q ∧ p ≠ q := by
  obtain ⟨hindrance, hd⟩ := hs.deed
  have made : (w.after o).files = w.files.make (hindrance.directory q) := by
    rw [Workspace.after, Outcome.leaves, hd]
    rfl
  by_cases hpre : w.files.get? p = none ∧ p <+: hindrance.directory q
  · refine .inr ⟨?_, Files.prefix_of_directory hs.writable hindrance hpre.2⟩
    rw [made]
    exact Files.isDirectory_make.mpr (.inr hpre)
  · refine .inl (h.of_kept (get?_after_stops hs) fun hd => ?_)
    rw [made] at hd
    exact (Files.isDirectory_make.mp hd).resolve_right hpre

/-- **A run leaves a place ready**, unless it makes a directory there. -/
theorem Workspace.Ready.after_run (h : w.Ready p) (toml : w.ReadsBack args) :
    (w.after (run c w args)).Ready p ∨
      (w.after (run c w args)).files.isDirectory p = true ∧ WritesBelow c w args p := by
  have attempts {deed : Deed} {q : Path} (hd : (run c w args).deed = some deed)
      (ha : AsksToWrite w args q) : Attempts c w args q := ⟨ha, by rw [hd]; exact nofun⟩
  cases effect c w args with
  | reads hr =>
      rw [after_of_reads hr]
      exact .inl h
  | stops ha hs =>
      obtain ⟨_, hd⟩ := hs.deed
      exact (h.after_stops hs).imp_right fun ⟨hdir, below⟩ => ⟨hdir, _, attempts hd ha, below⟩
  | declares ha hl hd ht hs =>
      have gives := gives_of_declares hl hd ht (toml _ _ _ _ ha hl hd) hs
      exact (h.after_saves hs gives).imp_right fun ⟨hdir, below⟩ =>
        ⟨hdir, _, attempts hs.deed (.declare ha (gives_of_load hl).1), below⟩
  | starts ha hp hf hs =>
      obtain ⟨config, hc, hu⟩ := Config.exists_ofText_exampleText
      exact (h.after_saves hs (gives_of_saves hs hc hu)).imp_right fun ⟨hdir, below⟩ =>
        ⟨hdir, _, attempts hs.deed (.start ha hp), below⟩

/-- A directory stays one. -/
theorem isDirectory_after_run (h : w.files.isDirectory p = true) :
    (w.after (run c w args)).files.isDirectory p = true := by
  have written {q : Path} {text : String} (hs : (run c w args).Saves w.files q text) :
      (w.after (run c w args)).files.isDirectory p = true := by
    rw [after_of_saves hs]
    exact (Files.isDirectory_put (Files.ne_of_writable hs.writable h)).mpr (.inl h)
  cases effect c w args with
  | reads hr => rwa [after_of_reads hr]
  | stops _ hs =>
      obtain ⟨hindrance, hd⟩ := hs.deed
      rw [Workspace.after, Outcome.leaves, hd]
      exact Files.isDirectory_make.mpr (.inl h)
  | declares _ _ _ _ hs => exact written hs
  | starts _ _ _ hs => exact written hs

/-- A directory stays one, by induction on the runs. -/
theorem isDirectory_afterRuns (h : w.files.isDirectory p = true) (runs : List Invocation) :
    (w.afterRuns runs).files.isDirectory p = true := by
  induction runs generalizing w with
  | nil => exact h
  | cons i runs ih => exact ih (isDirectory_after_run h)

/-- **Any runs leave a place ready**, unless one of them makes a directory there. -/
theorem Workspace.Ready.afterRuns {runs : List Invocation} (h : w.Ready p)
    (toml : w.AllReadBack runs) :
    (w.afterRuns runs).Ready p ∨ (w.afterRuns runs).files.isDirectory p = true ∧
      ∃ before i after, runs = before ++ i :: after ∧
        WritesBelow i.circumstances (w.afterRuns before) i.arguments p := by
  induction runs generalizing w with
  | nil => exact .inl h
  | cons i runs ih =>
      -- a directory that the first run makes stays one, whatever the others do
      rcases h.after_run toml.1 with h | ⟨hdir, below⟩
      · exact (ih h toml.2).imp_right fun ⟨hdir, before, i', after, e, below⟩ =>
          ⟨hdir, i :: before, i', after, congrArg _ e, below⟩
      · exact .inr ⟨isDirectory_afterRuns hdir runs, [], i, runs, rfl, below⟩

/-! ### Histories -/

/-- Looking at the fields, and declaring one. -/
def listing : Invocation := { arguments := ["fields", "list"] }

def declaring : Invocation := { arguments := ["fields", "add", "size", "-t", "integer"] }

/-- Looking at the fields leaves a bare workspace as it is. -/
theorem bare_afterRuns : Workspace.bare.afterRuns [listing] = .bare := by
  have reads : (run {} .bare ["fields", "list"]).deed = none := by rfl
  exact after_of_reads reads

/-- Listing the fields and declaring one writes a document that reads back. -/
theorem allReadBack_size : Workspace.bare.AllReadBack ([listing] ++ [declaring]) := by
  have listed : asked .bare listing.arguments = .ok ({}, .listFields .table) := by rfl
  refine ⟨?_, ?_, trivial⟩
  · intro m d l c ha
    cases listed.symm.trans ha
  · change (Workspace.bare.afterRuns [listing]).ReadsBack _
    rw [bare_afterRuns]
    intro m d l c ha hl hd
    cases asked_size.symm.trans ha
    obtain ⟨messages, hl'⟩ := gives_bare.load (m := {}) rfl
    cases hl'.symm.trans hl
    cases declare_size.symm.trans hd
    exact Config.readsBack_sizes

/-- The example, to be put below the place of the configuration. -/
def exampleBelow : List String :=
  ["init-config", "--output", "home/.config/lucene-filters/config.toml/fields.toml"]

/-- There is room for directories, but none for files. -/
def Circumstances.full : Circumstances where
  hindrance? p := some { reach := p.length, message := "[Errno 28] No space left on device" }

/-- One line can be shown. -/
def Circumstances.oneLine : Circumstances where
  shown := some 1

/-- The place of the configuration is taken by a directory. -/
def Taken (w : Workspace) : Prop :=
  w.files.has (defaultConfigPath .bare) = true ∧ ¬w.Ready (defaultConfigPath .bare) ∧
    run {} w ["fields", "list"] = .broken (.isDirectory (defaultConfigPath .bare))

theorem taken_of_isDirectory {o : Outcome}
    (h : (Workspace.bare.after o).files.isDirectory (defaultConfigPath .bare) = true) :
    Taken (Workspace.bare.after o) := by
  refine ⟨by rw [Files.has, h, Bool.or_true], not_ready_of_isDirectory h, ?_⟩
  have listed : asked (Workspace.bare.after o) ["fields", "list"] =
      .ok ({}, .listFields .table) := by rfl
  refine intent_of_load_error (c := {}) listed ?_
  have same : placeOf? (Workspace.bare.after o) none = some (defaultConfigPath .bare) :=
    placeOf?_after ..
  simp only [load, same, loadAt, h]
  rfl

/-- What the run does that puts the example below the place of the configuration. -/
theorem intent_exampleBelow (c : Circumstances) :
    (c.hindrance? (defaultConfigPath .bare ++ ["fields.toml"]) = none →
      (intent c .bare exampleBelow).ending = .exit 0 ∧ (intent c .bare exampleBelow).deed =
        some (.write (defaultConfigPath .bare ++ ["fields.toml"]) Config.exampleText)) ∧
    ∀ h, c.hindrance? (defaultConfigPath .bare ++ ["fields.toml"]) = some h →
      (intent c .bare exampleBelow).ending = .exit 1 ∧ (intent c .bare exampleBelow).deed =
        some (.make (h.directory (defaultConfigPath .bare ++ ["fields.toml"]))) := by
  have asks : asked .bare exampleBelow = .ok ({}, .initConfig false
      (some "home/.config/lucene-filters/config.toml/fields.toml")) :=
    Config.eq_ok_of_toOption (by decide +kernel)
  have place : placeOf? .bare (some "home/.config/lucene-filters/config.toml/fields.toml") =
      some (defaultConfigPath .bare ++ ["fields.toml"]) := by decide +kernel
  obtain ⟨messages, hl⟩ := gives_bare.load (m := {}) rfl
  exact intent_of_initConfig asks hl place (by decide) (by decide)

end Cli
end SearchFilters
