import SearchFilters.Cli.Loading
import SearchFilters.Proofs.Config.Reloading
import SearchFilters.Proofs.Storage.Files

/-!
# Proofs — Cli — Loading

When the configuration in a place can be loaded, and what is loaded then.

What a run loads depends on what stands in a place and on what the run was told: a configuration
that was asked for must be there, and the usual one need not be.  `Workspace.Gives` is the part that
does not depend on the run: the default configuration where nothing stands, and what the text says
where a file does.  Loading succeeds exactly with these, in whatever manner (`gives_of_loadAt`,
`Workspace.Gives.loadAt`), and a place is `Ready` if some configuration is given there.

A run whose configuration cannot be loaded fails and writes nothing (`fails_of_load`).
-/

namespace SearchFilters.Cli

variable {w : Workspace} {m : Manner} {p : Path} {c : Config} {l : Loaded}

/-! ### Failures -/

namespace Outcome

/-- An outcome that reports an error and leaves the files alone. -/
structure Fails (o : Outcome) : Prop where
  ending : o.ending ≠ .exit 0
  deed : o.deed = none

theorem fails_broken (b : Breakdown) : (broken b).Fails := ⟨nofun, rfl⟩

theorem fails_failed {code : Nat} (h : code ≠ 0) (message : String) (hint : Option String) :
    (failed code message hint).Fails :=
  ⟨fun e => h (Ending.exit.inj e), rfl⟩

end Outcome

/-- What is wrong with a configuration is reported, and nothing is written. -/
theorem fails_loadFailure (p : Path) (e : LoadError) : (loadFailure p e).Fails := by
  unfold loadFailure
  split
  · exact Outcome.fails_broken _
  · exact Outcome.fails_broken _
  · exact Outcome.fails_failed (by decide) _ _
  · exact Outcome.fails_failed (by decide) _ _
  · exact Outcome.fails_broken _

/-- A configuration that cannot be loaded is reported. -/
theorem fails_of_loadAt {o : Outcome} (h : loadAt w m p = .error o) : o.Fails := by
  cases hd : w.files.isDirectory p with
  | true =>
      rw [Cli.loadAt, hd] at h
      cases h
      exact Outcome.fails_broken _
  | false =>
      simp only [Cli.loadAt, hd, Bool.false_eq_true, if_false] at h
      split at h
      · cases h
      · cases h
        exact fails_loadFailure _ _
      · next text _ _ =>
        cases ht : Config.ofText text with
        | error e =>
            rw [ht] at h
            cases h
            exact fails_loadFailure _ _
        | ok r =>
            simp only [ht, Except.mapError, bind, Except.bind, pure, Except.pure] at h
            cases hl : warningLines r.2 with
            | error e =>
                rw [hl] at h
                cases h
                exact Outcome.fails_broken _
            | ok lines =>
                rw [hl] at h
                cases h

/-- **A run whose configuration cannot be loaded fails.** -/
theorem fails_of_load {o : Outcome} (h : load w m = .error o) : o.Fails := by
  unfold load at h
  split at h
  · cases h
    exact Outcome.fails_broken _
  · exact fails_of_loadAt h

/-! ### Configurations of places -/

namespace Workspace

/-- **The configuration of a place**: the usual one if nothing stands there, that of the text if it
is a file. -/
inductive Gives (w : Workspace) (p : Path) : Config → Prop where
  | missing (h : w.files.has p = false) : Gives w p {}
  | file {text : String} {isPrivate : Bool} {c : Config} {warnings : List ConfigWarning}
      (h : w.files.get? p = some ⟨some text, isPrivate⟩)
      (hc : Config.ofText text = .ok (c, warnings)) (hu : c.Usable) : Gives w p c

/-- A place whose configuration is loaded, in whatever manner it is asked for. -/
def Ready (w : Workspace) (p : Path) : Prop := ∀ m, ∃ l, loadAt w m p = .ok l

end Workspace

/-- What is loaded can be written and used. -/
theorem Workspace.Gives.sound (h : w.Gives p c) : c.Storable ∧ c.Usable := by
  cases h with
  | missing => exact ⟨Config.storable_default, Config.usable_default⟩
  | file _ hc hu => exact ⟨(Config.checked_of_ofText hc).1, hu⟩

theorem warningLines_eq_ok_iff {warnings : List ConfigWarning} {lines : List String} :
    warningLines warnings = .ok lines ↔ ∃ messages,
      warnings.mapM ConfigWarning.message = .ok messages ∧
        messages.map (Console.notice "Warning") = lines := by
  simp only [warningLines, bind_eq_ok_iff, pure, Except.pure, Except.ok.injEq]

/-- **What is loaded from a place is its configuration.** -/
theorem gives_of_loadAt (h : loadAt w m p = .ok l) : w.Gives p l.config ∧ l.path = p := by
  -- a directory, nothing, a file without text, or a file with one
  cases hd : w.files.isDirectory p with
  | true =>
      rw [Cli.loadAt, hd] at h
      cases h
  | false =>
      simp only [Cli.loadAt, hd] at h
      cases hg : w.files.get? p with
      | none =>
          simp only [hg] at h
          cases h
          exact ⟨.missing (Files.has_eq_false_iff.mpr ⟨hg, hd⟩), rfl⟩
      | some f =>
          obtain ⟨text?, isPrivate⟩ := f
          cases text? with
          | none =>
              simp only [hg] at h
              cases h
          | some text =>
              simp only [hg, Bool.false_eq_true, if_false, bind_eq_ok_iff, mapError_eq_ok_iff] at h
              obtain ⟨⟨c, warnings⟩, hc, _, hr, lines, hl, h⟩ := h
              cases hr
              cases h
              obtain ⟨messages, hm, -⟩ := warningLines_eq_ok_iff.mp hl
              exact ⟨.file hg hc ⟨_, _, (Config.checked_of_ofText hc).2, hm⟩, rfl⟩

/-- **The configuration of a place is loaded** in whatever manner it is asked for. -/
theorem Workspace.Gives.loadAt (h : w.Gives p c) (m : Manner) :
    ∃ messages, loadAt w m p = .ok ⟨c, p, messages⟩ := by
  cases h with
  | missing h =>
      obtain ⟨hg, hd⟩ := Files.has_eq_false_iff.mp h
      simp only [Cli.loadAt, hg, hd]
      exact ⟨_, rfl⟩
  | file h hc hu =>
      obtain ⟨_, messages, hw, hl⟩ := hu
      cases hw.symm.trans (Config.checked_of_ofText hc).2
      have lines := warningLines_eq_ok_iff.mpr ⟨messages, hl, rfl⟩
      simp only [Cli.loadAt, h, Files.isDirectory_of_get? h, hc, lines, Bool.false_eq_true,
        if_false, Except.mapError, bind, Except.bind, pure, Except.pure]
      exact ⟨_, rfl⟩

/-- **A place is ready exactly if it is empty or its file gives a configuration.** -/
theorem Workspace.ready_iff : w.Ready p ↔ ∃ c, w.Gives p c := by
  constructor
  · intro h
    obtain ⟨l, hl⟩ := h {}
    exact ⟨l.config, (gives_of_loadAt hl).1⟩
  · rintro ⟨c, hc⟩ m
    obtain ⟨messages, hl⟩ := hc.loadAt m
    exact ⟨_, hl⟩

/-- A directory holds no configuration. -/
theorem not_ready_of_isDirectory (h : w.files.isDirectory p = true) : ¬w.Ready p := by
  intro hr
  obtain ⟨c, hc⟩ := Workspace.ready_iff.mp hr
  cases hc with
  | missing hm => exact nomatch h.symm.trans (Files.has_eq_false_iff.mp hm).2
  | file hg => exact nomatch h.symm.trans (Files.isDirectory_of_get? hg)

/-- What is loaded is the configuration of the place that is asked for. -/
theorem gives_of_load (h : load w m = .ok l) :
    placeOf? w m.config = some l.path ∧ w.Gives l.path l.config := by
  unfold load at h
  split at h
  · cases h
  · next p hp =>
    obtain ⟨hg, e⟩ := gives_of_loadAt h
    rw [← e] at hp hg
    exact ⟨hp, hg⟩

/-- The configuration of the place that a run is told of is loaded. -/
theorem Workspace.Gives.load (h : w.Gives p c) (hp : placeOf? w m.config = some p) :
    ∃ messages, load w m = .ok ⟨c, p, messages⟩ := by
  unfold Cli.load
  rw [hp]
  exact h.loadAt m

end SearchFilters.Cli
