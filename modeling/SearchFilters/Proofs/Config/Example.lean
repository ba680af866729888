import SearchFilters.Config.Example
import SearchFilters.Proofs.Config.Reloading

/-!
# Proofs — Config — Example

The configuration to start from can be used.

Its text is fixed, so that loading can be run on it; what stands in the way is that a text is kept
as bytes, out of which its characters would have to be read.  So the characters are put together
from those of the lines (`lineChars`), one line at a time (`lineChars_cons`), and loading is run on
them (`unwarned?`): it ends in a configuration that passes its checks without warnings
(`exists_ofText_exampleText`).
-/

namespace SearchFilters.Config

/-- The configuration in some characters, if it passes its checks without warnings. -/
def unwarned? (cs : List Char) : Option Config := do
  let d ← (Toml.readStatements (cs.length + 1) {} cs).toOption
  let c ← (ofTable d.entries).toOption
  match c.validate with
  | .ok [] => some c
  | _ => none

theorem eq_ok_of_toOption {ε α : Type} {x : Except ε α} {a : α} (h : x.toOption = some a) :
    x = .ok a := by
  cases x with
  | error e => cases h
  | ok b => exact congrArg _ (Option.some.inj h)

/-- A text whose characters pass without warnings is loaded without warnings. -/
theorem ofText_of_unwarned? {text : String} {c : Config}
    (h : unwarned? (Toml.unifyLineEnds text.toList) = some c) :
    ofText text = .ok (c, []) ∧ c.Usable := by
  simp only [unwarned?, Option.bind_eq_bind, Option.bind_eq_some_iff] at h
  obtain ⟨d, hd, c', hc, h⟩ := h
  split at h
  · next hv =>
    cases h
    refine ⟨?_, [], [], hv, rfl⟩
    simp only [ofText, Toml.read, eq_ok_of_toOption hd, eq_ok_of_toOption hc, hv, Except.mapError,
      bind, Except.bind, pure, Except.pure]
  · cases h

/-- The characters of lines with their ends. -/
def lineChars (lines : List String) : List Char := (String.join (lines.map (· ++ "\n"))).toList

theorem lineChars_nil : lineChars [] = [] := String.toList_ofList

/-- The characters of lines, one line at a time. -/
theorem lineChars_cons {line cs : List Char} {lines : List String} (h : lineChars lines = cs) :
    lineChars (String.ofList line :: lines) = line ++ '\n' :: cs := by
  have lineEnd : "\n".toList = ['\n'] := String.toList_ofList
  rw [lineChars, List.map_cons, String.join_cons, String.toList_append, String.toList_append,
    String.toList_ofList, lineEnd, List.append_assoc, ← h]
  rfl

/-- A text of lines is loaded if the characters of the lines are. -/
theorem unwarned_of_lines {lines : List String} {cs : List Char} (ht : lineChars lines = cs)
    (h : (unwarned? (Toml.unifyLineEnds cs)).isSome = true) :
    ∃ c, ofText (String.join (lines.map (· ++ "\n"))) = .ok (c, []) ∧ c.Usable := by
  obtain ⟨c, hc⟩ := Option.isSome_iff_exists.mp h
  rw [← ht] at hc
  exact ⟨c, ofText_of_unwarned? hc⟩

/-- **The example can be used.** -/
theorem exists_ofText_exampleText : ∃ c, ofText exampleText = .ok (c, []) ∧ c.Usable := by
  dsimp only [exampleText, exampleLines]
  apply unwarned_of_lines
  · repeat apply lineChars_cons
    exact lineChars_nil
  · decide +kernel

end SearchFilters.Config
