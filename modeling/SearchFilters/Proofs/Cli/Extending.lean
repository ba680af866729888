import SearchFilters.Proofs.Cli.Running
import SearchFilters.Proofs.Filter.Polarity

/-!
# Proofs — Cli — Extending

Declaring a field leaves the queries alone that could be split before.

A run that declares a field and ends well has saved the configuration with that field, and what is
loaded after it is that configuration, normalized (`load_after_addField`).  Its registry has the
fields of the one before within it, since adding a field and normalizing fields change nothing that
queries can tell; so queries that split have the same entries (`split_declared`).
-/

namespace SearchFilters

/-- The query `a NOT b`. -/
def Tree.oneNotOther : Tree := .binary (.term { text := "a" }) .not (.term { text := "b" }) {}

namespace Cli

variable {c : Circumstances} {w : Workspace} {args : List String} {m : Manner} {l : Loaded} {d : FieldDraft}

/-- **Declaring a field never changes how queries split.**  After a run that declares a field and
ends well, the configuration can be loaded again, and every query text that was split with the one
before is split with it, by the same operator and depth, into the same names and values. -/
theorem split_declared (ha : asked w args = .ok (m, .addField d)) (hl : load w m = .ok l)
    (ok : (run c w args).ending = .exit 0)
    (toml : ∀ c, d.declare l.config = .ok c → c.ReadsBack) :
    ∃ l', load (w.after (run c w args)) m = .ok l' ∧
      ∀ text q j s, Query.parse text = .ok q →
        split q l.config.fields (joinerFor l.config j) l.config.maxDepth = .ok s →
        ∃ s', split q l'.config.fields (joinerFor l'.config j) l'.config.maxDepth = .ok s' ∧
          s'.entries = s.entries := by
  obtain ⟨config, messages, hd, hl'⟩ := load_after_addField ha hl ok toml
  obtain ⟨f, declares⟩ := FieldDraft.declares_of_declare hd
  refine ⟨_, hl', fun _ q j s _ hq => ?_⟩
  have joiner : joinerFor config.normalized j = joinerFor l.config j :=
    congrArg (fun j? => j.getD (Option.getD j? .implicit)) declares.joiner?
  have depth : config.normalized.maxDepth = l.config.maxDepth := declares.maxDepth
  rw [joiner, depth]
  exact split_within declares.within hq

/-! ### The first field of a new configuration -/

/-- A workspace without files. -/
def Workspace.bare : Workspace where
  files := { directories := [["tmp", "home"]] }
  directory := ["tmp"]
  home := ["tmp", "home"]

/-- The declaration of sizes as integers. -/
def FieldDraft.size : FieldDraft := { name := "size", type := .integer }

theorem declare_size : FieldDraft.size.declare {} = .ok Config.sizes := by
  rfl

theorem asked_size : asked .bare ["fields", "add", "size", "-t", "integer"] =
    .ok ({}, .addField .size) := by
  rfl

theorem ending_size :
    (run {} .bare ["fields", "add", "size", "-t", "integer"]).ending = .exit 0 := by
  rfl

theorem gives_bare : Workspace.bare.Gives (defaultConfigPath .bare) {} := .missing rfl

/-- A field for sizes is declared where nothing is configured, and `a NOT b` splits as before. -/
theorem split_declared_sample :
    asked .bare ["fields", "add", "size", "-t", "integer"] = .ok ({}, .addField .size) ∧
      (run {} .bare ["fields", "add", "size", "-t", "integer"]).ending = .exit 0 ∧
      (∀ c, FieldDraft.size.declare {} = .ok c → c.ReadsBack) ∧
      ∃ l l', load .bare {} = .ok l ∧
        load (Workspace.bare.after (run {} .bare ["fields", "add", "size", "-t", "integer"])) {} =
          .ok l' ∧
        ∃ q s', Query.parse "a NOT b" = .ok q ∧
          split q l'.config.fields (joinerFor l'.config none) l'.config.maxDepth = .ok s' ∧
          s'.entries = ([("<implicit>", .string "a")], [("<implicit>", .string "b")]) := by
  have toml : ∀ c, FieldDraft.size.declare {} = .ok c → c.ReadsBack := by
    intro c hc
    cases declare_size.symm.trans hc
    exact Config.readsBack_sizes
  obtain ⟨messages, hl⟩ := gives_bare.load (m := {}) rfl
  obtain ⟨l', hl', hsplit⟩ := split_declared asked_size hl ending_size toml
  have parsed : Query.parse "a NOT b" = .ok (some Tree.oneNotOther) :=
    Query.parse_of_run (by decide +kernel)
  obtain ⟨s', hs', he⟩ := hsplit "a NOT b" _ none ⟨[.ofWord "a"], [.ofWord "b"]⟩ parsed rfl
  exact ⟨asked_size, ending_size, toml, _, l', hl, hl', _, s', parsed, hs', he⟩

end Cli
end SearchFilters
