import SearchFilters.Proofs.Filter.Editing
import SearchFilters.Proofs.Filter.Modifiers
import SearchFilters.Proofs.Query.Spelling

/-!
# Proofs — Filter — FieldName

Which field names can be written in a query.

Building a query does not look at the names of fields, and printing writes them as they are, so that
the query of a filter has a text whatever its field is called (`exists_chars_of_plain`).  Reading
gives no other names than the implicit one and those made of name characters: this holds of every
tree that is read (`formed_of_parse`), and so of the filters of every query (`leafy_of_split`).  A
filter on a field of another name is lost for good, as no text at all gives it; every other filter
comes back (`split_print_only_iff`).
-/

namespace SearchFilters
open Text Query

variable {registry : Registry} {d : Int} {s : Selection} {t : Tree} {f : Filter}

/-! ### Texts of trees without modifiers -/

/-- Without modifiers there are no numbers to be written. -/
theorem numbers_of_unmodified {u : Term} (h : ¬u.Modified) : u.numbers = [] := by
  simp only [Term.Modified, not_or, Bool.not_eq_true, Option.isSome_eq_false_iff,
    Option.isNone_iff_eq_none] at h
  obtain ⟨hb, -, -, hs, hp⟩ := h
  simp [Term.numbers, hb, hs, hp]

/-- **A tree without modifiers has a text.** -/
theorem exists_chars_of_plain (h : t.Plain) : ∃ l, t.chars = .ok l := by
  have none : t.numbers = [] :=
    List.flatMap_eq_nil_iff.mpr fun u hu => numbers_of_unmodified (h u hu)
  exact Tree.exists_chars (none ▸ nofun)

/-! ### Names that are read -/

/-- **The filters of a query that is read are on fields whose names can be written.** -/
theorem leafy_of_split {q : String} {t : Option Tree} {j : Joiner} (hp : parse q = .ok t)
    (h : split t registry j d = .ok s) (hf : f ∈ s.asserted ++ s.excluded) :
    Leafy f.field.name := by
  obtain ⟨c, hc, hcf⟩ := exists_clause_of_split hp h hf
  obtain ⟨g, hname, -, hg⟩ := readOn_of_clauseFilter hc hcf
  rwa [hg.field]

/-! ### Single filters -/

/-- The selection of a single filter, asserted or excluded. -/
def Selection.only (f : Filter) : Bool → Selection
  | true  => { asserted := [f] }
  | false => { excluded := [f] }

theorem Selection.mem_only (f : Filter) (asserted : Bool) :
    f ∈ (only f asserted).asserted ++ (only f asserted).excluded := by
  cases asserted <;> exact List.mem_singleton_self f

theorem build_only {j : Joiner} (h : f.serialize = .ok t) (asserted : Bool) :
    build (.only f asserted) j = .ok (queryOf j [⟨t, asserted⟩]) := by
  cases asserted <;>
  · simp only [build, Selection.only, itemsOf, List.mapM_cons, List.mapM_nil, h]
    rfl

/-- A single filter that can be written comes back from its text. -/
theorem split_print_only (hlaw : f.field.Lawful) (h : f.WritableIn registry) (asserted : Bool)
    (j : Joiner) (hd : 1 ≤ d) :
    ∃ t text u, build (.only f asserted) j = .ok t ∧ printQuery t = .ok text ∧
      parse text = .ok u ∧ split u registry j d = .ok (.only f asserted) := by
  obtain ⟨t, ht, hx⟩ := serialize_writable_of_lawful hlaw h
  let e : Entry (Expresses registry) := ⟨f, asserted, t, hx⟩
  have depth : [e].length = 0 ∨ (max 1 ([e].length - 1) : Int) ≤ d := .inr (by simpa using hd)
  have fits : ∀ x ∈ [e].tail, x.Fits j := List.forall_mem_nil _
  obtain ⟨text, u, hprint, hparse, hsplit⟩ := split_text_of_fits depth fits
  refine ⟨_, text, u, build_only ht asserted, hprint, hparse, hsplit.trans ?_⟩
  cases asserted <;> rfl

/-- **A filter comes back from its text exactly if the name of its field can be written**: if the
field is the implicit one or its name is made of name characters.  The query of the filter alone is
printed in any case; but no text gives any filter on a field of another name. -/
theorem split_print_only_iff (hlaw : f.field.Lawful)
    (hget : registry.get? f.field.name = some f.field) (hv : f.value.Expressible)
    (asserted : Bool) (j : Joiner) (hd : 1 ≤ d) :
    ∃ t text, build (.only f asserted) j = .ok t ∧ printQuery t = .ok text ∧
      ((∃ u, parse text = .ok u ∧ split u registry j d = .ok (.only f asserted)) ↔
        f.field.name = implicitField ∨ isFieldName f.field.name.toList = true) ∧
      (¬(f.field.name = implicitField ∨ isFieldName f.field.name.toList = true) →
        ∀ q u j' d' s, parse q = .ok u → split u registry j' d' = .ok s →
          ∀ x ∈ s.asserted ++ s.excluded, x.field.name ≠ f.field.name) := by
  have hx : f.ExpressibleIn registry := ⟨Registry.mem_of_get? hget, hv⟩
  have lost (hn : ¬Leafy f.field.name) (q : String) (u : Option Tree) (j' : Joiner) (d' : Int)
      (s : Selection) (hp : parse q = .ok u) (hs : split u registry j' d' = .ok s) :
      ∀ x ∈ s.asserted ++ s.excluded, x.field.name ≠ f.field.name :=
    fun x hx e => hn (e ▸ leafy_of_split hp hs hx)
  by_cases hn : Leafy f.field.name
  · obtain ⟨t, text, u, hb, hprint, hparse, hsplit⟩ :=
      split_print_only hlaw ⟨hx, hn⟩ asserted j hd
    exact ⟨t, text, hb, hprint, iff_of_true ⟨u, hparse, hsplit⟩ hn, fun h => absurd hn h⟩
  · -- the filter is still printed, in a text that is read as something else if at all
    obtain ⟨t, ht, ha⟩ := serialize_expresses hx
    obtain ⟨l, hl⟩ := exists_chars_of_plain (plain_of_clauseFilter ha.filter)
    have hprint : printQuery (queryOf j [⟨t, asserted⟩]) =
        .ok (String.ofList (Grouping.wrap { start := Item.start ⟨t, asserted⟩ } l)) := by
      rw [queryOf, printQuery, Tree.print, Tree.chars_single hl]
      rfl
    refine ⟨_, _, build_only ht asserted, hprint, iff_of_false ?_ hn, lost⟩
    rintro ⟨u, hparse, hsplit⟩
    exact lost hn _ u j d _ hparse hsplit f (Selection.mem_only f asserted) rfl

/-- A field whose name has a blank in it. -/
def Field.blankName : Field := .ofIntegers "unit price" "Unit price"

/-- A field whose name is made of name characters. -/
def Field.dashedName : Field := .ofIntegers "unit-price" "Unit price"

/-- Both fields. -/
def Registry.unitPrices : Registry := ⟨[.blankName, .dashedName], by decide⟩

/-- The name `unit price` cannot be written in a query, so that its filter is lost. -/
theorem split_print_only_iff_sample :
    Field.blankName.Lawful ∧ Registry.unitPrices.get? "unit price" = some .blankName ∧
    Value.Expressible (.integer (-3)) ∧
    (∃ t text, build (.only ⟨.blankName, .integer (-3), rfl⟩ false) .and = .ok t ∧
      printQuery t = .ok text ∧ ¬∃ u, parse text = .ok u ∧
        split u Registry.unitPrices .and 1 =
          .ok (.only ⟨.blankName, .integer (-3), rfl⟩ false)) ∧
    ∃ t text u, build (.only ⟨.dashedName, .integer (-3), rfl⟩ false) .and = .ok t ∧
      printQuery t = .ok text ∧ parse text = .ok u ∧
        split u Registry.unitPrices .and 1 =
          .ok (.only ⟨.dashedName, .integer (-3), rfl⟩ false) := by
  have lawful : Field.blankName.Lawful :=
    ⟨"unit price", "Unit price", "integer", .int 0, .null, .null, [], false, rfl⟩
  have lawful' : Field.dashedName.Lawful :=
    ⟨"unit-price", "Unit price", "integer", .int 0, .null, .null, [], false, rfl⟩
  have found : Registry.unitPrices.get? Field.blankName.name = some .blankName := rfl
  have found' : Registry.unitPrices.get? Field.dashedName.name = some .dashedName := rfl
  have expressible : Numeral.Short (-3) := by decide
  refine ⟨lawful, found, expressible, ?_, ?_⟩
  · obtain ⟨t, text, hb, hp, h, -⟩ := split_print_only_iff (f := ⟨.blankName, .integer (-3), rfl⟩)
      lawful found expressible false .and (Int.le_refl 1)
    exact ⟨t, text, hb, hp, fun hu => absurd (h.mp hu) (by decide)⟩
  · obtain ⟨t, text, hb, hp, h, -⟩ := split_print_only_iff (f := ⟨.dashedName, .integer (-3), rfl⟩)
      lawful' found' expressible false .and (Int.le_refl 1)
    obtain ⟨u, hu, hs⟩ := h.mpr (.inr (by decide))
    exact ⟨t, text, u, hb, hp, hu, hs⟩

end SearchFilters
