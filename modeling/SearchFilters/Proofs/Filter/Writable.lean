import SearchFilters.Proofs.Filter.Polarity
import SearchFilters.Proofs.Filter.QueryText

/-!
# Proofs — Filter — Writable

The filters of a query that is read can be written again.

A filter that is read has a value out of a text, so that its integers are within the digit limit,
and an enum group has at least one item; only floating-point numbers may have been read from texts
that theirs are not (`Filter.ReadOn`).  Its field is found under a name that stood in a query.  So
the filter of a clause that is read can be written (`writable_of_clauseFilter`), and so can all
filters of a query, in a row that the depth allows, since every one of them is that of a clause
(`writable_of_split`).
-/

namespace SearchFilters
open Text Query

variable {registry : Registry} {d : Int} {s : Selection} {t : Tree} {f : Field} {x : Filter}

/-! ### Filters that are read -/

/-- A value whose floating-point numbers have texts that read back. -/
def Value.FloatsReadBack : Value → Prop
  | .float x             => x.ReadsBack
  | .floatRange low high => low.ReadsBack ∧ high.ReadsBack
  | _                    => True

/-- The floating-point numbers of an expressible value have texts that read back. -/
theorem Value.Expressible.floatsReadBack {v : Value} (h : v.Expressible) : v.FloatsReadBack := by
  cases v with
  | float x | floatRange low high => exact h
  | _ => trivial

/-- A filter that is read on a field: only its floating-point numbers may have texts that do not
read back. -/
structure Filter.ReadOn (x : Filter) (f : Field) : Prop where
  field : x.field = f
  expressible : x.value.FloatsReadBack → x.value.Expressible

theorem find_eq_ok_iff {name : String} :
    registry.find name = .ok f ↔ registry.get? name = some f := by
  unfold Registry.find
  cases registry.get? name <;> simp

theorem short_of_readInteger {text : String} {i : Int} (h : readInteger text = .ok (some i)) :
    Numeral.Short i := by
  unfold readInteger at h
  cases hr : Numeral.read text.toList with
  | error e => rw [hr] at h; cases h
  | ok r =>
      rw [hr] at h
      cases h
      exact Numeral.short_of_read hr

/-- The filter of a term is read on its field. -/
theorem readOn_of_termFilter {u : Term} (h : termFilter u f = .ok x) : x.ReadOn f := by
  unfold termFilter at h
  split at h
  · cases h
    exact ⟨rfl, fun _ => trivial⟩
  · obtain ⟨r, hr, h⟩ := bind_eq_ok_iff.mp h
    split at h
    · cases h
      exact ⟨rfl, fun _ => short_of_readInteger hr⟩
    · cases h
  · split at h
    · cases h
      exact ⟨rfl, id⟩
    · cases h
  · split at h
    · cases h
      exact ⟨rfl, fun _ => trivial⟩
    · split at h
      · cases h
        exact ⟨rfl, fun _ => trivial⟩
      · cases h
  · cases h
    exact ⟨rfl, fun _ => List.cons_ne_nil _ _⟩
  · cases h
  · cases h

theorem readOn_of_rangeFilter {r : Range} (h : rangeFilter r f = .ok x) : x.ReadOn f := by
  unfold rangeFilter at h
  split at h
  · cases h
  · split at h
    · obtain ⟨low, hl, h⟩ := bind_eq_ok_iff.mp h
      obtain ⟨high, hh, h⟩ := bind_eq_ok_iff.mp h
      split at h
      · cases h
        exact ⟨rfl, fun _ => ⟨short_of_readInteger hl, short_of_readInteger hh⟩⟩
      · cases h
    · split at h
      · cases h
        exact ⟨rfl, id⟩
      · cases h
    · cases h

/-- A group has at least one item. -/
theorem enumTerms_ne_nil {items : List String} (h : enumTerms t = .ok items) : items ≠ [] := by
  cases t with
  | term u | range r | single l g =>
      simp only [enumTerms, map_singleton] at h
      obtain ⟨s, -, rfl⟩ := map_eq_ok_iff.mp h
      exact List.cons_ne_nil _ _
  | binary l op r g =>
      rw [enumTerms] at h
      obtain ⟨first, -, h⟩ := bind_eq_ok_iff.mp h
      split at h
      · cases h
      · obtain ⟨rest, -, h⟩ := bind_eq_ok_iff.mp h
        cases h
        exact List.cons_ne_nil _ _

theorem readOn_of_groupFilter (h : groupFilter t f = .ok x) : x.ReadOn f := by
  unfold groupFilter at h
  split at h
  · split at h
    · next hi =>
      cases h
      exact ⟨rfl, fun _ => enumTerms_ne_nil hi⟩
    · cases h
  · cases h

/-- The filter of a clause that is read is read on a field whose name can be written. -/
theorem readOn_of_clauseFilter (ht : t.IsClause) (h : clauseFilter registry t = .ok x) :
    ∃ f, Leafy f.name ∧ f ∈ registry.fields ∧ x.ReadOn f := by
  have readOn {name : String} {f : Field} (hname : Leafy name) (hf : registry.find name = .ok f)
      (hx : x.ReadOn f) : ∃ f, Leafy f.name ∧ f ∈ registry.fields ∧ x.ReadOn f := by
    have hf := find_eq_ok_iff.mp hf
    exact ⟨f, by rwa [Registry.name_of_get? hf], Registry.mem_of_get? hf, hx⟩
  have leafy {g : Grouping} (hg : g.Enclosed) : Leafy (g.field.getD implicitField) := by
    cases h : g.field with
    | none => exact .inl rfl
    | some n => exact .inr (hg.field n h)
  cases t with
  | term u =>
      simp only [clauseFilter] at h
      split at h
      · cases h
      · obtain ⟨f, hf, h⟩ := bind_eq_ok_iff.mp h
        exact readOn ht.formed.field hf (readOn_of_termFilter h)
  | range r =>
      obtain ⟨f, hf, h⟩ := bind_eq_ok_iff.mp h
      exact readOn ht.formed.field hf (readOn_of_rangeFilter h)
  | single l g | binary l op r g =>
      obtain ⟨f, hf, h⟩ := bind_eq_ok_iff.mp h
      exact readOn (leafy ht.formed.1) hf (readOn_of_groupFilter h)

/-- **The filter of a clause that is read can be written again**, if its floating-point numbers can
be. -/
theorem writable_of_clauseFilter (ht : t.IsClause) (h : clauseFilter registry t = .ok x)
    (hr : x.value.FloatsReadBack) : x.WritableIn registry := by
  obtain ⟨f, hname, hmem, hx⟩ := readOn_of_clauseFilter ht h
  obtain rfl := hx.field
  exact ⟨⟨hmem, hx.expressible hr⟩, hname⟩

/-! ### Queries that are read -/

/-- A filter of a selection that shares clauses out is the filter of one of them. -/
theorem Selection.Sorts.exists_clause {cs : List Clause} {excluded : Clause → Bool}
    (h : s.Sorts registry cs excluded) (hx : x ∈ s.asserted ++ s.excluded) :
    ∃ c ∈ cs, clauseFilter registry c.tree = .ok x := by
  obtain ⟨es, hm, ha, he⟩ := h
  obtain ⟨e, hes, rfl⟩ : ∃ e ∈ es, e.filter = x := by
    rw [ha, he] at hx
    rcases List.mem_append.mp hx with hx | hx <;>
    · obtain ⟨e, hes, rfl⟩ := List.mem_map.mp hx
      exact ⟨e, (List.mem_filter.mp hes).1, rfl⟩
  have hpair : (e.clause, e.asserted) ∈ es.map fun e => (e.clause, e.asserted) :=
    List.mem_map_of_mem hes
  rw [Entry.Mark] at hm
  rw [hm] at hpair
  obtain ⟨c, hc, hce⟩ := List.mem_map.mp hpair
  refine ⟨c, hc, ?_⟩
  rw [(Prod.mk.inj hce).1]
  exact e.holds.filter

/-- The filters of a query that is read are those of clauses that are read. -/
theorem exists_clause_of_split {q : String} {t : Option Tree} {j : Joiner} (hp : parse q = .ok t)
    (h : split t registry j d = .ok s) (hx : x ∈ s.asserted ++ s.excluded) :
    ∃ t : Tree, t.IsClause ∧ clauseFilter registry t = .ok x := by
  cases t with
  | none =>
      cases h
      cases hx
  | some t =>
      obtain ⟨ho, hg, first, cs, e, hfirst, hcs, -⟩ := row_of_split hp h
      obtain ⟨c, hc, hcf⟩ := (sorts_of_split hg ho.field h).exists_clause hx
      refine ⟨c.tree, ?_, hcf⟩
      rw [e] at hc
      rcases List.mem_cons.mp hc with rfl | hc
      · exact hfirst
      · exact (hcs c hc).1.clause

/-- **The filters of a query that is read can be written again**, and their row is no longer than
the depth allows. -/
theorem writable_of_split {q : String} {t : Option Tree} {j : Joiner} (hp : parse q = .ok t)
    (h : split t registry j d = .ok s)
    (hr : ∀ f ∈ s.asserted ++ s.excluded, f.value.FloatsReadBack) :
    (∀ f ∈ s.asserted ++ s.excluded, f.WritableIn registry) ∧
      (s.asserted.length + s.excluded.length = 0 ∨
        (max 1 ((s.asserted.length + s.excluded.length : Nat) - 1) : Int) ≤ d) := by
  constructor
  · intro f hf
    obtain ⟨c, hc, hcf⟩ := exists_clause_of_split hp h hf
    exact writable_of_clauseFilter hc hcf (hr f hf)
  · cases t with
    | none =>
        cases h
        exact .inl rfl
    | some t =>
        obtain ⟨ho, hg, first, cs, e, -, -, hd⟩ := row_of_split hp h
        right
        rw [(sorts_of_split hg ho.field h).length, e, List.length_cons]
        simpa using hd

end SearchFilters
