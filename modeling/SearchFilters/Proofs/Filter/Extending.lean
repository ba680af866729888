import SearchFilters.Proofs.Filter.Walking

/-!
# Proofs — Filter — Extending

What splits on the fields of a registry splits alike on the fields of a larger one.

Reading a clause looks at the name and the type of the field that it finds, and at nothing else
(`Field.Resembles`, `termFilter_entry`); so a clause says the same on two fields that agree in
these.  A registry is `Within` another one if every name of it stands for such a field there.
Adding a field at the end makes a registry of this kind, since no name stands twice, and so does
normalizing fields.

A clause that is refused may be read on the larger registry, which knows more names; so the
statements are about what has filters (`clauseFilter_within`, `walk_within`, by induction on the
tree) and about whole queries that split (`split_within`).
-/

namespace SearchFilters

variable {r r' : Registry} {t : Tree}

/-- What a filter says: the name of its field, and its value. -/
def Filter.entry (f : Filter) : String × Value := (f.field.name, f.value)

/-- What a selection says. -/
def Selection.entries (s : Selection) : List (String × Value) × List (String × Value) :=
  (s.asserted.map Filter.entry, s.excluded.map Filter.entry)

/-! ### Fields of one name and type -/

/-- A field that queries cannot tell from another one. -/
structure Field.Resembles (f g : Field) : Prop where
  name : f.name = g.name
  type : f.type = g.type

/-- A registry whose fields another registry has as well. -/
def Registry.Within (r r' : Registry) : Prop :=
  ∀ name f, r.get? name = some f → ∃ f', r'.get? name = some f' ∧ f'.Resembles f

theorem Registry.Within.trans {r'' : Registry} (h : r.Within r') (h' : r'.Within r'') :
    r.Within r'' := by
  intro name f hf
  obtain ⟨f', hf', hs⟩ := h name f hf
  obtain ⟨f'', hf'', hs'⟩ := h' name f' hf'
  exact ⟨f'', hf'', hs'.name.trans hs.name, hs'.type.trans hs.type⟩

/-- A field that is found is still found, and is the same, when another is put at the end. -/
theorem Registry.within_of_append {fs : List Field} (h : r'.fields = r.fields ++ fs) :
    r.Within r' := by
  intro name f hf
  refine ⟨f, ?_, rfl, rfl⟩
  rw [Registry.get?] at hf ⊢
  rw [h, List.find?_append, hf]
  rfl

/-- Changing fields in ways that queries cannot tell changes nothing about what is found. -/
theorem Registry.within_of_map {change : Field → Field} (h : r'.fields = r.fields.map change)
    (hc : ∀ f, (change f).Resembles f) : r.Within r' := by
  intro name f hf
  refine ⟨change f, ?_, hc f⟩
  have same : (fun f : Field => f.name == name) ∘ change = fun f => f.name == name := by
    funext f
    rw [Function.comp, (hc f).name]
  rw [Registry.get?] at hf ⊢
  rw [h, List.find?_map, same, hf]
  rfl

/-! ### Clauses -/

section Fields
variable {f f' : Field}

/-- A term has the same entry on fields that resemble each other. -/
theorem termFilter_entry (h : f'.Resembles f) (t : Term) :
    (termFilter t f').map Filter.entry = (termFilter t f).map Filter.entry := by
  obtain ⟨hn, ht⟩ := h
  obtain ⟨_, _, _, _, _, _, _, _, _⟩ := f
  obtain ⟨_, _, type, _, _, _, _, _, _⟩ := f'
  dsimp only at hn ht
  subst hn ht
  unfold termFilter
  cases type with
  | string | enum | integerRange | floatRange => rfl
  | integer => cases readInteger t.text with
    | error => rfl
    | ok i => cases i <;> rfl
  | float => cases readNumber t.text <;> rfl
  | boolean =>
      simp only
      split
      · rfl
      · split <;> rfl

theorem rangeFilter_entry (h : f'.Resembles f) (x : Range) :
    (rangeFilter x f').map Filter.entry = (rangeFilter x f).map Filter.entry := by
  obtain ⟨hn, ht⟩ := h
  obtain ⟨_, _, _, _, _, _, _, _, _⟩ := f
  obtain ⟨_, _, type, _, _, _, _, _, _⟩ := f'
  dsimp only at hn ht
  subst hn ht
  unfold rangeFilter
  split
  · rfl
  · cases type with
    | string | integer | float | boolean | enum => rfl
    | integerRange =>
        cases readInteger x.low with
        | error => rfl
        | ok low =>
            cases readInteger x.high with
            | error => rfl
            | ok high => cases low <;> cases high <;> rfl
    | floatRange => cases readNumber x.low <;> cases readNumber x.high <;> rfl

theorem groupFilter_entry (h : f'.Resembles f) (t : Tree) :
    (groupFilter t f').map Filter.entry = (groupFilter t f).map Filter.entry := by
  obtain ⟨hn, ht⟩ := h
  obtain ⟨_, _, _, _, _, _, _, _, _⟩ := f
  obtain ⟨_, _, type, _, _, _, _, _, _⟩ := f'
  dsimp only at hn ht
  subst hn ht
  unfold groupFilter
  cases type with
  | enum => cases enumTerms t <;> rfl
  | _ => rfl

end Fields

/-- What the filter of a clause says depends on the name and the type of the field that is found. -/
theorem find_bind_within {read : Field → Except Refusal Filter} {name : String} {x : Filter}
    (h : r.Within r')
    (hread : ∀ f f', f'.Resembles f → (read f').map Filter.entry = (read f).map Filter.entry)
    (hx : r.find name >>= read = .ok x) :
    ∃ x', r'.find name >>= read = .ok x' ∧ x'.entry = x.entry := by
  unfold Registry.find at hx ⊢
  cases hf : r.get? name with
  | none =>
      rw [hf] at hx
      cases hx
  | some f =>
      rw [hf] at hx
      obtain ⟨f', hf', hs⟩ := h name f hf
      have hx : read f = .ok x := hx
      have same := hread f f' hs
      rw [hx] at same
      rw [hf']
      exact map_eq_ok_iff.mp same

/-- **A clause that has a filter has one that says the same** on a larger registry. -/
theorem clauseFilter_within {x : Filter} (h : r.Within r') (hx : clauseFilter r t = .ok x) :
    ∃ x', clauseFilter r' t = .ok x' ∧ x'.entry = x.entry := by
  cases t with
  | term t =>
      rw [clauseFilter] at hx ⊢
      cases hm : t.modifier? with
      | some m =>
          rw [hm] at hx
          cases hx
      | none =>
          rw [hm] at hx
          exact find_bind_within h (fun _ _ hs => termFilter_entry hs t) hx
  | range x => exact find_bind_within h (fun _ _ hs => rangeFilter_entry hs x) hx
  | single l g => exact find_bind_within h (fun _ _ hs => groupFilter_entry hs (.single l g)) hx
  | binary l op s g =>
      exact find_bind_within h (fun _ _ hs => groupFilter_entry hs (.binary l op s g)) hx

/-! ### Whole queries -/

theorem map_keep (drop : Bool) (fs : List Filter) :
    (Request.keep drop fs).map Filter.entry =
      if drop then (fs.map Filter.entry).tail else fs.map Filter.entry := by
  cases drop with
  | false => rfl
  | true => exact List.map_tail

/-- **A part of a query that has filters has filters that say the same** on a larger registry. -/
theorem walk_within {j : Joiner} {a topLevel : Bool} {d : Int} {depth : Nat} {fs : List Filter}
    (h : r.Within r') (hw : (Request.mk r j a d).walk topLevel depth t = .ok fs) :
    ∃ fs', (Request.mk r' j a d).walk topLevel depth t = .ok fs' ∧
      fs'.map Filter.entry = fs.map Filter.entry := by
  -- a tree that stands alone is one clause; rows of sides are trimmed without a look at the fields
  have alone {t : Tree} (ht : t.StandsAlone) {topLevel : Bool} {depth : Nat} {fs : List Filter}
      (hw : (Request.mk r j a d).walk topLevel depth t = .ok fs) :
      ∃ fs', (Request.mk r' j a d).walk topLevel depth t = .ok fs' ∧
        fs'.map Filter.entry = fs.map Filter.entry := by
    obtain ⟨hd, x, hx, rfl⟩ := (walk_alone_iff ht).mp hw
    obtain ⟨x', hx', he⟩ := clauseFilter_within h hx
    exact ⟨[x'], (walk_alone_iff ht).mpr ⟨hd, x', hx', rfl⟩, congrArg (fun e => [e]) he⟩
  induction t generalizing topLevel depth fs with
  | term u => exact alone (t := .term u) trivial hw
  | range x => exact alone (t := .range x) trivial hw
  | single l g ih =>
      cases hg : g.field with
      | some f => exact alone (t := .single l g) (by simp [Tree.StandsAlone, hg]) hw
      | none =>
          obtain ⟨hd, hp, left, hl, rfl⟩ := (walk_single_iff hg).mp hw
          obtain ⟨left', hl', he⟩ := ih hl
          refine ⟨_, (walk_single_iff hg).mpr ⟨hd, hp, left', hl', rfl⟩, ?_⟩
          rw [map_keep, map_keep, he]
          rfl
  | binary l op s g ihl ihs =>
      cases hg : g.field with
      | some f => exact alone (t := .binary l op s g) (by simp [Tree.StandsAlone, hg]) hw
      | none =>
          obtain ⟨hd, hp, left, right, drop, hl, hr, hj, rfl⟩ := (walk_binary_iff hg).mp hw
          obtain ⟨left', hl', he⟩ := ihl hl
          obtain ⟨right', hr', he'⟩ := ihs hr
          refine ⟨_, (walk_binary_iff hg).mpr ⟨hd, hp, left', right', drop, hl', hr', hj, rfl⟩, ?_⟩
          rw [List.map_append, List.map_append, map_keep, map_keep, map_keep, map_keep, he, he']
          rfl

/-- **A query that splits on the fields of a registry splits alike on those of a larger one**: both
polarities name the same fields with the same values, in the same order. -/
theorem split_within {q : Option Tree} {j : Joiner} {d : Int} {s : Selection} (h : r.Within r')
    (hs : split q r j d = .ok s) : ∃ s', split q r' j d = .ok s' ∧ s'.entries = s.entries := by
  cases q with
  | none => exact ⟨s, hs, rfl⟩
  | some t =>
      have sides := split_eq_ok_iff.mp hs
      obtain ⟨asserted, ha, hea⟩ := walk_within h (sides true)
      obtain ⟨excluded, hx, hex⟩ := walk_within h (sides false)
      refine ⟨⟨asserted, excluded⟩, split_eq_ok_iff.mpr ?_, Prod.ext hea hex⟩
      exact Bool.forall_bool.mpr ⟨hx, ha⟩

end SearchFilters
