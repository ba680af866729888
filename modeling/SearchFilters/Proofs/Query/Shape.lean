import SearchFilters.Proofs.Query.Reading
import SearchFilters.Proofs.Query.RoundTrip

/-!
# Proofs — Query — Shape

What every tree that is read looks like.

The shape of a tree is told part by part: `Tree.parts` are a tree and all parts of it, and
`Tree.Shaped` is what one part shows, its leaves being what they are and the sides of an operator
being surrounded as they may be.  Formed trees are shaped all over, by induction on the tree, but
for one thing that `Formed` does not say: a word has no end of a line in it.  An escape cannot bring
one in, so a word that held one would have a weight that no lexeme adds
(`weight_newlines_of_steps`).

`shaped_of_parse`: all parts of a tree that is read are shaped, and nothing but a `NOT` surrounds
the tree.
-/

namespace SearchFilters
open Text Query

/-! ### The shape -/

/-- A tree and all parts of it. -/
def Tree.parts : Tree → List Tree
  | .single l g      => .single l g :: l.parts
  | .binary l op r g => .binary l op r g :: (l.parts ++ r.parts)
  | t                => [t]

/-- What a term that is read shows: words and regular expressions are not empty, only words are
fuzzy, only phrases have a proximity, and regular expressions have no boost. -/
structure Term.Shaped (u : Term) : Prop where
  field : Leafy u.field
  ne_empty : u.quoted = false ∨ u.regex = true → u.text.toList ≠ []
  /-- a word ends with its line -/
  unbroken : u.quoted = false → u.regex = false → '\n' ∉ u.text.toList
  similarity : u.similarity.isSome → u.quoted = false ∧ u.regex = false
  proximity : u.proximity.isSome → u.quoted = true
  boost : u.regex = true → u.boost = none

/-- What surrounds a group that is read: a field only with parentheses, and at most `NOT` as what
opens the group. -/
structure Grouping.Shaped (g : Grouping) : Prop where
  field : ∀ f ∈ g.field, isFieldName f.toList = true ∧ g.parenthesized = true
  start : g.Negatable

namespace Tree

/-- A left side: a leaf or a group in parentheses. -/
def IsLeft : Tree → Prop
  | .term _ | .range _                  => True
  | .single _ g | .binary _ _ _ g       => g.parenthesized = true

/-- A right side: a group of one clause has parentheses or a `NOT` that opens it. -/
def IsRight : Tree → Prop
  | .term _ | .range _ | .binary _ _ _ _ => True
  | .single _ g                          => g.parenthesized = true ∨ g.start = some .not

/-- **The shape of a part of a query.**  Without parentheses a right side begins with `NOT` only
behind an explicit operator. -/
def Shaped : Tree → Prop
  | .term u          => u.Shaped
  | .range x         => Leafy x.field
  | .single l g      => g.Shaped ∧ l.IsLeft
  | .binary l op r g =>
    g.Shaped ∧ l.IsLeft ∧ r.IsRight ∧ (∀ s, op ≠ .other s) ∧ (r.OpensNegated → op ≠ .implicit)

/-- **The shape of a query**: a group without field and parentheses, of shaped parts. -/
structure IsShaped (t : Tree) : Prop where
  group : t.IsGroup
  field : t.grouping.field = none
  bare : t.grouping.parenthesized = false
  parts : ∀ u ∈ t.parts, u.Shaped

end Tree

/-! ### Words end with their lines -/

namespace Query

/-- The weight of a word as the number of line feeds in it. -/
def newlines : Weights where
  name _ := 0
  word := List.count '\n'
  phrase _ := 0
  regex _ := 0
  bound _ := 0
  name_implicit := rfl

/-- A character that may stand neither as it is nor escaped is not in the text. -/
theorem Escaped.not_mem_unescape {p : Char → Bool} {l : List Char} (h : Escaped p l)
    (hp : p '\n' = false) : '\n' ∉ unescape l := by
  induction h with
  | nil => exact List.not_mem_nil
  | @plain c s hc hpc _ ih =>
      rw [unescape_cons hc, List.mem_cons, not_or]
      refine ⟨?_, ih⟩
      rintro rfl
      rw [hp] at hpc
      cases hpc
  | pair hc _ ih =>
      rw [unescape, List.mem_cons, not_or]
      exact ⟨hc.symm, ih⟩

/-- No lexeme brings the end of a line into a word. -/
theorem gain_newlines {k : Kind} {l : List Char} (h : Lexical k l) : gain newlines k l = 0 := by
  cases k with
  | word => exact List.count_eq_zero.mpr (h.of_word.2.not_mem_unescape (by decide))
  | _ => rfl

/-- **No word takes in the end of a line.** -/
theorem weight_newlines_of_steps {r r' : Reader} {s s' : List Char} (h : Steps r s r' s')
    (hr : r.weight newlines = 0) : r'.weight newlines = 0 := by
  refine h.invariant (P := fun r _ => r.weight newlines = 0) ?_ hr
  intro r s r' s' h hr
  cases h with
  | skip hc => exact hr
  | take hc hl hstep =>
      have hlex := lexical_of_split (mem_of_firstLexeme? hl).2
      rw [Reader.weight_of_does newlines (Reader.does_of_step hstep), hr, gain_newlines hlex]

end Query

/-- A word of no such weight holds no end of a line. -/
theorem not_mem_of_weight_newlines {u : Term} (h : u.weight newlines = 0)
    (hq : u.quoted = false) (hr : u.regex = false) : '\n' ∉ u.text.toList := by
  rw [Term.weight, hq, hr] at h
  exact List.count_eq_zero.mp (Nat.eq_zero_of_add_eq_zero_left h)

/-! ### Trees that are read -/

section Formed
variable {strict : Prop} {outer : Grouping → Prop} {t : Tree} {u : Term} {g : Grouping}

theorem Term.Formed.shaped (h : u.Formed strict)
    (hn : u.quoted = false → u.regex = false → '\n' ∉ u.text.toList) : u.Shaped := by
  refine ⟨h.field, ?_, hn, ?_, ?_, ?_⟩ <;>
    rcases h.body with hx | ⟨hr, hq, hs⟩ | ⟨hr, hq, hp, hne, -⟩
  · exact fun _ => hx.ne_nil
  · simp [hr, hq]
  · exact fun _ => hne
  · simp [hx.similarity]
  · simp [hs]
  · exact fun _ => ⟨hq, hr⟩
  · simp [hx.proximity]
  · exact fun _ => hq
  · simp [hp]
  · exact fun _ => hx.boost
  · simp [hr]
  · simp [hr]

theorem Grouping.Enclosed.shaped (h : g.Enclosed) : g.Shaped :=
  ⟨fun f hf => ⟨h.field f hf, h.parenthesized⟩, h.start⟩

theorem Grouping.Open.shaped (h : g.Open) : g.Shaped :=
  ⟨by simp [h.field], h.start⟩

theorem Tree.Formed.isLeft (h : t.Formed strict Grouping.Enclosed) : t.IsLeft := by
  cases t with
  | term u | range x => trivial
  | single l g | binary l op r g => exact h.1.parenthesized

/-- A bare group of one clause is unwrapped on the right. -/
theorem Tree.Formed.isRight (h : t.Formed strict fun g => g.Enclosed ∨ g.Open)
    (hu : t.unwrapBare = t) : t.IsRight := by
  cases t with
  | term u | range x | binary l op r g => trivial
  | single l g =>
      rcases h.1 with hg | hg
      · exact .inl hg.parenthesized
      · refine .inr (hg.start.resolve_left fun hs => ?_)
        have hbare : g.isBare = true := by rw [hg.eq_bare hs]; rfl
        rw [unwrapBare, if_pos hbare] at hu
        have hsize := congrArg sizeOf hu
        rw [single.sizeOf_spec] at hsize
        omega

/-- **All parts of a formed tree are shaped.** -/
theorem Tree.Formed.shaped (h : t.Formed strict fun g => g.Enclosed ∨ g.Open)
    (hn : t.weight newlines = 0) : ∀ v ∈ t.parts, v.Shaped := by
  have group {g : Grouping} (hg : g.Enclosed ∨ g.Open) : g.Shaped := hg.elim (·.shaped) (·.shaped)
  induction t with
  | term u =>
      intro v hv
      rw [List.mem_singleton.mp hv]
      exact Term.Formed.shaped h (not_mem_of_weight_newlines hn)
  | range x =>
      intro v hv
      rw [List.mem_singleton.mp hv]
      exact h.field
  | single l g ih =>
      obtain ⟨hg, hl⟩ := h
      rw [parts, List.forall_mem_cons]
      exact ⟨⟨group hg, hl.isLeft⟩,
        ih (hl.mono fun _ => .inl) (Nat.eq_zero_of_add_eq_zero_left hn)⟩
  | binary l op r g ihl ihr =>
      obtain ⟨hg, hl, hj, hr⟩ := h
      obtain ⟨hn, hnr⟩ := Nat.add_eq_zero_iff.mp hn
      rw [parts, List.forall_mem_cons, List.forall_mem_append]
      exact ⟨⟨group hg, hl.isLeft, hr.isRight hj.unwrapped, hj.known, fun hs => (hj.negated hs).1⟩,
        ihl (hl.mono fun _ => .inl) (Nat.eq_zero_of_add_eq_zero_left hn), ihr hr hnr⟩

end Formed

/-- **The shape of queries.**  Of every text that is read the tree is a group that no field and no
parentheses surround, and each part of it is shaped. -/
theorem shaped_of_parse {text : String} {t : Tree} (h : parse text = .ok (some t)) :
    t.IsShaped := by
  obtain ⟨hf, hg, -⟩ := formed_of_parse False h False.elim
  obtain ⟨r, hs, hr, -⟩ := parse_eq_some_iff.mp h
  have ho := hf.outer hg
  refine ⟨hg, ho.field, ho.parenthesized, (hf.mono fun _ => .inr).shaped ?_⟩
  rw [Reader.weight_finish newlines hr]
  exact weight_newlines_of_steps hs rfl

/-- The tree of `NOT +f:a~ && NOT g:("b c"~2 (/d/)) || e^2`. -/
def Tree.manyShaped : Tree :=
  .binary
    (.term
      { field := "f", text := "a", mark := some "+",
        similarity := some (.float defaultSimilarity) }) .and
    (.binary
      (.binary (.term { text := "b c", quoted := true, proximity := some 2 }) .implicit
        (.single (.term { text := "d", regex := true }) { parenthesized := true })
        { field := some "g", parenthesized := true }) .or
      (.term { text := "e", boost := some (.float (.ofDecimal false 2 0)) }) { start := some .not })
    { start := some .not }

/-- A query with every kind of leaf, its groups opened by `NOT` or in parentheses. -/
theorem shaped_of_parse_sample :
    parse "NOT +f:a~ && NOT g:(\"b c\"~2 (/d/)) || e^2" = .ok (some .manyShaped) ∧
      Tree.manyShaped.IsShaped := by
  have h : parse "NOT +f:a~ && NOT g:(\"b c\"~2 (/d/)) || e^2" = .ok (some .manyShaped) :=
    parse_of_run (by decide +kernel)
  exact ⟨h, shaped_of_parse h⟩

end SearchFilters
