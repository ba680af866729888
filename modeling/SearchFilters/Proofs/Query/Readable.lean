import SearchFilters.Proofs.Number.Plain
import SearchFilters.Proofs.Query.Escape
import SearchFilters.Query.Lexeme
import SearchFilters.Query.Printer

/-!
# Proofs — Query — Readable

Trees whose texts read back.

The query language has a place for everything in a tree but not for every tree: field names and
bounds have their characters, numbers must have a plain decimal, groups are in parentheses or begin
a row, and `NOT` goes with the operator in front of it.  `Term.Readable`, `Range.Readable` and
`Tree.Readable` say so, part by part; what may surround a group depends on where it stands, which is
the parameter of `Tree.Readable`.

A readable tree still need not come back as it is.  A right side that is a bare group of one clause
is printed as the clause, and reads as the clause: `Tree.collapseRights` is the tree that the text
of a tree reads as.  And a text must not end in a blank that trimming takes (`EndsTight`).

Printing gathers the parts of a row and joins them at its end.  `Tree.joined_row` shows that a row
goes on with the text of its right side, printed as it is elsewhere; from there on texts are
composed by `Tree.chars_single` and `Tree.chars_binary`, and the parts are not seen any more.
-/

namespace SearchFilters
open Text Query

/-- What is changed without a fault was there without one. -/
theorem exists_of_map_eq_ok {ε α β : Type} {f : α → β} {x : Except ε α} {b : β}
    (h : (f <$> x) = .ok b) : ∃ a, x = .ok a ∧ b = f a := by
  cases x with
  | error e => cases h
  | ok a =>
      cases h
      exact ⟨a, rfl, rfl⟩

/-! ### Leaves -/

/-- A number whose text after a modifier's mark reads back. -/
def Number.Rereads (x : Number) : Prop :=
  ∃ l y, x.modifierText = .ok l ∧ Binary64.ofPlain? l = some y ∧ x = .float y

/-- A proximity whose text after the fuzzy mark reads back. -/
def ProximityRereads (i : Int) : Prop :=
  ∃ l n m e, (Number.int i).modifierText = .ok l ∧
    Binary64.ofPlain? l = some (.finite n m e) ∧ Binary64.truncate n m e = i

/-- A field that can be written in front of a leaf. -/
def Leafy (field : String) : Prop := field = implicitField ∨ isFieldName field.toList = true

namespace Term

/-- A regular expression that can be written. -/
structure IsRegex (t : Term) : Prop where
  regex : t.regex = true
  quoted : t.quoted = false
  ne_nil : t.text.toList ≠ []
  /-- no slash stands unescaped -/
  escaped : Escaped (· != '/') t.text.toList
  boost : t.boost = none
  similarity : t.similarity = none
  proximity : t.proximity = none

/-- A phrase that can be written. -/
structure IsPhrase (t : Term) : Prop where
  regex : t.regex = false
  quoted : t.quoted = true
  similarity : t.similarity = none
  proximity : ∀ i ∈ t.proximity, ProximityRereads i
  boost : ∀ x ∈ t.boost, x.Rereads

/-- A word that can be written. -/
structure IsWord (t : Term) : Prop where
  regex : t.regex = false
  quoted : t.quoted = false
  legible : Legible t.text.toList
  proximity : t.proximity = none
  similarity : ∀ x ∈ t.similarity, x.Rereads
  boost : ∀ x ∈ t.boost, x.Rereads

/-- A term that can be written. -/
structure Readable (t : Term) : Prop where
  field : Leafy t.field
  mark : t.mark = none ∨ t.mark = some "+" ∨ t.mark = some "-"
  body : t.IsRegex ∨ t.IsPhrase ∨ t.IsWord

/-- A term written like an operator in symbols. -/
def Symbolic (t : Term) : Prop :=
  t.field = implicitField ∧ t.mark = none ∧ t.quoted = false ∧ t.regex = false ∧
    ("&&".toList.isPrefixOf t.text.toList = true ∨ "||".toList.isPrefixOf t.text.toList = true)

end Term

/-- A range that can be written. -/
structure Range.Readable (r : Range) : Prop where
  field : Leafy r.field
  low : r.low.toList ≠ [] ∧ ∀ c ∈ r.low.toList, isBoundChar c = true
  high : r.high.toList ≠ [] ∧ ∀ c ∈ r.high.toList, isBoundChar c = true
  inclusive : ∃ a b, r.inclusive = .ofBounds a b

/-! ### The end of a text -/

/-- A text that does not end in a blank. -/
def EndsTight (s : List Char) : Prop := ∃ u c, s = u ++ [c] ∧ isBlank c = false

theorem EndsTight.append {v : List Char} (h : EndsTight v) (u : List Char) :
    EndsTight (u ++ v) := by
  obtain ⟨v, c, rfl, hc⟩ := h
  exact ⟨u ++ v, c, (List.append_assoc ..).symm, hc⟩

theorem EndsTight.cons {v : List Char} (h : EndsTight v) (c : Char) : EndsTight (c :: v) :=
  h.append [c]

theorem endsTight_concat {c : Char} (h : isBlank c = false) (s : List Char) :
    EndsTight (s ++ [c]) := ⟨s, c, rfl, h⟩

theorem EndsTight.getLast {s : List Char} (h : EndsTight s) :
    ∀ c ∈ s.getLast?, isBlank c = false := by
  obtain ⟨u, c, rfl, hc⟩ := h
  intro d hd
  rw [List.getLast?_concat] at hd
  cases hd
  exact hc

theorem EndsTight.of_append {u v : List Char} (h : EndsTight (u ++ v)) : v = [] ∨ EndsTight v := by
  rcases List.eq_nil_or_concat v with rfl | ⟨v, c, rfl⟩
  · exact .inl rfl
  · refine .inr ⟨v, c, List.concat_eq_append, h.getLast c ?_⟩
    rw [List.concat_eq_append, ← List.append_assoc, List.getLast?_concat]
    rfl

/-- A plain decimal ends in a digit. -/
theorem endsTight_of_ofPlain? {l : List Char} {x : Binary64} (h : Binary64.ofPlain? l = some x) :
    EndsTight l := by
  have digits {w : List Char} (hw : ∀ c ∈ w, isDigit c = true) (hne : w ≠ []) : EndsTight w :=
    ⟨w.dropLast, w.getLast hne, (List.dropLast_concat_getLast hne).symm,
      not_isBlank_of_isDigit (hw _ (List.getLast_mem hne))⟩
  obtain ⟨w, f, e⟩ := Binary64.spanPlain_of_ofPlain? h
  -- the last digits are those after the point, or the whole ones where there is no point
  obtain ⟨hw, hf, ⟨rfl, -, hne⟩ | ⟨rfl, hne⟩⟩ := Binary64.eq_of_spanPlain e
  · rw [List.append_nil]
    exact digits hw hne
  · rw [List.append_nil]
    exact ((digits hf hne).cons '.').append w

/-- A modifier is its mark and its number. -/
theorem modifierText_eq_ok {mark : Char} {x : Option Number} {w : List Char}
    (h : modifierText mark x = .ok w) :
    (x = none ∧ w = []) ∨ ∃ y l, x = some y ∧ y.modifierText = .ok l ∧ w = mark :: l := by
  cases x with
  | none =>
      cases h
      exact .inl ⟨rfl, rfl⟩
  | some y =>
      obtain ⟨l, hl, rfl⟩ := exists_of_map_eq_ok h
      exact .inr ⟨y, l, rfl, hl, rfl⟩

/-- A modifier has a text if its number has. -/
theorem modifierText_total (mark : Char) {x : Option Number}
    (h : ∀ y ∈ x, ∃ l, y.modifierText = .ok l) : ∃ w, modifierText mark x = .ok w := by
  cases x with
  | none => exact ⟨[], rfl⟩
  | some y =>
      obtain ⟨l, hl⟩ := h y rfl
      exact ⟨mark :: l, by rw [modifierText, hl]; rfl⟩

/-- A term is printed as its field, its sign, its core and its boost. -/
theorem Term.print_of_core {t : Term} {v w : List Char} (hv : t.core = .ok v)
    (hw : modifierText '^' t.boost = .ok w) :
    t.print = .ok (fieldText t.field ++ (t.mark.getD "").toList ++ (v ++ w)) := by
  rw [Term.print, hv, hw, ← List.append_assoc]
  rfl

theorem Term.print_eq_ok {t : Term} {w : List Char} (h : t.print = .ok w) :
    ∃ v u, t.core = .ok v ∧ modifierText '^' t.boost = .ok u ∧
      w = fieldText t.field ++ (t.mark.getD "").toList ++ v ++ u := by
  unfold Term.print at h
  cases hc : t.core with
  | error f =>
      rw [hc] at h
      cases h
  | ok v =>
      rw [hc] at h
      obtain ⟨u, hu, rfl⟩ := exists_of_map_eq_ok h
      exact ⟨v, u, rfl, hu, rfl⟩

/-- A text that a modifier may follow ends in the digits of the modifier or as it does itself. -/
theorem endsTight_modifier {mark : Char} {x : Option Number} {u w : List Char}
    (hx : ∀ y ∈ x, ∀ l, y.modifierText = .ok l → EndsTight l) (hw : modifierText mark x = .ok w)
    (hu : x = none → EndsTight u) : EndsTight (u ++ w) := by
  rcases modifierText_eq_ok hw with ⟨rfl, rfl⟩ | ⟨y, l, rfl, hl, rfl⟩
  · rw [List.append_nil]
    exact hu rfl
  · exact ((hx y rfl l hl).cons mark).append u

theorem Number.Rereads.exists_text {x : Number} (h : x.Rereads) : ∃ l, x.modifierText = .ok l := by
  obtain ⟨l, y, hl, -⟩ := h
  exact ⟨l, hl⟩

/-- The text of a number that reads back ends in a digit. -/
theorem Number.Rereads.endsTight {x : Number} (h : x.Rereads) {l : List Char}
    (hl : x.modifierText = .ok l) : EndsTight l := by
  obtain ⟨l', y, hl', hy, -⟩ := h
  cases hl.symm.trans hl'
  exact endsTight_of_ofPlain? hy

theorem ProximityRereads.endsTight {i : Int} (h : ProximityRereads i) {l : List Char}
    (hl : (Number.int i).modifierText = .ok l) : EndsTight l := by
  obtain ⟨l', n, m, e, hl', hy, -⟩ := h
  cases hl.symm.trans hl'
  exact endsTight_of_ofPlain? hy

/-- A term whose text does not end in a blank of its own. -/
def Term.Tight (t : Term) : Prop :=
  t.quoted = false → t.regex = false → t.similarity = none → t.boost = none →
    ∀ c ∈ t.text.toList.getLast?, isBlank c = false

/-! ### Groups -/

namespace Grouping

/-- Only `NOT` may open a group. -/
def Negatable (g : Grouping) : Prop := g.start = none ∨ g.start = some .not

/-- The surroundings of a group in parentheses, perhaps under a field. -/
structure Enclosed (g : Grouping) : Prop where
  parenthesized : g.parenthesized = true
  start : g.Negatable
  field : ∀ f ∈ g.field, isFieldName f.toList = true

/-- The surroundings of a row of clauses without parentheses. -/
structure Open (g : Grouping) : Prop where
  parenthesized : g.parenthesized = false
  start : g.Negatable
  field : g.field = none

/-- Nothing but what opens it surrounds the text of a row. -/
theorem Open.wrap_eq {g : Grouping} (h : g.Open) (w : List Char) :
    g.wrap w = g.startText ++ w := by
  rw [wrap, h.parenthesized, h.field]
  rfl

theorem Open.eq_bare {g : Grouping} (h : g.Open) (hs : g.start = none) : g = {} := by
  obtain ⟨f, p, s⟩ := g
  obtain ⟨rfl, -, rfl⟩ := h
  cases hs
  rfl

end Grouping

namespace Tree

/-- The term that the first clause of a tree consists of. -/
def firstTerm? : Tree → Option Term
  | .term t => some t
  | .range _ => none
  | .single l g | .binary l _ _ g => if g.parenthesized then none else l.firstTerm?

/-- A tree whose first clause is not written like an operator. -/
def NotSymbolic (t : Tree) : Prop := ∀ u ∈ t.firstTerm?, ¬u.Symbolic

/-- A right side that begins with `NOT`. -/
def OpensNegated (t : Tree) : Prop :=
  t.grouping.parenthesized = false ∧ t.grouping.start = some .not

/-- An operator that can stand in front of a right side: `NOT` comes only after an operator that is
negated itself, and no operator in symbols after a mere blank. -/
structure Joins (op : Operator) (right : Tree) : Prop where
  known : ∀ s, op ≠ .other s
  negated : right.OpensNegated → op = .not ∨ op = .andNot ∨ op = .orNot
  symbolic : op = .implicit → right.NotSymbolic

/-- A tree of leaves that can be written, its groups surrounded as `outer` says at the top, by
parentheses on the left of an operator, and in either way on the right. -/
def Readable (outer : Grouping → Prop) : Tree → Prop
  | .term t => t.Readable
  | .range r => r.Readable
  | .single l g => outer g ∧ Readable Grouping.Enclosed l
  | .binary l op r g =>
    outer g ∧ Readable Grouping.Enclosed l ∧ Joins op r ∧
      Readable (fun g => g.Enclosed ∨ g.Open) r

/-- A tree whose last clause does not end in a blank of its own. -/
def Tight : Tree → Prop
  | .term t => t.Tight
  | .range _ => True
  | .single l g => g.parenthesized = true ∨ l.Tight
  | .binary _ _ r g => g.parenthesized = true ∨ r.Tight

theorem tight_of_parenthesized {t : Tree} (h : t.grouping.parenthesized = true) : t.Tight := by
  cases t with
  | single l g | binary l op r g => exact .inl h
  | _ => cases h

/-- A group. -/
def IsGroup : Tree → Prop
  | .term _ | .range _ => False
  | .single .. | .binary .. => True

/-- A tree is readable in every place that admits more surroundings. -/
theorem Readable.mono {outer outer' : Grouping → Prop} (h : ∀ g, outer g → outer' g) {t : Tree}
    (ht : t.Readable outer) : t.Readable outer' := by
  cases t with
  | single l g | binary l op r g => exact ⟨h g ht.1, ht.2⟩
  | _ => exact ht

/-- A group of one clause that nothing surrounds stands for that clause. -/
def unwrapBare : Tree → Tree
  | .single l g => if g.isBare then l else .single l g
  | t => t

/-- The tree with its right sides that are bare groups of one clause replaced by the clause. -/
def collapseRights : Tree → Tree
  | .single l g => .single l.collapseRights g
  | .binary l op r g => .binary l.collapseRights op r.collapseRights.unwrapBare g
  | t => t

/-- Collapsing right sides leaves the first clause alone. -/
theorem firstTerm?_collapseRights (t : Tree) : t.collapseRights.firstTerm? = t.firstTerm? := by
  induction t with
  | term t | range r => rfl
  | single l g ih | binary l op r g ih _ => simp only [collapseRights, firstTerm?, ih]

/-! ### Printing -/

/-- A bare group prints as its clauses do. -/
theorem wrap_of_isBare {g : Grouping} (h : g.isBare = true) (s : List Char) : g.wrap s = s := by
  obtain ⟨_ | f, p, _ | st⟩ := g <;> cases p <;> first | rfl | cases h

theorem joined_cons (part : List Char) (parts : List (List Char)) :
    joined (part :: parts) = joined parts ++ part := by
  rw [joined, List.reverse_cons, List.flatten_concat, joined]

/-- Any right side but a bare group is the last part of its row, printed as it is elsewhere. -/
theorem row_of_not_isBare {t : Tree} (h : t.IsGroup → t.grouping.isBare = false)
    (parts : List (List Char)) : row parts t = (· :: parts) <$> chars t := by
  cases t with
  | term t => rw [row, chars]
  | range r => rw [row, chars]; rfl
  | single l g =>
      have hg : g.isBare = false := h trivial
      rw [row, chars, hg]
      cases chars l <;> rfl
  | binary l op r g =>
      have hg : g.isBare = false := h trivial
      rw [row, chars, hg]
      cases chars l with
      | error e => rfl
      | ok u =>
          change (row [op.separator, u] r >>= fun ps => pure (g.wrap (joined ps) :: parts)) =
            (· :: parts) <$> (row [op.separator, u] r >>= fun ps => pure (g.wrap (joined ps)))
          cases row [op.separator, u] r <;> rfl

/-- Its text goes behind what has been printed before it. -/
theorem joined_row_of_not_isBare {t : Tree} (h : t.IsGroup → t.grouping.isBare = false)
    (parts : List (List Char)) : joined <$> row parts t = (joined parts ++ ·) <$> chars t := by
  rw [row_of_not_isBare h]
  cases chars t with
  | error e => rfl
  | ok w => exact congrArg Except.ok (joined_cons w parts)

/-- Where a row goes on with the text of its right side, that text ends the group. -/
theorem chars_binary_of_row {r : Tree}
    (h : ∀ parts, joined <$> row parts r = (joined parts ++ ·) <$> chars r) (l : Tree)
    (op : Operator) (g : Grouping) :
    chars (.binary l op r g) =
      chars l >>= fun u => (fun v => g.wrap (u ++ op.separator ++ v)) <$> chars r := by
  rw [chars]
  refine congrArg (chars l >>= ·) (funext fun u => ?_)
  have pair : joined [op.separator, u] = u ++ op.separator := by simp [joined]
  calc (row [op.separator, u] r >>= fun ps => pure (g.wrap (joined ps)))
      = g.wrap <$> (joined <$> row [op.separator, u] r) := by
        cases row [op.separator, u] r <;> rfl
    _ = g.wrap <$> ((u ++ op.separator ++ ·) <$> chars r) := by rw [h, pair]
    _ = (fun v => g.wrap (u ++ op.separator ++ v)) <$> chars r := by cases chars r <;> rfl

/-- **A row goes on with the text of its right side**, whatever has been printed before it. -/
theorem joined_row (parts : List (List Char)) (t : Tree) :
    joined <$> row parts t = (joined parts ++ ·) <$> chars t := by
  induction t generalizing parts with
  | term t => exact joined_row_of_not_isBare (t := .term t) False.elim parts
  | range r => exact joined_row_of_not_isBare (t := .range r) False.elim parts
  | single l g _ =>
      cases hg : g.isBare with
      | false => exact joined_row_of_not_isBare (t := .single l g) (fun _ => hg) parts
      | true =>
          rw [row, chars, funext (wrap_of_isBare hg), hg]
          cases chars l with
          | error e => rfl
          | ok u => exact congrArg Except.ok (joined_cons u parts)
  | binary l op r g _ ih =>
      cases hg : g.isBare with
      | false => exact joined_row_of_not_isBare (t := .binary l op r g) (fun _ => hg) parts
      | true =>
          -- the loop goes on into the right side with two more parts
          rw [chars_binary_of_row ih, row, hg]
          cases chars l with
          | error e => rfl
          | ok u =>
              change joined <$> row (op.separator :: u :: parts) r =
                (joined parts ++ ·) <$> ((fun v => g.wrap (u ++ op.separator ++ v)) <$> chars r)
              rw [ih, joined_cons, joined_cons]
              cases chars r with
              | error e => rfl
              | ok v => exact congrArg Except.ok (by simp [wrap_of_isBare hg])

/-- The text of a group of two sides is that of its sides with the operator between them. -/
theorem chars_binary_eq (l : Tree) (op : Operator) (r : Tree) (g : Grouping) :
    chars (.binary l op r g) =
      chars l >>= fun u => (fun v => g.wrap (u ++ op.separator ++ v)) <$> chars r :=
  chars_binary_of_row (fun parts => joined_row parts r) l op g

theorem chars_single {l : Tree} {w : List Char} (h : chars l = .ok w) (g : Grouping) :
    chars (.single l g) = .ok (g.wrap w) := by
  rw [chars, h]
  rfl

theorem chars_binary {l r : Tree} {u v : List Char} (hl : chars l = .ok u) (hr : chars r = .ok v)
    (op : Operator) (g : Grouping) :
    chars (.binary l op r g) = .ok (g.wrap (u ++ op.separator ++ v)) := by
  rw [chars_binary_eq, hl, hr]
  rfl

theorem chars_single_eq_ok {l : Tree} {g : Grouping} {w : List Char}
    (h : chars (.single l g) = .ok w) : ∃ u, chars l = .ok u ∧ w = g.wrap u := by
  rw [chars] at h
  exact exists_of_map_eq_ok h

/-- A group of two sides has a text only if both sides have. -/
theorem chars_binary_eq_ok {l r : Tree} {op : Operator} {g : Grouping} {w : List Char}
    (h : chars (.binary l op r g) = .ok w) :
    ∃ u v, chars l = .ok u ∧ chars r = .ok v ∧ w = g.wrap (u ++ op.separator ++ v) := by
  rw [chars_binary_eq] at h
  cases hl : chars l with
  | error f =>
      rw [hl] at h
      cases h
  | ok u =>
      rw [hl] at h
      obtain ⟨v, hv, rfl⟩ := exists_of_map_eq_ok h
      exact ⟨u, v, rfl, hv, rfl⟩

end Tree
end SearchFilters
