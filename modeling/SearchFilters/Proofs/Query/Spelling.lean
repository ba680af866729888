import SearchFilters.Proofs.Number.Modifier
import SearchFilters.Proofs.Query.Printing

/-!
# Proofs — Query — Spelling

Printing by rows writes what plain recursion writes.

A query is printed in a loop along its right sides as long as they are bare groups, which gathers
parts and joins them at the end.  `Tree.spelled` is the same text by recursion alone, in which every
group stands in what surrounds it, on the right of an operator as elsewhere.  The two agree because
the loop, whatever it has gathered before, goes on with the text of the right side
(`Tree.joined_row`); what surrounds a bare group is nothing, so that it makes no difference that the
loop leaves it out.

* `Tree.chars_eq_spelled`: a row of clauses is printed to the text of recursion.
* `Number.Writable`, `Tree.exists_chars`: a tree of numbers that can be written has a text.
* `Tree.print_eq_spelled`: the two together, for the query text of a tree.
-/

namespace SearchFilters
open Text Query

/-! ### The text of a tree by recursion -/

/-- A text in the parentheses of a group, under the name of its field.  A group with a field has
parentheses in any case. -/
def Grouping.enclose (g : Grouping) (text : List Char) : List Char :=
  match g.field, g.parenthesized with
  | some f, _    => fieldText f ++ '(' :: text ++ [')']
  | none, true   => '(' :: text ++ [')']
  | none, false  => text

/-- The text of a tree: that of a leaf, or what opens a group, its sides with the operator between
them, and the group's surroundings around all that. -/
def Tree.spelled : Tree → Except NumberFault (List Char)
  | .term t => t.print
  | .range r => .ok r.print
  | .single l g => do
    let left ← l.spelled
    pure (g.enclose (g.startText ++ left))
  | .binary l op r g => do
    let left ← l.spelled
    let right ← r.spelled
    pure (g.enclose (g.startText ++ left ++ op.separator ++ right))

/-- What surrounds a group opens it first and encloses it then. -/
theorem Grouping.wrap_eq_enclose (g : Grouping) (w : List Char) :
    g.wrap w = g.enclose (g.startText ++ w) := by
  obtain ⟨_ | f, p, s⟩ := g
  · cases p <;> rfl
  · simp [wrap, enclose]

/-- **A tree is printed to its text by recursion**, row by row. -/
theorem Tree.chars_eq_spelled (t : Tree) : t.chars = t.spelled := by
  induction t with
  | term t | range r => rw [chars, spelled]
  | single l g ih =>
      rw [chars, spelled, ih]
      cases l.spelled with
      | error e => rfl
      | ok w => exact congrArg Except.ok (g.wrap_eq_enclose w)
  | binary l op r g ihl ihr =>
      rw [chars_binary_eq, spelled, ihl, ihr]
      cases l.spelled with
      | error e => rfl
      | ok u =>
          cases r.spelled with
          | error e => rfl
          | ok v =>
              refine congrArg Except.ok ((g.wrap_eq_enclose _).trans ?_)
              rw [List.append_assoc u, ← List.append_assoc, ← List.append_assoc]

/-! ### Trees that have a text -/

/-- A term has a text if the numbers written for it have. -/
theorem Term.exists_print {t : Term} (h : ∀ x ∈ t.numbers, ∃ l, x.modifierText = .ok l) :
    ∃ w, t.print = .ok w := by
  obtain ⟨b, hb⟩ := modifierText_total '^' (x := t.boost) fun x hx =>
    h x (List.mem_append_right _ (Option.mem_toList.mpr hx))
  have core : ∃ v, t.core = .ok v := by
    have h (x : Number) (hx : x ∈ _) := h x (List.mem_append_left _ hx)
    rw [Term.core]
    split
    · exact ⟨_, rfl⟩
    · next hr =>
      rw [if_neg hr] at h
      split
      · next hq =>
        rw [if_pos hq] at h
        obtain ⟨v, hv⟩ := modifierText_total '~' fun x hx => h x (Option.mem_toList.mpr hx)
        exact ⟨_, by rw [hv]; rfl⟩
      · next hq =>
        rw [if_neg hq] at h
        split
        · exact ⟨_, rfl⟩
        · obtain ⟨v, hv⟩ := modifierText_total '~' fun x hx => h x (Option.mem_toList.mpr hx)
          exact ⟨_, by rw [hv]; rfl⟩
  obtain ⟨v, hv⟩ := core
  exact ⟨_, Term.print_of_core hv hb⟩

namespace Tree

/-- **A tree has a text** if the numbers written for it have. -/
theorem exists_chars {t : Tree} (h : ∀ x ∈ t.numbers, ∃ l, x.modifierText = .ok l) :
    ∃ w, t.chars = .ok w := by
  induction t with
  | term u =>
      rw [numbers, terms, List.flatMap_singleton] at h
      exact Term.exists_print h
  | range r => exact ⟨_, rfl⟩
  | single l g ih =>
      obtain ⟨w, hw⟩ := ih h
      exact ⟨_, chars_single hw g⟩
  | binary l op r g ihl ihr =>
      rw [numbers, terms, List.flatMap_append] at h
      obtain ⟨u, hu⟩ := ihl fun x hx => h x (List.mem_append_left _ hx)
      obtain ⟨v, hv⟩ := ihr fun x hx => h x (List.mem_append_right _ hx)
      exact ⟨_, chars_binary hu hv op g⟩

/-- **The query text of a tree is its text by recursion**, and a tree of numbers that can be written
has one. -/
theorem print_eq_spelled (t : Tree) :
    t.print = String.ofList <$> t.spelled ∧
      ((∀ x ∈ t.numbers, x.Writable) →
        ∃ w, t.spelled = .ok w ∧ t.print = .ok (String.ofList w)) := by
  rw [print, chars_eq_spelled]
  refine ⟨rfl, fun h => ?_⟩
  obtain ⟨w, hw⟩ := exists_chars fun x hx => (h x hx).exists_text
  rw [chars_eq_spelled] at hw
  exact ⟨w, hw, by rw [hw]; rfl⟩

/-- A tree that no query text is read as: a group on the left under a field, an operator of no query
and a row that `OR NOT` opens. -/
def oddlyNested : Tree :=
  .binary
    (.binary (.term { text := "a", boost := some (.float (.finite false (5 * 2 ^ 50) (-51))) })
      (.other "NEAR") (.single (.term { text := "b" }) { start := some .not })
      { field := some "f", start := some .not })
    .implicit
    (.binary (.term { text := "c d", similarity := some (.int (-3)) }) .and
      (.binary (.term { text := "e" }) .or (.term { text := "g" }) { parenthesized := true }) {})
    { start := some .orNot }

theorem print_eq_spelled_sample :
    (∀ x ∈ oddlyNested.numbers, x.Writable) ∧
      oddlyNested.print = .ok "OR NOT f:(NOT a^2.5 NEAR NOT b) c\\ d~-3 AND (e OR g)" := by
  have writable : ∀ x ∈ oddlyNested.numbers, x.Writable := by
    have numbers : oddlyNested.numbers =
        [.float (.finite false (5 * 2 ^ 50) (-51)), .int (-3)] := rfl
    rw [numbers, List.forall_mem_cons, List.forall_mem_singleton]
    exact ⟨.float false ⟨by decide, by decide, by decide, .inl (by decide)⟩, .int (by decide)⟩
  have spelled : oddlyNested.spelled =
      .ok "OR NOT f:(NOT a^2.5 NEAR NOT b) c\\ d~-3 AND (e OR g)".toList := by decide +kernel
  obtain ⟨w, hs, hp⟩ := (print_eq_spelled oddlyNested).2 writable
  cases hs.symm.trans spelled
  exact ⟨writable, hp⟩

end Tree
end SearchFilters
