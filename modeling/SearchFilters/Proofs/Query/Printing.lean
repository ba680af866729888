import SearchFilters.Proofs.Number.Text
import SearchFilters.Proofs.Query.Formed
import SearchFilters.Proofs.Query.RoundTrip

/-!
# Proofs — Query — Printing

What printing adds to the texts in a tree: its numbers and characters that no measure counts.

A `Measure` of texts does not see escapes, and the marks, blanks and letters that printing adds are
nothing to it.  So the measure of a printed tree is the weight of the texts in the tree and the
measure of its numbers (`Measure.size_chars`), by induction on the tree.  It is told with any text
behind the printed one, since an escape at the end of a text might reach into what follows.

Two measures are such: how often one of the characters `e`, `&` and `|` occurs (`Measure.counting`),
and how many escapes there are that printing never writes (`Measure.escaping`).
-/

namespace SearchFilters
open Text Query

/-- The characters that printing adds. -/
def printed : List Char := " :/\"~^()[]\x7b\x7d+-ANDORT".toList

/-- A measure of texts under which escapes are not seen and what printing adds is nothing. -/
structure Measure where
  weights : Weights
  size : List Char → Nat
  size_nil : size [] = 0
  /-- a text as it is, before a character that printing adds -/
  raw : ∀ u {c : Char} v, c ∈ printed → size (u ++ c :: v) = size u + size v
  /-- a text without backslashes -/
  plain : ∀ {u : List Char} v, (∀ c ∈ u, c ≠ '\\') → size (u ++ v) = size u + size v
  word : ∀ w v, size (escapeWord w ++ v) = weights.word w + size v
  phrase : ∀ w v, size (escapeQuoted w ++ v) = weights.phrase w + size v
  name : weights.name = size
  regex : weights.regex = size
  bound : weights.bound = size

/-- The numbers that are written for a term. -/
def Term.numbers (t : Term) : List Number :=
  (if t.regex then [] else if t.quoted then (t.proximity.map Number.int).toList
    else t.similarity.toList) ++ t.boost.toList

/-- The numbers that are written for a tree. -/
def Tree.numbers (t : Tree) : List Number := t.terms.flatMap Term.numbers

theorem Number.modifierText_chars {x : Number} {l : List Char} (h : x.modifierText = .ok l) :
    ∀ c ∈ l, Binary64.IsTextual c := by
  have integer {i : Int} (h : Numeral.write i = .ok l) : ∀ c ∈ l, Binary64.IsTextual c := by
    unfold Numeral.write at h
    split at h
    · cases h
      intro c hc
      refine (Numeral.ofInt_chars i c hc).imp_right ?_
      rintro rfl
      decide
    · cases h
  unfold modifierText at h
  split at h
  · exact integer h
  · cases h
  · cases h
  · split at h
    · exact integer h
    · cases h
      exact Binary64.text_chars _

/-- The texts of numbers have no escapes and no symbols of operators. -/
theorem ne_of_textual {c d : Char} (h : Binary64.IsTextual c) (hd : d ∈ ['\\', '&', '|']) :
    c ≠ d := by
  rintro rfl
  rcases h with ⟨n, hn, rfl⟩ | h
  · have : ∀ n < 10, Nat.digitChar n ∉ ['\\', '&', '|'] := by decide
    exact this n hn hd
  · have : ∀ c ∈ ['\\', '&', '|'], c ∉ ['.', '+', '-', 'e', 'i', 'n', 'f', 'a'] :=
      List.all_iff_forall_prop.mp (by decide)
    exact this c hd h

namespace Measure
variable (M : Measure)

/-- The measure of a number that is written; one that cannot be written is not overlooked. -/
def number (x : Number) : Nat :=
  match x.modifierText with
  | .ok l => M.size l
  | .error _ => 1

/-- The measure of numbers that are written. -/
def numbers (xs : List Number) : Nat := (xs.map M.number).sum

theorem size_cons {c : Char} (hc : c ∈ printed) (v : List Char) : M.size (c :: v) = M.size v := by
  have := M.raw [] v hc
  rwa [List.nil_append, M.size_nil, Nat.zero_add] at this

/-- What printing adds is nothing. -/
theorem size_printed {u : List Char} (hu : ∀ c ∈ u, c ∈ printed) (v : List Char) :
    M.size (u ++ v) = M.size v := by
  induction u with
  | nil => rfl
  | cons c u ih =>
      rw [List.cons_append, M.size_cons (hu c (List.mem_cons_self ..)),
        ih fun d hd => hu d (List.mem_cons_of_mem _ hd)]

/-- A field in front of a clause has the measure of its name. -/
theorem size_fieldText (f : String) (v : List Char) :
    M.size (fieldText f ++ v) = M.weights.name f.toList + M.size v := by
  rw [fieldText]
  split
  · next h => rw [h, M.weights.name_implicit, List.nil_append, Nat.zero_add]
  · rw [List.append_assoc, List.singleton_append, M.raw _ _ (by decide), M.name]

theorem size_modifierText {mark : Char} (hm : mark ∈ printed) {x : Option Number} {w : List Char}
    (h : modifierText mark x = .ok w) (v : List Char) :
    M.size (w ++ v) = M.numbers x.toList + M.size v := by
  rcases modifierText_eq_ok h with ⟨rfl, rfl⟩ | ⟨x, l, rfl, e, rfl⟩
  · rw [List.nil_append]
    exact (Nat.zero_add _).symm
  · have hn : M.numbers (some x).toList = M.size l := by simp [numbers, number, e]
    rw [List.cons_append, M.size_cons hm, hn,
      M.plain v fun c hc => ne_of_textual (Number.modifierText_chars e c hc) (by decide)]

theorem numbers_append (xs ys : List Number) :
    M.numbers (xs ++ ys) = M.numbers xs + M.numbers ys := by
  rw [numbers, List.map_append, List.sum_append]
  rfl

/-! ### Terms -/

/-- What stands between the sign and the boost of a term. -/
theorem size_core {t : Term} {w : List Char} (ht : t.quoted ≠ true → t.regex ≠ true → t.text ≠ "")
    (h : t.core = .ok w) (v : List Char) :
    M.size (w ++ v) =
      (if t.regex then M.weights.regex t.text.toList
       else if t.quoted then M.weights.phrase t.text.toList
       else M.weights.word t.text.toList) +
      M.numbers (if t.regex then [] else if t.quoted then (t.proximity.map Number.int).toList
        else t.similarity.toList) + M.size v := by
  have nil : M.numbers [] = 0 := rfl
  unfold Term.core at h
  split at h
  · next hr =>
    cases h
    rw [if_pos hr, if_pos hr, nil, M.regex, List.append_assoc, List.cons_append,
      M.size_cons (by decide), List.singleton_append, M.raw _ _ (by decide), Nat.add_zero]
  · next hr =>
    rw [if_neg hr, if_neg hr]
    split at h
    · next hq =>
      rw [if_pos hq, if_pos hq]
      obtain ⟨m, e, rfl⟩ := exists_of_map_eq_ok h
      simp only [List.append_assoc, List.cons_append, List.nil_append]
      rw [M.size_cons (by decide), M.phrase, M.size_cons (by decide),
        M.size_modifierText (by decide) e, Nat.add_assoc]
    · next hq =>
      rw [if_neg hq, if_neg hq]
      rw [if_neg (by simpa using ht hq hr)] at h
      obtain ⟨m, e, rfl⟩ := exists_of_map_eq_ok h
      rw [List.append_assoc, M.word, M.size_modifierText (by decide) e, Nat.add_assoc]

/-- The measure of a printed term. -/
theorem size_print {strict : Prop} {t : Term} {w : List Char} (ht : t.Formed strict)
    (h : t.print = .ok w) (v : List Char) :
    M.size (w ++ v) = t.weight M.weights + M.numbers t.numbers + M.size v := by
  have mark : ∀ c ∈ (t.mark.getD "").toList, c ∈ printed := by
    rcases ht.mark with e | e | e <;> rw [e] <;> exact List.all_iff_forall_prop.mp (by decide)
  have word (hq : t.quoted ≠ true) (hr : t.regex ≠ true) : t.text ≠ "" := by
    rintro e
    exact (ht.of_word (eq_false_of_ne_true hr) (eq_false_of_ne_true hq)).2.1 (by rw [e]; rfl)
  obtain ⟨core, boost, ec, eb, rfl⟩ := Term.print_eq_ok h
  simp only [List.append_assoc]
  rw [M.size_fieldText, M.size_printed mark, M.size_core word ec,
    M.size_modifierText (by decide) eb, Term.weight, Term.numbers, M.numbers_append]
  omega

theorem size_range (r : Range) (v : List Char) :
    M.size (r.print ++ v) = r.weight M.weights + M.size v := by
  have low : (if r.inclusive.includesLow then '[' else '\x7b') ∈ printed := by split <;> decide
  have high : (if r.inclusive.includesHigh then ']' else '\x7d') ∈ printed := by split <;> decide
  have word (v : List Char) : M.size (r.low.toList ++ (" TO ".toList ++ v)) =
      M.size r.low.toList + M.size v := by
    rw [show " TO ".toList ++ v = ' ' :: ("TO ".toList ++ v) from rfl, M.raw _ _ (by decide),
      M.size_printed (List.all_iff_forall_prop.mp (by decide))]
  rw [Range.print]
  simp only [List.append_assoc, List.cons_append, List.nil_append]
  rw [M.size_fieldText, M.size_cons low, word, M.raw _ _ high, Range.weight, M.bound]
  omega

/-! ### Trees -/

/-- What surrounds a group adds the name of its field. -/
theorem size_wrap {g : Grouping} (hg : g.Negatable) {w : List Char} {n : Nat}
    (hw : ∀ v, M.size (w ++ v) = n + M.size v) (v : List Char) :
    M.size (g.wrap w ++ v) = g.weight M.weights + n + M.size v := by
  have start (v : List Char) : M.size (g.startText ++ (w ++ v)) = n + M.size v := by
    rw [← hw v]
    rcases hg with e | e <;> rw [Grouping.startText, e]
    · rfl
    · exact M.size_printed (List.all_iff_forall_prop.mp (by decide)) _
  have inner (v : List Char) : M.size ((if (g.parenthesized || g.field.isSome) = true then
      '(' :: (g.startText ++ w) ++ [')'] else g.startText ++ w) ++ v) = n + M.size v := by
    split
    · rw [List.append_assoc, List.cons_append, M.size_cons (by decide), List.append_assoc, start,
        List.singleton_append, M.size_cons (by decide)]
    · rw [List.append_assoc, start]
  rw [Grouping.wrap]
  simp only [List.append_assoc]
  -- the text inside depends on whether the group has a field, and its measure does not
  cases e : g.field with
  | none =>
      rw [e] at inner
      rw [Option.elim_none, List.nil_append, inner, Grouping.weight, e]
      exact congrArg (· + M.size v) (Nat.zero_add n).symm
  | some f =>
      rw [e] at inner
      rw [Option.elim_some, M.size_fieldText, inner, Grouping.weight, e, Nat.add_assoc]
      rfl

theorem size_separator {op : Operator} (h : ∀ s, op ≠ .other s) (v : List Char) :
    M.size (op.separator ++ v) = M.size v := by
  refine M.size_printed ?_ v
  cases op with
  | other s => exact absurd rfl (h s)
  | _ => exact List.all_iff_forall_prop.mp (by decide)

/-- **The measure of a printed tree** is its weight and the measure of its numbers. -/
theorem size_chars {strict : Prop} {t : Tree} {outer : Grouping → Prop}
    (ho : ∀ g, outer g → g.Negatable) (ht : t.Formed strict outer) {w : List Char}
    (h : t.chars = .ok w) (v : List Char) :
    M.size (w ++ v) = t.weight M.weights + M.numbers t.numbers + M.size v := by
  induction t generalizing outer w v with
  | term t =>
      rw [Tree.chars] at h
      rw [M.size_print ht h, Tree.weight, Tree.numbers, Tree.terms, List.flatMap_singleton]
  | range r =>
      rw [Tree.chars] at h
      cases h
      rw [M.size_range, Tree.weight]
      rfl
  | single l g ih =>
      obtain ⟨u, e, rfl⟩ := Tree.chars_single_eq_ok h
      rw [M.size_wrap (ho g ht.1) (ih (fun g hg => hg.start) ht.2 e), Tree.weight,
        ← Nat.add_assoc]
      rfl
  | binary l op r g ihl ihr =>
      obtain ⟨hg, hl, hj, hr⟩ := ht
      obtain ⟨a, b, el, er, rfl⟩ := Tree.chars_binary_eq_ok h
      have both (v : List Char) : M.size (a ++ op.separator ++ b ++ v) =
          (l.weight M.weights + M.numbers l.numbers +
            (r.weight M.weights + M.numbers r.numbers)) + M.size v := by
        rw [List.append_assoc, List.append_assoc, ihl (fun g hg => hg.start) hl el,
          M.size_separator hj.known, ihr (fun g hg => hg.elim (·.start) (·.start)) hr er]
        omega
      have numbers : M.numbers (Tree.binary l op r g).numbers =
          M.numbers l.numbers + M.numbers r.numbers := by
        rw [Tree.numbers, Tree.terms, List.flatMap_append, M.numbers_append]
        rfl
      rw [M.size_wrap (ho g hg) both, Tree.weight, numbers]
      omega

/-! ### The two measures -/

/-- How often a character occurs. -/
def counting (c : Char) (hc : c ∈ traced) : Measure where
  weights := Query.counting c hc
  size := List.count c
  size_nil := rfl
  raw u d v hd := by
    have ne : d ≠ c := by
      have : ∀ d ∈ printed, d ∉ traced := List.all_iff_forall_prop.mp (by decide)
      exact ne_of_traced hc (this d hd)
    rw [List.count_append, List.count_cons_of_ne ne]
  plain v _ := List.count_append
  word w v := by
    have e := count_unescape (ne_of_traced hc (by decide)).symm (escapeWord w)
    rw [unescape_escapeWord] at e
    rw [List.count_append, ← e]
    rfl
  phrase w v := by
    have e := count_unescape (ne_of_traced hc (by decide)).symm (escapeQuoted w)
    rw [unescape_escapeQuoted] at e
    rw [List.count_append, ← e]
    rfl
  name := rfl
  regex := rfl
  bound := rfl

/-- A character that printing adds neither ends an escape nor is escaped. -/
theorem escapes_raw {c : Char} (hc : c ∈ printed) (v : List Char) :
    ∀ u, escapes (u ++ c :: v) = escapes u + escapes v := by
  have hne : c ≠ '\\' := by
    rintro rfl
    revert hc
    decide
  have hv : isVeiled c = false := by
    have : ∀ c ∈ printed, isVeiled c = false := List.all_iff_forall_prop.mp (by decide)
    exact this c hc
  intro u
  fun_induction escapes u with
  | case1 d s ih =>
      rw [List.cons_append, List.cons_append, escapes, ih, Nat.add_assoc]
  | case2 d s hd ih =>
      by_cases e : d = '\\'
      · -- the last backslash of the text escapes the printed character
        cases s with
        | nil =>
            rw [e, List.singleton_append, escapes, hv]
            rfl
        | cons d' s => exact absurd rfl (hd d' s e)
      · rw [List.cons_append, escapes_cons e, ih]
  | case3 => rw [List.nil_append, escapes_cons hne, Nat.zero_add]

/-- Escapes of characters that printing escapes are not counted. -/
theorem escapes_escapeAll {q : Char → Bool} (hq : q '\\' = true)
    (hv : ∀ c, q c = true → isVeiled c = false) (s v : List Char) :
    escapes (escapeAll q s ++ v) = escapes v := by
  induction s with
  | nil => rfl
  | cons c s ih =>
      rw [escapeAll_cons, List.append_assoc]
      cases h : q c with
      | true =>
          rw [if_pos rfl, List.cons_append, List.singleton_append, escapes, hv c h, ih]
          exact Nat.zero_add _
      | false =>
          have hne : c ≠ '\\' := by
            rintro rfl
            rw [hq] at h
            cases h
          rw [if_neg Bool.false_ne_true, List.singleton_append, escapes_cons hne, ih]

theorem escapes_escapeWord (s v : List Char) : escapes (escapeWord s ++ v) = escapes v := by
  have specials (s : List Char) : escapes (escapeSpecials s ++ v) = escapes v := by
    rw [escapeSpecials_eq]
    refine escapes_escapeAll (by decide) (fun c hc => ?_) s v
    have : ∀ c ∈ wordSpecials, isVeiled c = false := List.all_iff_forall_prop.mp (by decide)
    exact this c (List.contains_iff_mem.mp hc)
  rcases escapeWord_cases s with ⟨e, -⟩ | ⟨c, r, rfl, -, -, e, hc⟩
  · rw [e, specials]
  · have hv : isVeiled c = false := by
      have heads : ∀ w ∈ keywords, w.head?.any isVeiled = false := by decide
      rcases hc with hc | rfl | rfl
      · exact heads _ hc
      · decide
      · decide
    rw [e, List.cons_append, List.cons_append, escapes, hv, specials]
    exact Nat.zero_add _

/-- How many escapes there are that printing never writes. -/
def escaping : Measure where
  weights := Query.escaping
  size := escapes
  size_nil := rfl
  raw u c v hc := escapes_raw hc v u
  plain {u} v hu := by rw [escapes_append_plain hu, escapes_eq_zero hu, Nat.zero_add]
  word w v := by
    rw [escapes_escapeWord]
    exact (Nat.zero_add _).symm
  phrase w v := by
    have e := escapes_escapeAll (q := fun c => c == '\\' || c == '"') rfl (fun c hc => ?_) w v
    · rw [← escapeQuoted_eq] at e
      rw [e]
      exact (Nat.zero_add _).symm
    · rw [Bool.or_eq_true, beq_iff_eq, beq_iff_eq] at hc
      rcases hc with rfl | rfl <;> rfl
  name := rfl
  regex := rfl
  bound := rfl

end Measure
end SearchFilters
