import Mathlib.Data.List.TakeWhile
import SearchFilters.Proofs.Query.Resume

/-!
# Proofs — Query — Layout

The layout of a query may be exchanged.

Two texts that differ in a row of layout are read in lockstep: up to the row, or to the lexeme it
stands in, one lexeme after the other is the same; then the row is skipped, or the lexemes differ in
it alone and do the same.  `Swapped` is what two such texts begin with, in these cases, and
operators and field names, the only lexemes with blanks in them, are split from both texts alike
(`Kind.split_swapped`).  The other kinds end in front of the row whatever follows the blank
(`Kind.split_before`).

Where a row of layout may be exchanged is told by reading itself: `Spot` says that a run comes to
the row, or to a lexeme that the row stands in.  Layout in a phrase or behind a backslash is at no
such place.  One case has to be kept out: a word in front of a backslash and the row, where the
backslash would escape the row; behind a word no lexeme begins with a backslash by itself, so that
no run goes on from there (`not_steps_backslash`).

* `Steps.swapped`: a run up to the row, or to the lexeme it stands in, is one over the other text.
* `parse_layout`: a query with other layout at a place has the same tree.
-/

namespace SearchFilters.Query
open Text

variable {b t v w w' : List Char}

/-! ### Rows of layout -/

/-- A row of at least one layout character. -/
structure LayoutRow (w : List Char) : Prop where
  ne_nil : w ≠ []
  layout : ∀ c ∈ w, isLayout c = true

theorem LayoutRow.blank (hw : LayoutRow w) : ∀ c ∈ w, isBlank c = true :=
  fun c hc => isBlank_of_isLayout (hw.layout c hc)

theorem LayoutRow.parted (hw : LayoutRow w) (v : List Char) : Parted (w ++ v) := by
  obtain ⟨c, r, rfl⟩ := List.exists_cons_of_ne_nil hw.ne_nil
  exact parted_cons (hw.blank c (List.mem_cons_self ..)) (r ++ v)

/-- Blanks in front of a row go on behind it. -/
theorem LayoutRow.takeWhile_isBlank (hw : LayoutRow w) (ht : t.dropWhile isBlank = [])
    (v : List Char) :
    (t ++ (w ++ v)).takeWhile isBlank = t ++ (w ++ v.takeWhile isBlank) := by
  rw [List.takeWhile_append_of_pos (List.dropWhile_eq_nil_iff.mp ht),
    List.takeWhile_append_of_pos hw.blank]

/-- Behind blanks and the row stands what stands behind the row. -/
theorem LayoutRow.dropWhile_isBlank (hw : LayoutRow w) (ht : t.dropWhile isBlank = [])
    (v : List Char) : (t ++ (w ++ v)).dropWhile isBlank = v.dropWhile isBlank := by
  rw [List.dropWhile_append_of_pos (List.dropWhile_eq_nil_iff.mp ht),
    List.dropWhile_append_of_pos hw.blank]

/-- Blanks that another character ends do not come to the row. -/
theorem dropWhile_isBlank_append (ht : t.dropWhile isBlank ≠ []) (x : List Char) :
    (t ++ x).dropWhile isBlank = t.dropWhile isBlank ++ x := by
  rw [List.dropWhile_append, if_neg (by simpa using ht)]

/-! ### Lexemes -/

/-- **What two texts begin with** that differ in a row of layout behind `b`: nothing, the same
lexeme in front of the row, or lexemes that differ in the row alone. -/
inductive Swapped (b w w' v : List Char) : Split → Split → Prop where
  | none : Swapped b w w' v none none
  | before {l t : List Char} (h : l ++ t = b) :
      Swapped b w w' v (some (l, t ++ (w ++ v))) (some (l, t ++ (w' ++ v)))
  | across {q rest : List Char} (h : q ++ rest = v) :
      Swapped b w w' v (some (b ++ (w ++ q), rest)) (some (b ++ (w' ++ q), rest))

namespace Swapped
variable {o : Split}

/-- What comes behind the row does not begin with it. -/
theorem ne_of_behind {q rest : List Char} (hw : w ≠ []) (hv : q ++ rest = v) :
    t ++ (w ++ v) ≠ rest := by
  rintro rfl
  have := congrArg List.length hv
  have := List.length_pos_iff.mpr hw
  simp only [List.length_append] at *
  omega

/-- The lexeme in front of the row is the same. -/
theorem of_before {l : List Char} (hw : w ≠ [])
    (h : Swapped b w w' v (some (l, t ++ (w ++ v))) o) : o = some (l, t ++ (w' ++ v)) := by
  generalize e : some (l, t ++ (w ++ v)) = o' at h
  cases h with
  | none => cases e
  | before h =>
      rw [Option.some.injEq, Prod.mk.injEq, List.append_left_inj] at e
      rw [e.1, e.2]
  | across h =>
      rw [Option.some.injEq, Prod.mk.injEq] at e
      exact absurd e.2 (ne_of_behind hw h)

/-- The lexeme around the row differs in it alone. -/
theorem of_across {q rest : List Char} (hw : w ≠ []) (hv : q ++ rest = v)
    (h : Swapped b w w' v (some (b ++ (w ++ q), rest)) o) : o = some (b ++ (w' ++ q), rest) := by
  generalize e : some (b ++ (w ++ q), rest) = o' at h
  cases h with
  | none => cases e
  | before =>
      rw [Option.some.injEq, Prod.mk.injEq] at e
      exact absurd e.2.symm (ne_of_behind hw hv)
  | across =>
      rw [Option.some.injEq, Prod.mk.injEq, List.append_right_inj, List.append_right_inj] at e
      rw [e.1, e.2]

end Swapped

/-- A lexeme that a blank settles. -/
theorem swapped_settled {k : Kind} (hk : k ∈ settledKinds) (hw : LayoutRow w) (hw' : LayoutRow w')
    (b v : List Char) :
    Swapped b w w' v (k.split (b ++ (w ++ v))) (k.split (b ++ (w' ++ v))) := by
  rw [Kind.split_settled hk (hw.parted v), Kind.split_settled hk (hw'.parted v)]
  cases h : k.split b with
  | none => exact .none
  | some p => exact .before (Kind.split_splits h).2

/-- What stands behind blanks is split alike, whether the blanks end in front of the row or go on
over it. -/
theorem swapped_behind {p : List Char → Split}
    (hp : ∀ {x : List Char}, Parted x → ∀ s, p (s ++ x) = (p s).map (extend x))
    (hq : ∀ {s : List Char} {q : List Char × List Char}, p s = some q → q.1 ++ q.2 = s)
    (hw : LayoutRow w) (hw' : LayoutRow w') (a t v : List Char) :
    Swapped (a ++ t) w w' v (splitBehind a p (t ++ (w ++ v)))
      (splitBehind a p (t ++ (w' ++ v))) := by
  unfold splitBehind
  by_cases ht : t.dropWhile isBlank = []
  · rw [hw.takeWhile_isBlank ht, hw'.takeWhile_isBlank ht, hw.dropWhile_isBlank ht,
      hw'.dropWhile_isBlank ht]
    cases h : p (v.dropWhile isBlank) with
    | none => exact .none
    | some q =>
        have e : v.takeWhile isBlank ++ q.1 ++ q.2 = v := by
          rw [List.append_assoc, hq h, List.takeWhile_append_dropWhile]
        simpa only [Option.map_some, List.append_assoc] using Swapped.across (b := a ++ t) e
  · rw [takeWhile_isBlank_resumes ht, takeWhile_isBlank_resumes ht, dropWhile_isBlank_append ht,
      dropWhile_isBlank_append ht, hp (hw.parted v), hp (hw'.parted v)]
    cases h : p (t.dropWhile isBlank) with
    | none => exact .none
    | some q =>
        refine .before ?_
        simp only [extend, List.append_assoc, hq h, List.takeWhile_append_dropWhile]

/-- Blanks between an operator and `NOT` may be exchanged. -/
theorem swapped_negated {a : List Char} (ha : a.any isBlank = false) (hw : LayoutRow w)
    (hw' : LayoutRow w') (b v : List Char) :
    Swapped b w w' v (splitNegated a (b ++ (w ++ v))) (splitNegated a (b ++ (w' ++ v))) := by
  cases h : a.isPrefixOf b with
  | false =>
      simp only [splitNegated, isPrefixOf_resumes ha (hw.parted v),
        isPrefixOf_resumes ha (hw'.parted v), h, Bool.false_eq_true, if_false]
      exact .none
  | true =>
      obtain ⟨t, rfl⟩ := List.isPrefixOf_iff_prefix.mp h
      have behind := swapped_behind (splitKeyword_resumes (w := "NOT".toList) (by decide))
        (fun h => (splitKeyword_splits (by decide) h).2) hw hw' a t v
      rw [List.append_assoc, List.append_assoc, splitNegated_eq, splitNegated_eq]
      by_cases ht : t.dropWhile isBlank = []
      · rw [hw.takeWhile_isBlank ht, hw'.takeWhile_isBlank ht, if_neg (by simp [hw.ne_nil]),
          if_neg (by simp [hw'.ne_nil])]
        exact behind
      · rw [takeWhile_isBlank_resumes ht, takeWhile_isBlank_resumes ht]
        split
        · exact .none
        · exact behind

/-- So may those between a field name and its colon. -/
theorem swapped_fieldName (hw : LayoutRow w) (hw' : LayoutRow w') (b v : List Char) :
    Swapped b w w' v (splitFieldName (b ++ (w ++ v))) (splitFieldName (b ++ (w' ++ v))) := by
  cases b with
  | nil =>
      have blank {w : List Char} (hw : LayoutRow w) : splitFieldName ([] ++ (w ++ v)) = none := by
        obtain ⟨c, r, rfl⟩ := List.exists_cons_of_ne_nil hw.ne_nil
        exact Kind.split_eq_none (k := .fieldName)
          (Kind.not_starts_of_isBlank (hw.blank c (List.mem_cons_self ..)) _) _
      rw [blank hw, blank hw']
      exact .none
  | cons c s =>
      have hn := (hw.parted v).outside not_isBlank_of_isNameChar
      have hn' := (hw'.parted v).outside not_isBlank_of_isNameChar
      simp only [List.cons_append, splitFieldName_eq, takeWhile_resumes hn, dropWhile_resumes hn,
        takeWhile_resumes hn', dropWhile_resumes hn']
      split
      · have colon {x : List Char} (hx : Parted x) := splitChar_resumes (a := ':') (b := ':')
          (by decide) (by decide) hx
        have behind := swapped_behind colon (fun h => (splitChar_splits h).2) hw hw'
          (c :: s.takeWhile isNameChar) (s.dropWhile isNameChar) v
        rwa [List.cons_append, List.takeWhile_append_dropWhile] at behind
      · exact .none

/-- **Operators and field names are split alike** from texts that differ in a row of layout. -/
theorem Kind.split_swapped {k : Kind} (hk : k ∈ keyedKinds) (hw : LayoutRow w) (hw' : LayoutRow w')
    (b v : List Char) :
    Swapped b w w' v (k.split (b ++ (w ++ v))) (k.split (b ++ (w' ++ v))) := by
  simp only [keyedKinds, Position.operatorKinds, List.cons_append, List.nil_append, List.mem_cons,
    List.not_mem_nil, or_false] at hk
  rcases hk with rfl | rfl | rfl | rfl | rfl | rfl
  · exact swapped_negated (by decide) hw hw' b v
  · exact swapped_negated (by decide) hw hw' b v
  · exact swapped_settled (by decide) hw hw' b v
  · exact swapped_settled (by decide) hw hw' b v
  · exact swapped_settled (by decide) hw hw' b v
  · exact swapped_fieldName hw hw' b v

/-- A lexeme begins in front of the row, not in it. -/
theorem LayoutRow.ne_nil_of_firstLexeme? {ks : List Kind} {k : Kind} {l r : List Char}
    (hw : LayoutRow w) (h : firstLexeme? ks (b ++ (w ++ v)) = some (k, l, r)) : b ≠ [] := by
  rintro rfl
  obtain ⟨c, s, rfl⟩ := List.exists_cons_of_ne_nil hw.ne_nil
  have := not_isLayout_of_firstLexeme? h
  rw [hw.layout c (List.mem_cons_self ..)] at this
  cases this

/-- The first lexemes of two texts that differ in a row of layout are of one kind. -/
theorem firstLexeme?_swapped {p : Position} {k : Kind} {l r l' r' : List Char} (hw : LayoutRow w)
    (hw' : LayoutRow w') (h : firstLexeme? p.kinds (b ++ (w ++ v)) = some (k, l, r))
    (hk : k.split (b ++ (w' ++ v)) = some (l', r')) :
    firstLexeme? p.kinds (b ++ (w' ++ v)) = some (k, l', r') := by
  refine firstLexeme?_agrees h hk (fun k hk none => ?_) ?_
  · have := Kind.split_swapped hk hw hw' b v
    rw [none] at this
    generalize k.split (b ++ (w' ++ v)) = o at this
    cases this
    rfl
  · obtain ⟨c, b, rfl⟩ := List.exists_cons_of_ne_nil (hw.ne_nil_of_firstLexeme? h)
    rfl

/-- A lexeme in front of the row is the same. -/
theorem Kind.split_before_row {k : Kind} {l : List Char} (hw : LayoutRow w) (hw' : LayoutRow w')
    (h : k.split (l ++ (t ++ (w ++ v))) = some (l, t ++ (w ++ v))) (ht : k = .word → t ≠ ['\\']) :
    k.split (l ++ (t ++ (w' ++ v))) = some (l, t ++ (w' ++ v)) := by
  by_cases hk : k ∈ crossedKinds
  · have := Kind.split_swapped (keyed_of_crossed hk) hw hw' (l ++ t) v
    rw [List.append_assoc, List.append_assoc, h] at this
    exact this.of_before hw.ne_nil
  · exact Kind.split_before hk h ht (hw.parted v) (hw'.parted v)

/-- The name of a lexeme ends where its characters do. -/
theorem Lexical.nameOfLexeme_eq {l : List Char} (h : Lexical .fieldName l) :
    nameOfLexeme l = l.takeWhile isNameChar := by
  cases h with
  | operator hk => cases hk
  | bracket hk => exact absurd hk (by decide)
  | @fieldName n b hn hb =>
      have ends : ∀ c ∈ (b ++ [':']).head?, isNameChar c = false := by
        cases b with
        | nil =>
            rintro _ ⟨⟩
            decide
        | cons d b =>
            exact (parted_cons (hb d (List.mem_cons_self ..)) (b ++ [':'])).outside
              not_isBlank_of_isNameChar
      rw [nameOfLexeme_blanks hn hb, List.append_assoc, takeWhile_resumes ends,
        List.takeWhile_eq_self_iff.mpr (isNameChar_of_isFieldName hn).2]

/-- Lexemes that differ in a row of layout do the same. -/
theorem Reader.step_across {k : Kind} {q : List Char} (hk : k ∈ crossedKinds) (hw : LayoutRow w)
    (hw' : LayoutRow w') (h : Lexical k (b ++ (w ++ q))) (h' : Lexical k (b ++ (w' ++ q)))
    (r : Reader) : r.step k (b ++ (w' ++ q)) = r.step k (b ++ (w ++ q)) := by
  simp only [crossedKinds, List.mem_cons, List.not_mem_nil, or_false] at hk
  rcases hk with rfl | rfl | rfl
  · unfold step
    cases r.position <;> rfl
  · unfold step
    cases r.position <;> rfl
  · -- a name ends in front of the row at the latest
    have name {w : List Char} (hw : LayoutRow w) (h : Lexical .fieldName (b ++ (w ++ q))) :
        nameOfLexeme (b ++ (w ++ q)) = b.takeWhile isNameChar := by
      rw [h.nameOfLexeme_eq,
        takeWhile_resumes ((hw.parted q).outside not_isBlank_of_isNameChar)]
    unfold step
    cases r.position <;> simp only [begin, continueAfter, operator?, name hw h, name hw' h'] <;> rfl

/-! ### Runs -/

/-- A step in front of the row is one over the text with the other row, unless it leaves a backslash
behind a word, which would escape the row. -/
theorem Step.swapped {r r' : Reader} {a : List Char} (hw : LayoutRow w) (hw' : LayoutRow w')
    (h : Step r (a ++ (w ++ v)) r' (b ++ (w ++ v)))
    (hb : b = ['\\'] → ∀ t, r'.position ≠ .modifiers t) :
    Step r (a ++ (w' ++ v)) r' (b ++ (w' ++ v)) := by
  generalize e : a ++ (w ++ v) = s at h
  cases h with
  | skip hc =>
      rw [← List.cons_append, List.append_left_inj] at e
      subst e
      exact .skip hc
  | take _ hl hr =>
      have e' := (splits_of_firstLexeme? hl).2
      dsimp only at e'
      rw [← e'] at e hl
      rw [← List.append_assoc _ b, List.append_left_inj] at e
      subst e
      have front := Kind.split_before_row hw hw' (mem_of_firstLexeme? hl).2 ?_
      · rw [← List.append_assoc] at hl front
        exact step_of_lexeme (firstLexeme?_swapped hw hw' hl front) hr
      · rintro rfl hm
        obtain ⟨t, hp⟩ := position_of_word hr
        exact hb hm t hp

/-- A step over a lexeme that the row stands in is one over the text with the other row. -/
theorem Step.across {r r' : Reader} {k : Kind} {q rest s : List Char} (hk : k ∈ crossedKinds)
    (hw : LayoutRow w) (hw' : LayoutRow w')
    (hl : firstLexeme? r.position.kinds (b ++ (w ++ v)) = some (k, b ++ (w ++ q), rest))
    (h : Step r (b ++ (w ++ v)) r' s) : Step r (b ++ (w' ++ v)) r' s := by
  obtain ⟨hr, rfl⟩ := h.of_lexeme hl
  obtain ⟨-, hs⟩ := mem_of_firstLexeme? hl
  obtain ⟨-, e⟩ := splits_of_firstLexeme? hl
  simp only [List.append_assoc, List.append_right_inj] at e
  have swapped := Kind.split_swapped (keyed_of_crossed hk) hw hw' b v
  rw [hs] at swapped
  have hs' := swapped.of_across hw.ne_nil e
  rw [← Reader.step_across hk hw hw' (lexical_of_split hs) (lexical_of_split hs')] at hr
  exact step_of_lexeme (firstLexeme?_swapped hw hw' hl hs') hr

/-- **A run that stops at the row**, or at the beginning of a lexeme that the row stands in, is a
run over the text with the other row. -/
theorem Steps.swapped {r r' : Reader} {a : List Char} (hw : LayoutRow w) (hw' : LayoutRow w')
    (h : Steps r (a ++ (w ++ v)) r' (b ++ (w ++ v))) (hb : b ≠ ['\\']) :
    Steps r (a ++ (w' ++ v)) r' (b ++ (w' ++ v)) := by
  generalize e : a ++ (w ++ v) = s at h
  generalize e' : b ++ (w ++ v) = s' at h
  induction h generalizing a with
  | refl =>
      rw [← e', List.append_left_inj] at e
      subst e
      exact .refl _ _
  | more h ht ih =>
      subst e e'
      obtain ⟨m, rfl⟩ := ht.suffix
      rw [← List.append_assoc m] at h
      refine .more (h.swapped hw hw' fun hm t hp => ?_) (ih (List.append_assoc ..) rfl)
      -- the run comes to the row, so that it does not stop in front of the backslash
      rcases List.append_eq_singleton_iff.mp hm with ⟨rfl, rfl⟩ | ⟨rfl, rfl⟩
      · exact hb rfl
      · exact not_steps_backslash hp ht

/-- **The places of layout** in a text that is read from its beginning.  Reading comes to the row
and skips it, or comes to an operator or a field name whose lexeme the row stands in. -/
inductive Spot (u w v : List Char) : Prop where
  | skipped {r : Reader} (h : Steps {} (u ++ (w ++ v)) r (w ++ v))
  | inside {r : Reader} {k : Kind} {p q rest : List Char}
      (h : Steps {} (u ++ (w ++ v)) r (p ++ (w ++ v))) (hk : k ∈ crossedKinds)
      (hl : firstLexeme? r.position.kinds (p ++ (w ++ v)) = some (k, p ++ (w ++ q), rest))

/-- A run over a whole text is one over the text with other layout at a place. -/
theorem Spot.steps {u : List Char} {r : Reader} (hs : Spot u w v) (hw : LayoutRow w)
    (hw' : LayoutRow w') (h : Steps {} (u ++ (w ++ v)) r []) : Steps {} (u ++ (w' ++ v)) r [] := by
  cases hs with
  | skipped front =>
      have back := (steps_layout _ hw.layout v).rest (front.rest h)
      exact (front.swapped (b := []) hw hw' nofun).trans
        ((steps_layout _ hw'.layout v).trans back)
  | @inside r₀ k p q rest front hk hl =>
      have hp : p ≠ ['\\'] := by
        rintro rfl
        have starts : ∀ k ∈ crossedKinds, k.starts '\\' = false := by decide
        have := starts k hk
        rw [Kind.starts_of_split (mem_of_firstLexeme? hl).2] at this
        cases this
      have back := front.rest h
      generalize e : p ++ (w ++ v) = s at back
      cases back with
      | refl => exact absurd e (by simp [hw.ne_nil])
      | more step back =>
          subst e
          exact (front.swapped hw hw' hp).trans (.more (step.across hk hw hw' hl) back)

/-! ### Queries -/

/-- A text without blanks at its ends has none there with other layout in between. -/
theorem trim_swapped {u : List Char} (hw : LayoutRow w)
    (h : trim (u ++ (w ++ v)) = u ++ (w ++ v)) : trim (u ++ (w' ++ v)) = u ++ (w' ++ v) := by
  have head := head?_trim (u ++ (w ++ v))
  have last := getLast?_trim (u ++ (w ++ v))
  rw [h] at head last
  refine trim_eq_self ?_ ?_
  · cases u with
    | nil =>
        obtain ⟨c, s, rfl⟩ := List.exists_cons_of_ne_nil hw.ne_nil
        have := head c rfl
        rw [hw.blank c (List.mem_cons_self ..)] at this
        cases this
    | cons c u => exact head
  · rcases List.eq_nil_or_concat v with rfl | ⟨v, c, rfl⟩
    · rw [List.append_nil, List.getLast?_append, List.getLast?_eq_some_getLast hw.ne_nil,
        Option.some_or] at last
      have := last _ rfl
      rw [hw.blank _ (List.getLast_mem hw.ne_nil)] at this
      cases this
    · simpa [← List.append_assoc] using last

/-- **Layout does not matter**: a query with other layout at a place between its first character and
its last one has the same tree. -/
theorem parse_layout {t : Tree} {a b u : List Char} (ha : ∀ c ∈ a, isBlank c = true)
    (hb : ∀ c ∈ b, isBlank c = true) (ht : trim (u ++ (w ++ v)) = u ++ (w ++ v))
    (hw : LayoutRow w) (hw' : LayoutRow w') (hs : Spot u w v)
    (h : parse (String.ofList (a ++ (u ++ (w ++ v)) ++ b)) = .ok (some t)) :
    parse (String.ofList (a ++ (u ++ (w' ++ v)) ++ b)) = .ok (some t) := by
  rw [parse_eq_some_iff, String.toList_ofList, trim_append_blanks hb, trim_blanks_append ha] at h ⊢
  rw [ht] at h
  rw [trim_swapped hw ht]
  obtain ⟨r, run, hr⟩ := h
  exact ⟨r, hs.steps hw hw' run, hr⟩

/-- The tree of `f :a AND NOT b`. -/
def excludingTree : Tree :=
  .binary (.term { field := "f", text := "a" }) .andNot (.term { text := "b" }) {}

theorem parse_layout_sample :
    parse " f :a AND \tNOT b\n" = .ok (some excludingTree) ∧
      parse " f :a AND\r\nNOT b\n" = .ok (some excludingTree) := by
  have h : parse " f :a AND \tNOT b\n" = .ok (some excludingTree) :=
    parse_of_run (by decide +kernel)
  have name : Step {} "f :a AND \tNOT b".toList { position := .named "f" }
      "a AND \tNOT b".toList :=
    step_of_lexeme (k := .fieldName) (l := "f :".toList) (by decide +kernel) (by decide +kernel)
  have word : Step { position := .named "f" } "a AND \tNOT b".toList
      { position := .modifiers { field := "f", text := "a" } } " AND \tNOT b".toList :=
    step_of_lexeme (k := .word) (l := "a".toList) (by decide +kernel) (by decide +kernel)
  have front : Steps {} "f :a AND \tNOT b".toList
      { position := .modifiers { field := "f", text := "a" } } "AND \tNOT b".toList :=
    .more name (.more word (.one (.skip rfl)))
  have operator : firstLexeme? (Position.modifiers { field := "f", text := "a" }).kinds
      "AND \tNOT b".toList = some (.andNot, "AND \tNOT".toList, " b".toList) := by decide +kernel
  have spot : Spot "f :a AND".toList " \t".toList "NOT b".toList :=
    .inside (p := "AND".toList) (q := "NOT".toList) front (by decide) operator
  have text (w : String) :
      String.ofList ([' '] ++ ("f :a AND".toList ++ (w.toList ++ "NOT b".toList)) ++ ['\n']) =
        " f :a AND" ++ w ++ "NOT b\n" := by
    apply String.toList_injective
    simp
  have row : LayoutRow " \t".toList := ⟨by decide, List.all_eq_true.mp (by decide)⟩
  have row' : LayoutRow "\r\n".toList := ⟨by decide, List.all_eq_true.mp (by decide)⟩
  have moved := parse_layout (t := excludingTree) (a := [' ']) (b := ['\n'])
    (List.all_eq_true.mp (by decide)) (List.all_eq_true.mp (by decide)) (by decide +kernel) row row'
    spot (by rw [text]; exact h)
  rw [text] at moved
  exact ⟨h, moved⟩

end SearchFilters.Query
