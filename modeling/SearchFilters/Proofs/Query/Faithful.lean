import SearchFilters.Proofs.Query.Printing
import SearchFilters.Proofs.Query.Reading

/-!
# Proofs — Query — Faithful

The queries that printing keeps, told from their trees.

A tree is *faithful* when none of four things occurs in it: a number that is written with an
exponent, a blank in a word that printing does not escape, a side that `NOT` opens behind a mere
`AND` or `OR`, and a word like an operator behind a clause without one.  `parse_printQuery_iff` says
that the text of a query that was read is read as the same query exactly then.

That a faithful tree reads back is printing and reading in turn (`Tree.parse_print_of_tight`), since
a formed tree without these four things is readable (`Formed.readable`).  The other way round the
text is known to be read as the tree, and nothing is known of how.  Two measures of texts decide it,
which reading turns into weights of the tree and printing turns back (`Measure`).  The letter `e`
occurs as often in the text as in the tree, so that no number has brought one
(`numbers_of_parse_print`); then the potential of the text is no more than that of the tree
(`potential_print_le`), so that reading has lost nothing, and what is read without losing anything
is strictly formed (`faithful_of_parse_print`).

`not_parse_printQuery_negatedSide` is a query that does not read back.
-/

namespace SearchFilters
open Text Query

/-- A number whose text after a modifier's mark has no exponent. -/
def Number.Positional (x : Number) : Prop := ∃ l, x.modifierText = .ok l ∧ 'e' ∉ l

namespace Tree

/-- The operators of a tree with their right sides. -/
def joins : Tree → List (Operator × Tree)
  | .term _ | .range _ => []
  | .single l _ => l.joins
  | .binary l op r _ => (op, r) :: (l.joins ++ r.joins)

/-- **A tree that printing keeps**: its numbers are written without exponents, the blanks in its
words are such that printing escapes them, no `AND` or `OR` stands in front of a side that begins
with `NOT`, and no word written like an operator follows a clause without an operator. -/
structure Faithful (t : Tree) : Prop where
  numbers : ∀ x ∈ t.numbers, x.Positional
  words : ∀ u ∈ t.terms, u.quoted = false → u.regex = false →
    ∀ c ∈ u.text.toList, isLegible c = true
  negated : ∀ j ∈ t.joins, j.2.OpensNegated → j.1 ≠ .and ∧ j.1 ≠ .or
  plain : ∀ j ∈ t.joins, j.1 = .implicit → j.2.NotSymbolic

variable {strict : Prop} {outer : Grouping → Prop} {t : Tree}

theorem Formed.terms (ht : t.Formed strict outer) : ∀ u ∈ t.terms, u.Formed strict := by
  induction t generalizing outer with
  | term t =>
      intro u hu
      rw [List.mem_singleton.mp hu]
      exact ht
  | range r =>
      intro u hu
      cases hu
  | single l g ih => exact ih ht.2
  | binary l op r g ihl ihr =>
      intro u hu
      rcases List.mem_append.mp hu with hu | hu
      · exact ihl ht.2.1 u hu
      · exact ihr ht.2.2.2 u hu

theorem Formed.joins (ht : t.Formed strict outer) : ∀ j ∈ t.joins, Joined strict j.1 j.2 := by
  induction t generalizing outer with
  | term t | range r =>
      intro j hj
      cases hj
  | single l g ih => exact ih ht.2
  | binary l op r g ihl ihr =>
      intro j hj
      rcases List.mem_cons.mp hj with rfl | hj
      · exact ht.2.2.1
      · rcases List.mem_append.mp hj with hj | hj
        · exact ihl ht.2.1 j hj
        · exact ihr ht.2.2.2 j hj

/-! ### Faithful trees read back -/

/-- A number that was read and is written without an exponent reads back. -/
theorem rereads_of_positional {x : Number} (hw : x.Written) (hp : x.Positional) : x.Rereads := by
  obtain ⟨s, y, hs, rfl⟩ := hw
  obtain ⟨l, hl, he⟩ := hp
  cases y with
  | nan | infinite n => cases hl
  | finite n m q =>
      obtain ⟨hc, rfl⟩ := Binary64.canonical_of_ofPlain? hs
      exact ⟨l, _, hl, Number.modifierText_reads hc hl he, rfl⟩

theorem readable_term {u : Term} (hu : u.Formed strict) (hn : ∀ x ∈ u.numbers, x.Positional)
    (hw : u.quoted = false → u.regex = false → ∀ c ∈ u.text.toList, isLegible c = true) :
    u.Readable := by
  have boost (x : Number) (hx : x ∈ u.boost) : x.Rereads :=
    rereads_of_positional (hu.boost x hx) (hn x (List.mem_append_right _ (by simpa using hx)))
  refine ⟨hu.field, hu.mark, ?_⟩
  rcases hu.body with h | ⟨hr, hq, hs⟩ | ⟨hr, hq, hp, hne, -⟩
  · exact .inl h
  · exact .inr (.inl ⟨hr, hq, hs, hu.proximity, boost⟩)
  · refine .inr (.inr ⟨hr, hq, ⟨hne, hw hq hr⟩, hp, fun x hx => ?_, boost⟩)
    refine rereads_of_positional (hu.similarity x hx) (hn x (List.mem_append_left _ ?_))
    rw [hr, hq]
    simpa using hx

/-- A side that is read can be written behind its operator. -/
theorem Joined.joins {op : Operator} {r : Tree} (h : Joined strict op r)
    (hn : r.OpensNegated → op ≠ .and ∧ op ≠ .or) (hp : op = .implicit → r.NotSymbolic) :
    Joins op r := by
  refine ⟨h.known, fun hr => ?_, hp⟩
  have hi := (h.negated hr).1
  obtain ⟨ha, ho⟩ := hn hr
  cases op with
  | not => exact .inl rfl
  | andNot => exact .inr (.inl rfl)
  | orNot => exact .inr (.inr rfl)
  | other s => exact absurd rfl (h.known s)
  | implicit => exact absurd rfl hi
  | and => exact absurd rfl ha
  | or => exact absurd rfl ho

/-- The parts of a faithful tree are faithful. -/
theorem Faithful.of_subset {u : Tree} (h : t.Faithful) (ht : u.terms ⊆ t.terms)
    (hj : u.joins ⊆ t.joins) : u.Faithful where
  numbers := by
    intro x hx
    obtain ⟨v, hv, hx⟩ := List.mem_flatMap.mp hx
    exact h.numbers x (List.mem_flatMap.mpr ⟨v, ht hv, hx⟩)
  words := fun v hv => h.words v (ht hv)
  negated := fun j hu => h.negated j (hj hu)
  plain := fun j hu => h.plain j (hj hu)

/-- Faithful trees that are read can be written. -/
theorem Formed.readable (ht : t.Formed strict outer) (hf : t.Faithful) : t.Readable outer := by
  induction t generalizing outer with
  | term u =>
      refine readable_term ht (fun x hx => hf.numbers x ?_) (hf.words u (List.mem_singleton_self u))
      rwa [Tree.numbers, Tree.terms, List.flatMap_singleton]
  | range r => exact ht
  | single l g ih => exact ⟨ht.1, ih ht.2 (hf.of_subset (fun _ => id) fun _ => id)⟩
  | binary l op r g ihl ihr =>
      obtain ⟨hg, hl, hj, hr⟩ := ht
      have here : (op, r) ∈ (binary l op r g).joins := List.mem_cons_self ..
      have left : l.Faithful := hf.of_subset (List.subset_append_left _ _) fun j hj =>
        List.mem_cons_of_mem _ (List.mem_append_left _ hj)
      have right : r.Faithful := hf.of_subset (List.subset_append_right _ _) fun j hj =>
        List.mem_cons_of_mem _ (List.mem_append_right _ hj)
      exact ⟨hg, ihl hl left, hj.joins (hf.negated _ here) (hf.plain _ here), ihr hr right⟩

/-! ### Trees that read back are faithful -/

/-- Trimming takes only blanks away. -/
theorem count_trim {c : Char} (hc : c ∈ traced) (s : List Char) : (trim s).count c = s.count c := by
  obtain ⟨a, b, e, ha, hb⟩ := trim_append s
  have none {u : List Char} (hu : ∀ d ∈ u, isBlank d = true) : u.count c = 0 :=
    count_eq_zero hc fun d hd => not_traced_of_isBlank (hu d hd)
  rw [← e, List.count_append, List.count_append, none ha, none hb, e]
  omega

theorem escapes_trim_le (s : List Char) : escapes (trim s) ≤ escapes s := by
  obtain ⟨a, b, e, ha, hb⟩ := trim_append s
  calc escapes (trim s) ≤ escapes (trim s) + escapes b := Nat.le_add_right _ _
    _ ≤ escapes (trim s ++ b) :=
        le_escapes_append (fun c hc => ne_backslash_of_isBlank (hb c (List.mem_of_mem_head? hc))) _
    _ = escapes (a ++ (trim s ++ b)) := (escapes_append_plain (fun c hc => ne_backslash_of_isBlank (ha c hc)) _).symm
    _ = escapes s := by rw [← List.append_assoc, e]

/-- The measure of a text that was printed. -/
theorem size_of_print (M : Measure) (ht : t.Formed strict Grouping.Open) {p : String}
    (h : t.print = .ok p) : M.size p.toList = t.weight M.weights + M.numbers t.numbers := by
  obtain ⟨w, e, rfl⟩ := exists_of_map_eq_ok h
  have := M.size_chars (fun g hg => hg.start) ht e []
  rwa [List.append_nil, M.size_nil, Nat.add_zero, ← String.toList_ofList (l := w)] at this

theorem positional_of_numbers {xs : List Number}
    (h : (Measure.counting 'e' exponent_traced).numbers xs = 0) : ∀ x ∈ xs, x.Positional := by
  intro x hx
  have hx₀ := List.sum_eq_zero_iff_forall_eq_nat.mp h _ (List.mem_map_of_mem hx)
  unfold Measure.number at hx₀
  split at hx₀
  · next l hl => exact ⟨l, hl, List.count_eq_zero.mp hx₀⟩
  · cases hx₀

/-- The letter of exponents is in the texts of a tree only, if the tree's text reads as the tree. -/
theorem numbers_of_parse_print {p : String} (ht : t.Formed strict Grouping.Open)
    (hp : t.print = .ok p) (h : parse p = .ok (some t)) : ∀ x ∈ t.numbers, x.Positional := by
  obtain ⟨r, hs, hf, -⟩ := parse_eq_some_iff.mp h
  let M := Measure.counting 'e' exponent_traced
  have size : p.toList.count 'e' = t.weight M.weights + M.numbers t.numbers :=
    size_of_print M ht hp
  have run : t.weight M.weights + 0 = 0 + (trim p.toList).count 'e' := by
    rw [Reader.weight_finish M.weights hf]
    exact count_steps hs
  rw [count_trim exponent_traced, size] at run
  have none : M.numbers t.numbers = 0 := by omega
  exact positional_of_numbers none

/-- Numbers without exponents are nothing to a measure that does not see digits and marks. -/
theorem numbers_eq_zero {M : Measure} (hM : ∀ l, (∀ c ∈ l, Binary64.IsTextual c) → M.size l = 0)
    {xs : List Number} (h : ∀ x ∈ xs, x.Positional) : M.numbers xs = 0 := by
  refine List.sum_eq_zero_iff_forall_eq_nat.mpr fun n hn => ?_
  obtain ⟨x, hx, rfl⟩ := List.mem_map.mp hn
  obtain ⟨l, hl, -⟩ := h x hx
  rw [Measure.number, hl]
  exact hM l (Number.modifierText_chars hl)

/-- Nothing of the text of a tree without exponents can be lost. -/
theorem potential_print_le {p : String} (ht : t.Formed strict Grouping.Open)
    (hn : ∀ x ∈ t.numbers, x.Positional) (hp : t.print = .ok p) :
    potential {} (trim p.toList) ≤ kept t := by
  have symbol {c : Char} (hc : c ∈ traced) (h : c ∈ ['\\', '&', '|']) :
      p.toList.count c = t.weight (counting c hc) := by
    have := size_of_print (Measure.counting c hc) ht hp
    have none (l : List Char) (hl : ∀ c ∈ l, Binary64.IsTextual c) : l.count c = 0 :=
      List.count_eq_zero.mpr fun hc => ne_of_textual (hl c hc) h rfl
    rwa [numbers_eq_zero none hn, Nat.add_zero] at this
  have escapes' : escapes p.toList = t.weight escaping := by
    have := size_of_print Measure.escaping ht hp
    have none (l : List Char) (hl : ∀ c ∈ l, Binary64.IsTextual c) : escapes l = 0 :=
      escapes_eq_zero fun c hc => ne_of_textual (hl c hc) (by decide)
    rwa [numbers_eq_zero none hn, Nat.add_zero] at this
  have ha := symbol ampersand_traced (by decide)
  have ho := symbol bar_traced (by decide)
  have he := escapes_trim_le p.toList
  have start (W : Weights) : Reader.weight W {} = 0 := rfl
  rw [potential, occurrences, occurrences, start, start, start, count_trim ampersand_traced,
    count_trim bar_traced, ha, ho, kept]
  omega

/-- **A tree that was read and whose text reads as it is faithful.** -/
theorem faithful_of_parse_print {p : String} (ht : t.Formed strict Grouping.Open)
    (hp : t.print = .ok p) (h : parse p = .ok (some t)) : t.Faithful := by
  have hn := numbers_of_parse_print ht hp h
  -- nothing is lost in reading the text, so the tree is as a text without symbols and veiled
  -- escapes gives it
  obtain ⟨hs, -, -⟩ := formed_of_parse True h fun _ => potential_print_le ht hn hp
  refine ⟨hn, fun u hu hq hr => ?_, fun j hj ho => ((hs.joins j hj).negated ho).2 trivial,
    fun j hj => (hs.joins j hj).plain trivial⟩
  exact ((hs.terms u hu).of_word hr hq).2.2 trivial

/-- **A tree that was read reads back from its text** exactly when it is faithful. -/
theorem parse_print_iff {q : String} (h : parse q = .ok (some t)) :
    (∃ p, t.print = .ok p ∧ parse p = .ok (some t)) ↔ t.Faithful := by
  obtain ⟨ht, hg, hl⟩ := formed_of_parse False h False.elim
  constructor
  · rintro ⟨p, hp, hr⟩
    exact faithful_of_parse_print ht hp hr
  · intro hf
    obtain ⟨p, hp, hr⟩ := parse_print_of_tight (ht.readable hf) hg hl
    exact ⟨p, hp, by rwa [ht.collapseRights_eq] at hr⟩

end Tree

/-- **The text of a query that was read** reads as the same query exactly when its tree, if it has
one, is faithful. -/
theorem parse_printQuery_iff {q : String} {t : Option Tree} (h : parse q = .ok t) :
    (∃ p, printQuery t = .ok p ∧ parse p = .ok t) ↔ ∀ u ∈ t, u.Faithful := by
  cases t with
  | none => exact ⟨fun _ => nofun, fun _ => ⟨"", rfl, parse_eq_none_iff.mpr rfl⟩⟩
  | some t =>
      have h := Tree.parse_print_iff h
      simpa [printQuery] using h

/-! ### A query that is kept and one that is not -/

/-- The query `a~ || b\ c`. -/
def Tree.fuzzyOrBlank : Tree :=
  .binary (.term { text := "a", similarity := some (.float defaultSimilarity) }) .or
    (.term { text := "b c" }) {}

theorem parse_fuzzyOrBlank : parse "a~ || b\\ c" = .ok (some Tree.fuzzyOrBlank) :=
  parse_of_run (by decide +kernel)

theorem faithful_fuzzyOrBlank : Tree.fuzzyOrBlank.Faithful := by
  have similarity : Number.Positional (.float defaultSimilarity) :=
    ⟨"0.5".toList, by decide +kernel, by decide⟩
  refine ⟨fun x hx => ?_, ?_, ?_, ?_⟩
  · rw [List.mem_singleton.mp hx]
    exact similarity
  · intro u hu _ _
    have hu : u = { text := "a", similarity := some (.float defaultSimilarity) } ∨
        u = { text := "b c" } := by
      simpa [Tree.fuzzyOrBlank, Tree.terms] using hu
    rcases hu with rfl | rfl <;> exact List.all_iff_forall_prop.mp (by decide)
  · rintro j hj ⟨-, h⟩
    rw [List.mem_singleton.mp hj] at h
    cases h
  · rintro j hj h
    rw [List.mem_singleton.mp hj] at h
    cases h

theorem parse_printQuery_sample :
    parse "a~ || b\\ c" = .ok (some Tree.fuzzyOrBlank) ∧
      ∃ p, printQuery (some Tree.fuzzyOrBlank) = .ok p ∧ parse p = .ok (some Tree.fuzzyOrBlank) :=
  ⟨parse_fuzzyOrBlank, (parse_printQuery_iff parse_fuzzyOrBlank).mpr
    fun _ hu => Option.some.inj hu ▸ faithful_fuzzyOrBlank⟩

/-- The query `a && NOT b`. -/
def Tree.negatedSide : Tree :=
  .binary (.term { text := "a" }) .and (.single (.term { text := "b" }) { start := some .not }) {}

theorem parse_negatedSide : parse "a && NOT b" = .ok (some Tree.negatedSide) :=
  parse_of_run (by decide +kernel)

/-- **A query that printing does not keep**: `a && NOT b` is printed as `a AND NOT b`, whose `AND
NOT` is an operator of its own. -/
theorem not_parse_printQuery_negatedSide :
    parse "a && NOT b" = .ok (some Tree.negatedSide) ∧
      printQuery (some Tree.negatedSide) = .ok "a AND NOT b" ∧
      parse "a AND NOT b" ≠ .ok (some Tree.negatedSide) := by
  have printed : printQuery (some Tree.negatedSide) = .ok "a AND NOT b" := by decide +kernel
  refine ⟨parse_negatedSide, printed, fun h => ?_⟩
  have hf := (Tree.parse_print_iff parse_negatedSide).mp ⟨_, printed, h⟩
  exact (hf.negated _ (List.mem_cons_self ..) ⟨rfl, rfl⟩).1 rfl

end SearchFilters
