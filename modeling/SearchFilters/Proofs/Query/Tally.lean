import SearchFilters.Proofs.Query.Lexical
import SearchFilters.Proofs.Query.Run
import SearchFilters.Proofs.Query.Weight

/-!
# Proofs — Query — Tally

Two measures of what is still to be read, each of which reading turns into the weight of what has
been read: how often a character occurs, and how many escapes there are that printing never writes.

Reading forgets things: blanks, marks, which of two operators was written, and which characters were
escaped.  To tell from the tree what the text was like, one needs something that is not forgotten.
The letter of exponents never is (`count_step`).  The characters of operators in symbols are
forgotten when an operator is read, and an escape when a word is; but both only get lost, so that
their sum with the weight of the reader, the *potential*, is raised by no step (`potential_step`).
A text whose potential is that of its tree has therefore lost none of them on the way.

* `counting`, `escaping`: the weights that belong to the measures.
* `count_take`: a lexeme loses no character but those of operators.
* `escapes_lexeme`: only the escapes of words and phrases are lost.
-/

namespace SearchFilters.Query
open Text

/-! ### Occurrences of a character -/

/-- The letter of exponents, and the characters of the operators written in symbols. -/
def traced : List Char := ['e', '&', '|']

theorem exponent_traced : 'e' ∈ traced := by decide

theorem ampersand_traced : '&' ∈ traced := by decide

theorem bar_traced : '|' ∈ traced := by decide

theorem ne_of_traced {c d : Char} (hc : c ∈ traced) (hd : d ∉ traced) : d ≠ c := by
  rintro rfl
  exact hd hc

theorem not_traced_of_isBlank {c : Char} (h : isBlank c = true) : c ∉ traced := by
  have : ∀ d ∈ traced, isBlank d = false := List.all_iff_forall_prop.mp (by decide)
  intro hc
  rw [this c hc] at h
  cases h

theorem not_traced_of_isDigit {c : Char} (h : isDigit c = true) : c ∉ traced := by
  have : ∀ d ∈ traced, isDigit d = false := List.all_iff_forall_prop.mp (by decide)
  intro hc
  rw [this c hc] at h
  cases h

/-- The name of the field of plain terms, which stands in trees but in no text, does not count. -/
theorem count_implicitField : ∀ c ∈ traced, implicitField.toList.count c = 0 :=
  List.all_iff_forall_prop.mp (by decide)

/-- The weight of a text as the number of times a character occurs in it. -/
def counting (c : Char) (hc : c ∈ traced) : Weights where
  name := List.count c
  word := List.count c
  phrase := List.count c
  regex := List.count c
  bound := List.count c
  name_implicit := count_implicitField c hc

/-- Dropping escapes takes backslashes away and nothing else. -/
theorem count_unescape {c : Char} (hc : c ≠ '\\') (s : List Char) :
    (unescape s).count c = s.count c := by
  fun_induction unescape s with
  | case1 d r ih => rw [List.count_cons, ih, List.count_cons_of_ne hc.symm, List.count_cons]
  | case2 d r _ ih => rw [List.count_cons, ih, List.count_cons]
  | case3 => rfl

theorem count_eq_zero {c : Char} (hc : c ∈ traced) {s : List Char} (hs : ∀ d ∈ s, d ∉ traced) :
    s.count c = 0 := List.count_eq_zero.mpr fun h => hs c h hc

theorem gain_of_isBare {k : Kind} (hk : k.isBare = true) (W : Weights) (l : List Char) :
    gain W k l = 0 := by
  cases k <;> first | rfl | cases hk

/-- **A lexeme loses no character** but those of operators. -/
theorem count_lexeme {c : Char} (hc : c ∈ traced) {k : Kind} {l : List Char} (h : Lexical k l) :
    l.count c =
      gain (counting c hc) k l + if (operator? k).isSome then l.count c else 0 := by
  have around (a b : Char) (ha : a ∉ traced) (hb : b ∉ traced) (u : List Char) :
      (a :: u ++ [b]).count c = u.count c := by
    rw [List.count_append, List.count_cons_of_ne (ne_of_traced hc ha),
      List.count_cons_of_ne (ne_of_traced hc hb), List.count_nil, Nat.add_zero]
  have bare (hk : k.isBare = true) : l.count c =
      gain (counting c hc) k l + if (operator? k).isSome then l.count c else 0 := by
    have none : l.count c = 0 := count_eq_zero hc (h.bare hk (fun _ => not_traced_of_isDigit)
      (List.all_iff_forall_prop.mp (by decide)))
    rw [none, gain_of_isBare hk, ite_self]
  cases h with
  | operator hk hl =>
      rw [if_pos hk]
      cases k <;> first | exact (Nat.zero_add _).symm | cases hk
  | @fieldName n b hn hb =>
      have hb₀ : b.count c = 0 := count_eq_zero hc fun d hd => not_traced_of_isBlank (hb d hd)
      rw [List.count_append, List.count_append, hb₀,
        List.count_cons_of_ne (ne_of_traced hc (by decide)), gain, nameOfLexeme_blanks hn hb]
      rfl
  | word hne h => simp [gain, counting, operator?, count_unescape (ne_of_traced hc (by decide)).symm]
  | phrase h =>
      rw [around _ _ (by decide) (by decide)]
      simp [gain, counting, operator?, count_unescape (ne_of_traced hc (by decide)).symm, inside]
  | regex hne h =>
      rw [around _ _ (by decide) (by decide)]
      simp [gain, counting, operator?, inside]
  | bound hne h => simp [gain, counting, operator?]
  | boost | fuzzy | fuzzyNumber | rangeTo | mark => exact bare rfl
  | bracket hk _ => exact bare (Kind.isBare_of_bracket hk)

/-! ### Escapes that are never written -/

/-- A character that printing leaves as it is although reading takes it for a separator or for a
part of an operator. -/
def isVeiled (c : Char) : Bool := c == '&' || c == '|' || (isBlank c && !wordSpecials.contains c)

/-- The number of such characters that a backslash stands in front of. -/
def escapes : List Char → Nat
  | '\\' :: c :: s => (if isVeiled c then 1 else 0) + escapes s
  | _ :: s => escapes s
  | [] => 0

theorem escapes_cons {c : Char} (hc : c ≠ '\\') (s : List Char) : escapes (c :: s) = escapes s := by
  rw [escapes]
  exact fun d r e _ => hc e

/-- A text without backslashes holds no escape and begins none. -/
theorem escapes_append_plain {u : List Char} (hu : ∀ c ∈ u, c ≠ '\\') (v : List Char) :
    escapes (u ++ v) = escapes v := by
  induction u with
  | nil => rfl
  | cons c u ih =>
      rw [List.cons_append, escapes_cons (hu c (List.mem_cons_self ..)),
        ih fun d hd => hu d (List.mem_cons_of_mem _ hd)]

theorem escapes_eq_zero {u : List Char} (hu : ∀ c ∈ u, c ≠ '\\') : escapes u = 0 := by
  have e := escapes_append_plain hu []
  rwa [List.append_nil] at e

/-- A row of escaped characters ends no escape of what follows. -/
theorem escapes_append {p : Char → Bool} {u : List Char} (hu : Escaped p u) (v : List Char) :
    escapes (u ++ v) = escapes u + escapes v := by
  induction hu with
  | nil => rw [List.nil_append, escapes, Nat.zero_add]
  | plain hc _ _ ih => rw [List.cons_append, escapes_cons hc, escapes_cons hc, ih]
  | pair _ _ ih => rw [List.cons_append, List.cons_append, escapes, escapes, ih, Nat.add_assoc]

/-- A text that may end in a backslash, before one that does not begin with one. -/
theorem le_escapes_append {v : List Char} (hv : ∀ c ∈ v.head?, c ≠ '\\') :
    ∀ u, escapes u + escapes v ≤ escapes (u ++ v)
  | [] => by
      have e : escapes [] + escapes v = escapes ([] ++ v) := by
        rw [List.nil_append, escapes, Nat.zero_add]
      exact Nat.le_of_eq e
  | [c] => by
      rw [List.singleton_append]
      by_cases hc : c = '\\'
      · subst hc
        cases v with
        | nil => exact Nat.le_refl _
        | cons d v =>
            have hd : escapes ['\\'] = 0 := rfl
            rw [escapes_cons (hv d rfl), escapes, hd, Nat.zero_add]
            exact Nat.le_add_left _ _
      · have e : escapes [c] + escapes v = escapes (c :: v) := by
          rw [escapes_cons hc, escapes_cons hc, escapes, Nat.zero_add]
        exact Nat.le_of_eq e
  | c :: d :: u => by
      by_cases hc : c = '\\'
      · subst hc
        have := le_escapes_append hv u
        simp only [List.cons_append, escapes]
        omega
      · rw [List.cons_append, escapes_cons hc, escapes_cons hc]
        exact le_escapes_append hv (d :: u)

/-- The weight of a text as the number of such escapes where it is printed as it is. -/
def escaping : Weights where
  name := escapes
  word _ := 0
  phrase _ := 0
  regex := escapes
  bound := escapes
  name_implicit := by decide

theorem ne_backslash_of_isBlank {c : Char} (h : isBlank c = true) : c ≠ '\\' := by
  rintro rfl
  revert h
  decide

theorem ne_backslash_of_isDigit {c : Char} (h : isDigit c = true) : c ≠ '\\' := by
  rintro rfl
  revert h
  decide

theorem ne_backslash_of_isFieldName {n : List Char} (h : isFieldName n = true) :
    ∀ c ∈ n, c ≠ '\\' := by
  rintro c hc rfl
  have := (isNameChar_of_isFieldName h).2 _ hc
  revert this
  decide

/-- **Only the escapes of words and phrases are lost.** -/
theorem escapes_lexeme {k : Kind} {s l r : List Char} (h : k.split s = some (l, r)) :
    gain escaping k l + escapes r + (if k = .word then escapes l else 0) ≤ escapes s := by
  obtain ⟨-, e⟩ := Kind.split_splits h
  obtain rfl : l ++ r = s := e
  have hlex : Lexical k l := lexical_of_split h
  have plain (hg : gain escaping k l = 0) (hk : k ≠ .word) (hl : ∀ c ∈ l, c ≠ '\\') :
      gain escaping k l + escapes r + (if k = .word then escapes l else 0) ≤ escapes (l ++ r) := by
    rw [hg, if_neg hk, escapes_append_plain hl]
    omega
  have bare (hk : k.isBare = true) :
      gain escaping k l + escapes r + (if k = .word then escapes l else 0) ≤ escapes (l ++ r) := by
    refine plain (gain_of_isBare hk _ l) ?_ (hlex.bare hk (fun _ => ne_backslash_of_isDigit)
      (List.all_iff_forall_prop.mp (by decide)))
    rintro rfl
    cases hk
  have around (a b : Char) (ha : a ≠ '\\') (hb : b ≠ '\\') {p : Char → Bool} {u : List Char}
      (hu : Escaped p u) : escapes (a :: u ++ [b] ++ r) = escapes u + escapes r := by
    rw [List.append_assoc, List.cons_append, escapes_cons ha, escapes_append hu,
      List.singleton_append, escapes_cons hb]
  cases hlex with
  | operator hk hl =>
      have none : ∀ c ∈ "ANDORT&|".toList, c ≠ '\\' := List.all_iff_forall_prop.mp (by decide)
      refine plain ?_ ?_ fun c hc => (hl c hc).elim ne_backslash_of_isBlank (none c)
      · cases k <;> first | rfl | cases hk
      · rintro rfl
        cases hk
  | fieldName hn hb =>
      have name := ne_backslash_of_isFieldName hn
      refine plain ?_ (by decide) fun c hc => ?_
      · rw [gain, nameOfLexeme_blanks hn hb]
        exact escapes_eq_zero name
      · simp only [List.mem_append, List.mem_singleton] at hc
        rcases hc with (hc | hc) | rfl
        · exact name c hc
        · exact ne_backslash_of_isBlank (hb c hc)
        · decide
  | word hne hw =>
      rw [if_pos rfl, escapes_append hw]
      simp only [gain, escaping]
      omega
  | phrase hu =>
      rw [around '"' '"' (by decide) (by decide) hu]
      simp only [gain, escaping, reduceCtorEq, if_false]
      omega
  | regex hne hu =>
      rw [around '/' '/' (by decide) (by decide) hu, gain, inside_between]
      exact Nat.le_refl _
  | bound hne hb =>
      refine le_escapes_append (fun c hc => ?_) l
      rintro rfl
      exact absurd (head_of_splitBound h _ hc) (by decide)
  | boost | fuzzy | fuzzyNumber | rangeTo | mark => exact bare rfl
  | bracket hk _ => exact bare (Kind.isBare_of_bracket hk)

/-! ### Texts without such escapes -/

/-- The part of a word that no veiled character of which is escaped. -/
theorem isLegible_unescape {l : List Char} (h : Escaped isWordChar l) (he : escapes l = 0) :
    ∀ c ∈ unescape l, isLegible c = true := by
  have blanks : ∀ c ∈ wordSpecials, isBlank c = true → c ≠ '\n' → isLegible c = true :=
    List.all_iff_forall_prop.mp (by decide)
  induction h with
  | nil => exact nofun
  | @plain c s hc hp _ ih =>
      rw [escapes_cons hc] at he
      rw [unescape_cons hc]
      intro d hd
      rcases List.mem_cons.mp hd with rfl | hd
      · rw [isWordChar, Bool.and_eq_true] at hp
        rw [isLegible, hp.1]
        rfl
      · exact ih he d hd
  | @pair c s hc _ ih =>
      rw [escapes] at he
      have hv : isVeiled c = false := by
        rw [← Bool.not_eq_true]
        intro hv
        rw [if_pos hv] at he
        omega
      intro d hd
      rcases List.mem_cons.mp hd with rfl | hd
      · cases hb : isBlank d with
        | false => rw [isLegible, hb]; rfl
        | true =>
            simp only [isVeiled, hb, Bool.true_and, Bool.or_eq_false_iff, Bool.not_eq_false'] at hv
            exact blanks d (List.contains_iff_mem.mp hv.2) hb hc
      · exact ih (by omega) d hd

/-- An operator in symbols that begins a text without veiled escapes stands there unescaped. -/
theorem isPrefixOf_of_unescape {p : Char → Bool} {l : List Char} {a : Char} (h : Escaped p l)
    (he : escapes l = 0) (ha : isVeiled a = true)
    (hp : [a, a].isPrefixOf (unescape l) = true) : [a, a].isPrefixOf l = true := by
  -- an escaped `a` would be a veiled escape
  have first {l r : List Char} (h : Escaped p l) (he : escapes l = 0) (hr : unescape l = a :: r) :
      ∃ s, l = a :: s ∧ Escaped p s ∧ escapes s = 0 ∧ unescape s = r := by
    cases h with
    | nil => cases hr
    | @plain c s hc _ hs =>
        rw [unescape_cons hc] at hr
        cases hr
        exact ⟨s, rfl, hs, by rwa [escapes_cons hc] at he, rfl⟩
    | @pair c s _ hs =>
        rw [unescape] at hr
        cases hr
        rw [escapes, ha] at he
        simp at he
  obtain ⟨r, hr⟩ := List.isPrefixOf_iff_prefix.mp hp
  obtain ⟨s, rfl, hs, hes, hus⟩ := first h he hr.symm
  obtain ⟨t, rfl, -⟩ := first hs hes hus
  simp

/-! ### Steps -/

/-- The occurrences of a character in what has been read and in what is still to be read. -/
def occurrences (c : Char) (hc : c ∈ traced) (r : Reader) (s : List Char) : Nat :=
  r.weight (counting c hc) + s.count c

variable {r r' : Reader} {s s' l rest : List Char} {k : Kind}

/-- What a lexeme takes from the text is in what has been read, the characters of operators apart.
-/
theorem count_take {c : Char} (hc : c ∈ traced) (hl : k.split s = some (l, rest))
    (hr : r.Does k l r') :
    occurrences c hc r' rest + (if (operator? k).isSome then l.count c else 0) =
      occurrences c hc r s := by
  have hlex : Lexical k l := lexical_of_split hl
  have e := count_lexeme hc hlex
  obtain rfl : l ++ rest = s := (Kind.split_splits hl).2
  rw [occurrences, occurrences, Reader.weight_of_does _ hr, List.count_append]
  omega

/-- No operator is written with the letter of exponents. -/
theorem count_operator (h : Lexical k l) (hk : (operator? k).isSome) : l.count 'e' = 0 := by
  cases h with
  | operator _ hl =>
      refine List.count_eq_zero.mpr fun he => ?_
      rcases hl _ he with h | h <;> revert h <;> decide
  | bracket hk' _ =>
      have := Kind.isBare_of_operator hk
      rw [Kind.isBare_of_bracket hk'] at this
      cases this
  | _ => cases hk

/-- **The letter of exponents is never lost.** -/
theorem count_step (h : Step r s r' s') :
    occurrences 'e' exponent_traced r' s' = occurrences 'e' exponent_traced r s := by
  cases h with
  | @skip c s hc =>
      have : 'e' ≠ c := by
        rintro rfl
        revert hc
        decide
      rw [occurrences, occurrences, List.count_cons_of_ne this.symm]
  | @take _ c s l rest k hc hl hr =>
      obtain ⟨-, hl⟩ := mem_of_firstLexeme? hl
      rw [← count_take exponent_traced hl (Reader.does_of_step hr)]
      split
      · next hk =>
        rw [count_operator (lexical_of_split hl) hk, Nat.add_zero]
      · rw [Nat.add_zero]

theorem count_steps (h : Steps r s r' s') :
    occurrences 'e' exponent_traced r' s' = occurrences 'e' exponent_traced r s :=
  h.invariant (P := fun r' s' => occurrences 'e' _ r' s' = occurrences 'e' _ r s)
    (fun h e => (count_step h).trans e) rfl

/-- What printing and reading cannot both keep. -/
def potential (r : Reader) (s : List Char) : Nat :=
  occurrences '&' ampersand_traced r s + occurrences '|' bar_traced r s +
    (r.weight escaping + escapes s)

/-- What a lexeme takes from it: an operator in symbols all its characters, a word its escapes. -/
def cost (k : Kind) (l : List Char) : Nat :=
  (if (operator? k).isSome then l.count '&' + l.count '|' else 0) +
    (if k = .word then escapes l else 0)

/-- A lexeme lowers the potential by what it costs. -/
theorem potential_take (hl : k.split s = some (l, rest)) (hr : r.Does k l r') :
    potential r' rest + cost k l ≤ potential r s := by
  have h₁ := count_take ampersand_traced hl hr
  have h₂ := count_take bar_traced hl hr
  have h₃ := escapes_lexeme hl
  rw [potential, potential, cost, Reader.weight_of_does escaping hr]
  split
  · next hk =>
    rw [if_pos hk] at h₁ h₂
    omega
  · next hk =>
    rw [if_neg hk] at h₁ h₂
    omega

/-- **No step raises the potential.** -/
theorem potential_step (h : Step r s r' s') : potential r' s' ≤ potential r s := by
  cases h with
  | @skip c s hc =>
      have ne : c ≠ '&' ∧ c ≠ '|' ∧ c ≠ '\\' := by
        refine ⟨?_, ?_, ?_⟩ <;> rintro rfl <;> revert hc <;> decide
      have e : potential r (c :: s') = potential r s' := by
        rw [potential, potential, occurrences, occurrences, occurrences, occurrences,
          List.count_cons_of_ne ne.1, List.count_cons_of_ne ne.2.1, escapes_cons ne.2.2]
      exact Nat.le_of_eq e.symm
  | take hc hl hr =>
      obtain ⟨-, hl⟩ := mem_of_firstLexeme? hl
      exact Nat.le_of_add_right_le (potential_take hl (Reader.does_of_step hr))

/-- No run raises it. -/
theorem potential_steps (h : Steps r s r' s') : potential r' s' ≤ potential r s :=
  h.invariant (P := fun r' s' => potential r' s' ≤ potential r s)
    (fun h e => Nat.le_trans (potential_step h) e) (Nat.le_refl _)

end SearchFilters.Query
