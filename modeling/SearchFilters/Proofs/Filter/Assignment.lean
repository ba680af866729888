import SearchFilters.Field.Format
import SearchFilters.Filter.Assignment
import SearchFilters.Proofs.Config.Reloading
import SearchFilters.Proofs.Number.Signed
import SearchFilters.Proofs.Text.Classes

/-!
# Proofs — Filter — Assignment

The texts of values in assignments are read as these values.

Reading takes a text apart at the first two dots or at every comma, and what it keeps between commas
is trimmed and not empty: an `IsKey`.  Splitting what is joined gives the parts back as long as no
part holds the separator, which numerals never do and keys by definition do not (`Value.read_format`).
The other way round, every value that is read consists of keys, whatever the text (`Value.kept_of_read`);
so values of keys are all that their texts can be read as, and every text that is read has a second
one, that of its value, which is read alike.

* `Value.formatAs_eq`: the text of a datum that is accepted is that of its value.
* `Field.read_formatAs`: the values that are read out of their texts, and out of any text.
* `Field.not_read_same_list`: a list that is accepted is read again as a pair.
-/

namespace SearchFilters
open Text

/-! ### Keys between commas -/

/-- **A text that can stand between commas**: it is not empty, has no commas, and no blank begins or
ends it. -/
structure IsKey (s : List Char) : Prop where
  ne : s ≠ []
  comma : ',' ∉ s
  head : ∀ c ∈ s.head?, isBlank c = false
  last : ∀ c ∈ s.getLast?, isBlank c = false

/-- The texts between commas, but for blanks at their ends and empty ones. -/
def keysOf (s : List Char) : List (List Char) :=
  ((splitAll ',' s).map trim).filter fun item => !item.isEmpty

/-- What is kept between commas is a key. -/
theorem isKey_of_mem_keysOf {s p : List Char} (h : p ∈ keysOf s) : IsKey p := by
  obtain ⟨h, hne⟩ := List.mem_filter.mp h
  obtain ⟨q, hq, rfl⟩ := List.mem_map.mp h
  refine ⟨by simpa using hne, fun hc => ?_, head?_trim q, getLast?_trim q⟩
  obtain ⟨a, b, e, -, -⟩ := trim_append q
  have : ',' ∈ q := by
    rw [← e]
    exact List.mem_append_left _ (List.mem_append_right _ hc)
  exact not_mem_of_mem_splitAll hq this

/-- **Keys that are joined by commas are found again.** -/
theorem keysOf_intercalate {keys : List (List Char)} (h : ∀ p ∈ keys, IsKey p) :
    keysOf ([','].intercalate keys) = keys := by
  by_cases hne : keys = []
  · subst hne
    rfl
  · have trimmed : keys.map trim = keys := by
      rw [List.map_congr_left fun p hp => trim_eq_self (h p hp).head (h p hp).last, List.map_id']
    rw [keysOf, splitAll_intercalate (fun p hp => (h p hp).comma) hne, trimmed, List.filter_eq_self]
    exact fun p hp => by simpa using (h p hp).ne

/-! ### Values and their texts -/

namespace Value

/-- A value whose numbers have texts that read back: integers within the digit limit, and
floating-point numbers. -/
def NumbersReadBack : Value → Prop
  | integer i             => Numeral.Short i
  | float x               => x.ReadsBack
  | integerRange low high => Numeral.Short low ∧ Numeral.Short high
  | floatRange low high   => low.ReadsBack ∧ high.ReadsBack
  | _                     => True

/-- An enum value of keys that can stand between commas, or a value of another type. -/
def Keyed : Value → Prop
  | enum items => ∀ item ∈ items, IsKey item.toList
  | _          => True

theorem readInteger_ofInt {i : Int} (h : Numeral.Short i) :
    readInteger (Numeral.ofInt i) = .ok (some i) := by
  rw [readInteger, Numeral.read_ofInt h]
  rfl

/-- No two points stand in a numeral, nor does it end in one, so that the separator behind it is the
first. -/
theorem not_infix_ofInt (i : Int) : ¬['.', '.'] <:+: Numeral.ofInt i ++ ['.'] := by
  have point : '.' ∉ Numeral.ofInt i := by
    intro h
    rcases Numeral.ofInt_chars i _ h with h | h
    · exact h.ne.2.2.1 rfl
    · exact absurd h (by decide)
  rw [infix_pair_append_iff point]
  decide

/-- A number whose text reads back is a floating-point value. -/
theorem text_of_readsBack {x : Number} (h : x.ReadsBack) :
    ∃ b : Binary64, x = .float b ∧ Binary64.read b.text = some b := by
  cases x with
  | int i => exact h.elim
  | float b => exact ⟨b, rfl, h⟩

/-- **The text of a value of keys is read as the value.** -/
theorem read_format {v : Value} (hn : v.NumbersReadBack) (hk : v.Keyed) :
    ∃ s, v.format = .ok s ∧ read v.type s = .ok (some v) := by
  cases v with
  | string s => exact ⟨_, rfl, by rw [type, read, String.ofList_toList]⟩
  | integer i =>
      refine ⟨_, Numeral.write_of_short hn, ?_⟩
      rw [type, read, readInteger_ofInt hn]
      rfl
  | float x =>
      obtain ⟨b, rfl, hb⟩ := text_of_readsBack hn
      refine ⟨_, rfl, ?_⟩
      rw [type, read, hb]
      rfl
  | boolean b => cases b <;> exact ⟨_, rfl, rfl⟩
  | integerRange low high =>
      refine ⟨Numeral.ofInt low ++ rangeSeparator ++ Numeral.ofInt high, ?_, ?_⟩
      · rw [format, Numeral.write_of_short hn.1, Numeral.write_of_short hn.2]
        rfl
      · rw [type, read, rangeSeparator, cut?_pair (not_infix_ofInt low)]
        simp only [readInteger_ofInt hn.1, readInteger_ofInt hn.2]
        rfl
  | floatRange low high =>
      obtain ⟨a, rfl, ha⟩ := text_of_readsBack hn.1
      obtain ⟨b, rfl, hb⟩ := text_of_readsBack hn.2
      refine ⟨a.text ++ rangeSeparator ++ b.text, rfl, ?_⟩
      rw [type, read, rangeSeparator, cut?_pair (Binary64.not_infix_text ha)]
      simp only [ha, hb]
      rfl
  | enum items =>
      refine ⟨_, rfl, ?_⟩
      have keys : ∀ p ∈ items.map String.toList, IsKey p := by
        intro p hp
        obtain ⟨item, hi, rfl⟩ := List.mem_map.mp hp
        exact hk item hi
      have found := keysOf_intercalate keys
      rw [keysOf] at found
      rw [type, read, found, List.map_map]
      simp

theorem short_of_readInteger {s : List Char} {i : Int} (h : readInteger s = .ok (some i)) :
    Numeral.Short i :=
  Numeral.short_of_read (mapError_eq_ok_iff.mp h)

/-- A floating-point value that is read is finite and has a text that reads back. -/
theorem readsBack_of_read {s : List Char} {x : Binary64} (h : Binary64.read s = some x) :
    (Number.float x).ReadsBack ∧ (Datum.number (.float x)).finite? = some (.float x) := by
  refine ⟨Binary64.read_text_of_read h, if_pos ?_⟩
  exact (Option.filter_eq_some_iff.mp h).2

/-- **A value that is read** is accepted as it is and consists of keys, and its numbers have texts
that read back. -/
theorem kept_of_read {t : FieldType} {s : List Char} {v : Value} (h : read t s = .ok (some v)) :
    ofDatum? t v.toDatum = some v ∧ v.NumbersReadBack ∧ v.Keyed := by
  cases t with
  | string =>
      cases h
      exact ⟨rfl, trivial, trivial⟩
  | integer =>
      obtain ⟨i?, hi, h⟩ := bind_eq_ok_iff.mp h
      obtain ⟨i, rfl, rfl⟩ := Option.map_eq_some_iff.mp (Except.ok.inj h)
      exact ⟨rfl, short_of_readInteger hi, trivial⟩
  | float =>
      obtain ⟨x, hx, rfl⟩ := Option.map_eq_some_iff.mp (Except.ok.inj h)
      obtain ⟨hr, hf⟩ := readsBack_of_read hx
      exact ⟨by rw [toDatum, ofDatum?, hf]; rfl, hr, trivial⟩
  | boolean =>
      have h := Except.ok.inj h
      split at h
      · cases h
        exact ⟨rfl, trivial, trivial⟩
      · split at h
        · cases h
          exact ⟨rfl, trivial, trivial⟩
        · cases h
  | integerRange =>
      rw [read] at h
      split at h
      · cases h
      · next l r _ =>
        obtain ⟨low?, hl, h⟩ := bind_eq_ok_iff.mp h
        obtain ⟨high?, hh, h⟩ := bind_eq_ok_iff.mp h
        obtain ⟨low, hlow, h'⟩ := Option.bind_eq_some_iff.mp (Except.ok.inj h)
        obtain ⟨high, hhigh, h'⟩ := Option.bind_eq_some_iff.mp h'
        cases hlow
        cases hhigh
        cases h'
        exact ⟨rfl, ⟨short_of_readInteger hl, short_of_readInteger hh⟩, trivial⟩
  | floatRange =>
      rw [read] at h
      split at h
      · cases h
      · next l r _ =>
        obtain ⟨low, hl, h⟩ := Option.bind_eq_some_iff.mp (Except.ok.inj h)
        obtain ⟨high, hh, h⟩ := Option.bind_eq_some_iff.mp h
        cases h
        obtain ⟨hrl, hfl⟩ := readsBack_of_read hl
        obtain ⟨hrh, hfh⟩ := readsBack_of_read hh
        refine ⟨?_, ⟨hrl, hrh⟩, trivial⟩
        simp only [toDatum, ofDatum?, pair?, Datum.items?, Option.bind_eq_bind, Option.bind_some,
          hfl, hfh, Option.pure_def]
  | enum =>
      cases h
      refine ⟨?_, trivial, fun item hi => ?_⟩
      · simp only [toDatum, ofDatum?, Datum.items?, Option.bind_eq_bind, Option.bind_some,
          mapM_string?, Option.pure_def]
      · obtain ⟨p, hp, rfl⟩ := List.mem_map.mp hi
        rw [String.toList_ofList]
        exact isKey_of_mem_keysOf hp

end Value

/-! ### Data that are accepted -/

namespace Datum

theorem eq_of_string? {d : Datum} {s : String} (h : d.string? = some s) : d = .string s := by
  unfold string? at h
  split at h
  · cases h
    rfl
  · cases h

theorem eq_of_int? {d : Datum} {i : Int} (h : d.int? = some i) : d = .int i := by
  unfold int? at h
  split at h
  · cases h
    rfl
  · cases h

theorem eq_of_finite? {d : Datum} {x : Number} (h : d.finite? = some x) : d = .number x := by
  unfold finite? at h
  split at h
  · split at h
    · cases h
      rfl
    · cases h
  · cases h

theorem parts?_of_items? {d : Datum} {xs : List Datum} (h : d.items? = some xs) :
    d.parts? = some xs := by
  unfold items? at h
  split at h
  · exact h
  · exact h
  · cases h

theorem parts?_of_pair? {d a b : Datum} (h : Value.pair? d = some (a, b)) :
    d.parts? = some [a, b] := by
  unfold Value.pair? at h
  split at h
  · next hi =>
    cases h
    exact parts?_of_items? hi
  · cases h

end Datum

namespace Value

/-- The text of two numbers as a range. -/
theorem formatAs_pair {t : FieldType} (ht : t.isRange = true) {d : Datum} {a b : Number}
    (hp : pair? d = some (.number a, .number b)) :
    d.formatAs t = Except.mapError FormatError.number (do
      pure ((← a.text) ++ rangeSeparator ++ (← b.text))) := by
  have scalar (x : Number) : (Datum.number x).scalarText = x.text := rfl
  rw [Datum.formatAs, if_pos ht, Datum.parts?_of_pair? hp]
  simp only [scalar]
  cases a.text <;> cases b.text <;> rfl

/-- **The text of a datum that is accepted** is that of its value. -/
theorem formatAs_eq {t : FieldType} {d : Datum} {v : Value} (h : ofDatum? t d = some v) :
    d.formatAs t = v.format.mapError FormatError.number := by
  cases t with
  | string =>
      obtain ⟨s, hs, rfl⟩ := Option.map_eq_some_iff.mp h
      cases Datum.eq_of_string? hs
      rfl
  | integer =>
      obtain ⟨i, hi, rfl⟩ := Option.map_eq_some_iff.mp h
      cases Datum.eq_of_int? hi
      rfl
  | float =>
      obtain ⟨x, hx, rfl⟩ := Option.map_eq_some_iff.mp h
      cases Datum.eq_of_finite? hx
      rfl
  | boolean =>
      cases d with
      | bool b =>
          cases h
          rfl
      | _ => cases h
  | integerRange =>
      obtain ⟨⟨a, b⟩, hp, h⟩ := Option.bind_eq_some_iff.mp h
      obtain ⟨low, hl, h⟩ := Option.bind_eq_some_iff.mp h
      obtain ⟨high, hh, h⟩ := Option.bind_eq_some_iff.mp h
      cases h
      cases Datum.eq_of_int? hl
      cases Datum.eq_of_int? hh
      exact formatAs_pair rfl hp
  | floatRange =>
      obtain ⟨⟨a, b⟩, hp, h⟩ := Option.bind_eq_some_iff.mp h
      obtain ⟨low, hl, h⟩ := Option.bind_eq_some_iff.mp h
      obtain ⟨high, hh, h⟩ := Option.bind_eq_some_iff.mp h
      cases h
      cases Datum.eq_of_finite? hl
      cases Datum.eq_of_finite? hh
      exact formatAs_pair rfl hp
  | enum =>
      obtain ⟨xs, hx, h⟩ := Option.bind_eq_some_iff.mp h
      obtain ⟨items, hi, h⟩ := Option.bind_eq_some_iff.mp h
      cases h
      have range : ¬FieldType.enum.isRange = true := Bool.false_ne_true
      rw [Datum.formatAs, if_neg range, if_pos rfl, Datum.parts?_of_items? hx]
      simp only [hi]
      rfl

end Value

/-- **Which values their texts are read as**, and which values are read: of the values that a field
accepts, whose numbers have texts that read back, exactly those of keys are read again out of their
texts, and every value that is read out of a text is one of these. -/
theorem Field.read_formatAs (f : Field) :
    (∀ d v, Value.ofDatum? f.type d = some v → v.NumbersReadBack →
      ((∃ s, d.formatAs f.type = .ok s ∧ Value.read f.type s = .ok (some v)) ↔ v.Keyed)) ∧
    ∀ s v, Value.read f.type s = .ok (some v) →
      Value.ofDatum? f.type v.toDatum = some v ∧ v.NumbersReadBack ∧ v.Keyed ∧
        ∃ s', v.toDatum.formatAs f.type = .ok s' ∧ Value.read f.type s' = .ok (some v) := by
  have texts {d : Datum} {v : Value} (hd : Value.ofDatum? f.type d = some v)
      (hn : v.NumbersReadBack) (hk : v.Keyed) :
      ∃ s, d.formatAs f.type = .ok s ∧ Value.read f.type s = .ok (some v) := by
    obtain ⟨s, hs, hr⟩ := Value.read_format hn hk
    rw [Value.type_of_ofDatum? hd] at hr
    exact ⟨s, by rw [Value.formatAs_eq hd, hs]; rfl, hr⟩
  refine ⟨fun d v hd hn => ⟨?_, texts hd hn⟩, fun s v h => ?_⟩
  · rintro ⟨s, -, hs⟩
    exact (Value.kept_of_read hs).2.2
  · obtain ⟨hd, hn, hk⟩ := Value.kept_of_read h
    exact ⟨hd, hn, hk, texts hd hn hk⟩

/-- Prices from 1.5e-07 to 1e+22. -/
def Value.widePrices : Value :=
  .floatRange (.float (.ofDecimal false 15 (-8))) (.float (.ofDecimal false 1 22))

/-- The two ways of the field of prices and of the field of colours: a range whose texts have
exponents, a key with a comma, and keys between blanks and commas. -/
theorem Field.read_formatAs_sample :
    (Value.ofDatum? Selection.sampleFields.fields[1].type Value.widePrices.toDatum =
        some Value.widePrices ∧ Value.widePrices.NumbersReadBack ∧
      ∃ s, Value.widePrices.toDatum.formatAs Selection.sampleFields.fields[1].type = .ok s ∧
        Value.read Selection.sampleFields.fields[1].type s = .ok (some Value.widePrices)) ∧
    (Value.ofDatum? Selection.sampleFields.fields[2].type (.list [.string "a,b"]) =
        some (.enum ["a,b"]) ∧
      ¬∃ s, (Datum.list [.string "a,b"]).formatAs Selection.sampleFields.fields[2].type = .ok s ∧
        Value.read Selection.sampleFields.fields[2].type s = .ok (some (.enum ["a,b"]))) ∧
    Value.read Selection.sampleFields.fields[2].type " red ,, dark blue".toList =
        .ok (some (.enum ["red", "dark blue"])) ∧
      (Value.enum ["red", "dark blue"]).Keyed := by
  have accepted : Value.ofDatum? Selection.sampleFields.fields[1].type Value.widePrices.toDatum =
      some Value.widePrices := by decide +kernel
  have numbers : Value.widePrices.NumbersReadBack := by
    rw [Value.widePrices, Value.NumbersReadBack]
    decide +kernel
  have read : Value.read Selection.sampleFields.fields[2].type " red ,, dark blue".toList =
      .ok (some (.enum ["red", "dark blue"])) := by decide +kernel
  refine ⟨⟨accepted, numbers, ?_⟩, ⟨rfl, fun h => ?_⟩, read, ?_⟩
  · exact ((Field.read_formatAs _).1 _ _ accepted numbers).mpr trivial
  · have keyed := ((Field.read_formatAs Selection.sampleFields.fields[2]).1 (.list [.string "a,b"])
      (.enum ["a,b"]) rfl trivial).mp h
    exact (keyed "a,b" List.mem_cons_self).comma (by decide)
  · exact ((Field.read_formatAs _).2 _ _ read).2.2.1

/-- A field of ranges of integers. -/
def Field.spans : Field where
  name := "span"
  displayName := "Span"
  type := .integerRange
  default := .integerRange 0 0
  default_type := rfl

/-- **A datum that is accepted need not be read again as it was**: a list of two integers is accepted
as a range, whose text is read as the pair of them. -/
theorem Field.not_read_same_list :
    ¬∀ (f : Field) (d : Datum) (v : Value), f.type ≠ .enum → Value.ofDatum? f.type d = some v →
      v.NumbersReadBack → ∃ s v', d.formatAs f.type = .ok s ∧
        Value.read f.type s = .ok (some v') ∧ v'.toDatum.same d = true := by
  intro h
  have numbers : (Value.integerRange 1 5).NumbersReadBack := by
    rw [Value.NumbersReadBack]
    decide
  obtain ⟨s, v', hs, hr, same⟩ :=
    h Field.spans (.list [.int 1, .int 5]) (.integerRange 1 5) (by decide) rfl numbers
  have text : (Datum.list [.int 1, .int 5]).formatAs Field.spans.type = .ok "1..5".toList := by rfl
  cases text.symm.trans hs
  have read : Value.read Field.spans.type "1..5".toList = .ok (some (.integerRange 1 5)) := by rfl
  cases read.symm.trans hr
  cases same

end SearchFilters
