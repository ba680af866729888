import SearchFilters.Proofs.Number.Integers
import SearchFilters.Proofs.Number.Modifier
import SearchFilters.Proofs.Query.Faithful

/-!
# Proofs — Query — Rereading

What the conditions on numbers mean that trees must meet to be read back.

Trees that read back (`Tree.parse_print`) have boosts and similarities that reread and proximities
that do, and those that printing keeps (`parse_printQuery_iff`) have numbers that are written
without an exponent.  These conditions speak of the texts of numbers: some text is written, and it
is read as the number.  Here they are told of the numbers themselves, so that a hypothesis of the
two can be checked without writing anything.

* `Number.positional_iff`: a finite number is written without an exponent unless it is tiny.
* `Number.rereads_iff`: boosts and similarities reread exactly if they are finite floating-point
  values without a sign and not tiny.
* `proximityRereads_iff`: proximities do if they are not negative and a floating-point value has
  their size.
* `Number.Written.positional_iff`: for numbers that were read the two conditions are the same.
-/

namespace SearchFilters
open Binary64

/-! ### Boosts and similarities -/

/-- **A finite value without a sign** is written without an exponent exactly if it is not tiny. -/
theorem Number.positional_iff {m : Nat} {q : Int} (hc : Canonical m q) :
    (Number.float (.finite false m q)).Positional ↔ ¬(Binary64.finite false m q).Tiny := by
  obtain ⟨l, hl⟩ := (Writable.float false hc).exists_text
  rw [← exponent_mem_modifierText_iff hc hl]
  constructor
  · rintro ⟨w, hw, he⟩
    cases hl.symm.trans hw
    exact he
  · exact fun he => ⟨l, hl, he⟩

/-- **A boost or a similarity reads back** exactly if it is a finite value without a sign that is not
tiny. -/
theorem Number.rereads_iff {x : Number} :
    x.Rereads ↔ ∃ m q, x = .float (.finite false m q) ∧ Canonical m q ∧
      ¬(Binary64.finite false m q).Tiny := by
  constructor
  · rintro ⟨l, y, hl, hy, rfl⟩
    cases y with
    | nan | infinite n => cases hl
    | finite n m q =>
        obtain ⟨hc, rfl⟩ := canonical_of_ofPlain? hy
        exact ⟨m, q, rfl, hc, (ofPlain?_modifierText_iff hc hl).mp ⟨_, hy⟩⟩
  · rintro ⟨m, q, rfl, hc, ht⟩
    obtain ⟨l, hl, he⟩ := (positional_iff hc).mpr ht
    exact ⟨l, _, hl, modifierText_reads hc hl he, rfl⟩

/-- **A number that was read** is written without an exponent exactly if it reads back. -/
theorem Number.Written.positional_iff {x : Number} (h : x.Written) : x.Positional ↔ x.Rereads := by
  refine ⟨Tree.rereads_of_positional h, fun hx => ?_⟩
  obtain ⟨m, q, rfl, hc, ht⟩ := rereads_iff.mp hx
  exact (Number.positional_iff hc).mpr ht

/-! ### Proximities -/

/-- The whole part of a value has a value of its size. -/
theorem representable_truncate {m : Nat} {q : Int} (hc : Canonical m q) :
    0 ≤ truncate false m q ∧ Representable (truncate false m q) := by
  obtain ⟨n, m', q', hn, hc', e⟩ := exists_canonical_truncate hc
  rw [hn]
  exact ⟨Int.natCast_nonneg n, representable_of_eq hc' e.symm⟩

/-- **A proximity reads back** exactly if it is not negative and has a value of its size. -/
theorem proximityRereads_iff {i : Int} : ProximityRereads i ↔ 0 ≤ i ∧ Representable i := by
  constructor
  · rintro ⟨l, n, m, q, -, hr, rfl⟩
    obtain ⟨hc, rfl⟩ := canonical_of_ofPlain? hr
    exact representable_truncate hc
  · rintro ⟨hi, hr⟩
    obtain ⟨n, rfl⟩ := Int.eq_ofNat_of_zero_le hi
    obtain ⟨m, q, hc, e⟩ := hr.exists_canonical
    have read := Query.Position.proximityRereads_truncate (ofPlain?_ofNat hc e.symm)
    rwa [truncate_of_eq e.symm false] at read

end SearchFilters
