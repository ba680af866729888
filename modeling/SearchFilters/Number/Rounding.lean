/-!
# Number — Rounding

Quotients of natural numbers to the nearest natural number, which is never more than half a unit off
(`roundDiv_near`).
-/

namespace SearchFilters

/-- A quotient to the nearest natural number, a half to the even neighbour. -/
def roundDiv (num den : Nat) : Nat :=
  let q := num / den
  let r := num % den
  if 2 * r < den then q else if den < 2 * r then q + 1 else q + q % 2

/-- A rounded quotient is within half a unit, told without fractions. -/
theorem roundDiv_near (num : Nat) {den : Nat} (h : 0 < den) :
    2 * (roundDiv num den * den) ≤ 2 * num + den ∧
      2 * num ≤ 2 * (roundDiv num den * den) + den := by
  have hq := Nat.div_add_mod' num den
  have hr := Nat.mod_lt num h
  unfold roundDiv
  simp only
  split
  · omega
  · split
    · rw [Nat.add_mul]
      omega
    · rcases Nat.mod_two_eq_zero_or_one (num / den) with e | e <;> rw [e, Nat.add_mul] <;> omega

end SearchFilters
