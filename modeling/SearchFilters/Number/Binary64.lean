import SearchFilters.Number.Rounding

/-!
# Number — Binary64

Floating-point values of 64 bits in exact form: a finite value is `significand · 2 ^ exponent`
with a sign.  `ofRatio` takes the nearest value, a half to the even neighbour, and overflows to
the infinite.
-/

namespace SearchFilters

def pow2 (n : Nat) : Nat := Nat.pow 2 n

def pow10 (n : Nat) : Nat := Nat.pow 10 n

/-- A floating-point value. -/
inductive Binary64 where
  | nan
  | infinite (negative : Bool)
  | finite (negative : Bool) (significand : Nat) (exponent : Int)
  deriving Repr, DecidableEq, Inhabited

namespace Binary64

/-- The exponent of the least finite values. -/
def minExponent : Int := -1074

/-- The exponent of the greatest finite values. -/
def maxExponent : Int := 971

/-- A finite significand stays below this bound; one at or above half of it is normal. -/
def significandBound : Nat := pow2 53

def zero (negative : Bool) : Binary64 := .finite negative 0 minExponent

def isFinite : Binary64 → Bool
  | .finite .. => true
  | _ => false

/-- The quotient `num / den / 2 ^ e` as two natural numbers. -/
def scaleDown (num den : Nat) (e : Int) : Nat × Nat :=
  if 0 ≤ e then (num, den * pow2 e.toNat) else (num * pow2 (-e).toNat, den)

/-- The exponent at which a positive quotient fills a significand. -/
def fillExponent (num den : Nat) : Int :=
  let e := (num.log2 : Int) - den.log2 - 52
  let (n, d) := scaleDown num den e
  max minExponent (if n < d * pow2 52 then e - 1 else e)

/-- The value nearest to `num / den`, a half to the even neighbour. -/
def ofRatio (negative : Bool) (num den : Nat) : Binary64 :=
  if num = 0 then zero negative
  else
    let e := fillExponent num den
    let (n, d) := scaleDown num den e
    let m := roundDiv n d
    -- rounding up may carry into one more binary place
    let (m, e) := if m = significandBound then (significandBound / 2, e + 1) else (m, e)
    if maxExponent < e then .infinite negative else .finite negative m e

/-- The value nearest to `digits · 10 ^ exponent`.  A power of ten beyond every finite value, or
below half the least one, is decided by its size alone. -/
def ofDecimal (negative : Bool) (digits : Nat) (exponent : Int) : Binary64 :=
  if digits = 0 then zero negative
  else if 309 < exponent then .infinite negative
  else if (digits.log2 : Int) + 3 * exponent < -1080 then zero negative
  else if 0 ≤ exponent then ofRatio negative (digits * pow10 exponent.toNat) 1
  else ofRatio negative digits (pow10 (-exponent).toNat)

/-- The value nearest to an integer. -/
def ofInt (i : Int) : Binary64 := ofRatio (decide (i < 0)) i.natAbs 1

/-- A finite value as an integer multiple of a power of two. -/
def dyadic (negative : Bool) (significand : Nat) : Int :=
  if negative then -(significand : Int) else significand

/-- A finite value without its fraction. -/
def truncate (negative : Bool) (significand : Nat) (exponent : Int) : Int :=
  dyadic negative
    (if 0 ≤ exponent then significand * pow2 exponent.toNat
     else significand / pow2 (-exponent).toNat)

/-- Whether a finite value has no fraction. -/
def isWhole (significand : Nat) (exponent : Int) : Bool :=
  decide (0 ≤ exponent) || decide (significand % pow2 (-exponent).toNat = 0)

end Binary64
end SearchFilters
