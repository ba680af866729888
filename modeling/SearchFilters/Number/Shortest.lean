import SearchFilters.Number.Binary64
import SearchFilters.Number.Numeral

/-!
# Number — Shortest

The text of a floating-point value: the fewest digits that read back to it, and of those the
nearest.  Texts are positional from `0.0001` up to `10 ^ 16` and have a signed exponent of at least
two digits otherwise.
-/

namespace SearchFilters.Binary64

/-- A decimal `digits · 10 ^ exponent`. -/
structure Decimal where
  digits : Nat
  exponent : Int
  deriving Repr, DecidableEq

/-- Compares `a · 10 ^ i` with `n · 2 ^ j`. -/
def compareScaled (a : Nat) (i : Int) (n : Nat) (j : Int) : Ordering :=
  compare (a * pow10 i.toNat * pow2 (-j).toNat) (n * pow2 j.toNat * pow10 (-i).toNat)

/-- Whether a decimal lies among the reals nearest to `m · 2 ^ q`: from halfway to the neighbour
below up to halfway to the one above, ends included for an even significand.  Below a power of two
the neighbour is half as far. -/
def readsBack (m : Nat) (q : Int) (d : Decimal) : Bool :=
  -- in quarters of the last place, so that halfway points are whole numbers
  let low := if m = significandBound / 2 ∧ minExponent < q then 4 * m - 1 else 4 * m - 2
  let cl := compareScaled d.digits d.exponent low (q - 2)
  let ch := compareScaled d.digits d.exponent (4 * m + 2) (q - 2)
  let ends := m % 2 == 0
  (cl == .gt || (ends && cl == .eq)) && (ch == .lt || (ends && ch == .eq))

/-- The least `k` with `m · 2 ^ q < 10 ^ k`, for a positive `m`. -/
def magnitude (m : Nat) (q : Int) : Int :=
  let k := (((m.log2 : Int) + q) * 30103) / 100000
  if compareScaled 1 k m q == .gt then k
  else if compareScaled 1 (k + 1) m q == .gt then k + 1
  else k + 2

/-- `m · 2 ^ q / 10 ^ g` without its fraction. -/
def onGrid (m : Nat) (q g : Int) : Nat :=
  (m * pow2 q.toNat * pow10 (-g).toNat) / (pow2 (-q).toNat * pow10 g.toNat)

/-- The nearest point of a decimal grid that reads back, a tie to the even digit. -/
def nearestOnGrid? (m : Nat) (q g : Int) : Option Decimal :=
  let low : Decimal := ⟨onGrid m q g, g⟩
  let high : Decimal := ⟨low.digits + 1, g⟩
  match decide (0 < low.digits) && readsBack m q low, readsBack m q high with
  | true, true =>
    match compareScaled (low.digits + high.digits) g (2 * m) q with
    | .gt => some low
    | .lt => some high
    | .eq => some (if low.digits % 2 = 0 then low else high)
  | true, false => some low
  | false, true => some high
  | false, false => none

/-- The shortest decimal that reads back to a positive value, nearest among those as short. -/
def shortest (m : Nat) (q : Int) : Decimal :=
  let k := magnitude m q
  ((List.range 17).findSome? fun (n : Nat) => nearestOnGrid? m q (k - (n + 1))).getD
    ⟨m * pow2 q.toNat * Nat.pow 5 (-q).toNat, if q < 0 then q else 0⟩

/-- A row of digits without the zeros at its end. -/
def dropZeros (ds : List Char) : List Char := (ds.reverse.dropWhile (· == '0')).reverse

/-- A signed exponent of at least two digits. -/
def exponentText (e : Int) : List Char :=
  let ds := Numeral.ofNat e.natAbs
  'e' :: (if e < 0 then '-' else '+') :: (if ds.length < 2 then '0' :: ds else ds)

/-- The digits of a decimal whose point stands after the first `point` of them. -/
def layOut (ds : List Char) (point : Int) : List Char :=
  if point < -3 ∨ 16 < point then
    match ds with
    | [] => []
    | [d] => d :: exponentText (point - 1)
    | d :: r => d :: '.' :: r ++ exponentText (point - 1)
  else if point ≤ 0 then
    '0' :: '.' :: List.replicate (-point).toNat '0' ++ ds
  else if ds.length ≤ point.toNat then
    ds ++ List.replicate (point.toNat - ds.length) '0' ++ ['.', '0']
  else ds.take point.toNat ++ '.' :: ds.drop point.toNat

/-- The text of a finite value without its sign. -/
def magnitudeText (m : Nat) (q : Int) : List Char :=
  if m = 0 then ['0', '.', '0']
  else
    let d := shortest m q
    let ds := Numeral.ofNat d.digits
    layOut (dropZeros ds) (ds.length + d.exponent)

/-- The text of a value. -/
def text : Binary64 → List Char
  | .nan => "nan".toList
  | .infinite false => "inf".toList
  | .infinite true => "-inf".toList
  | .finite false m q => magnitudeText m q
  | .finite true m q => '-' :: magnitudeText m q

end SearchFilters.Binary64
