import SearchFilters.Number.Shortest

/-!
# Number — Basic

Numbers as fields and modifiers hold them: integers and floating-point values side by side, in one
exact order.
-/

namespace SearchFilters

/-- An integer or a floating-point value; `3` and `3.0` are different numbers of equal size. -/
inductive Number where
  | int (i : Int)
  | float (x : Binary64)
  deriving Repr, DecidableEq, Inhabited

namespace Number

/-- The size of a number: none for the value that is no number, otherwise its infinity (`-1`, `0`
or `1`) and its finite part as a multiple of a power of two. -/
def size? : Number → Option (Int × Int × Int)
  | .int i => some (0, i, 0)
  | .float .nan => none
  | .float (.infinite negative) => some (if negative then -1 else 1, 0, 0)
  | .float (.finite negative m e) => some (0, Binary64.dyadic negative m, e)

/-- Compares `m · 2 ^ e` with `n · 2 ^ f`. -/
def compareDyadic (m e n f : Int) : Ordering :=
  compare (m * pow2 (e - f).toNat) (n * pow2 (f - e).toNat)

/-- Exact comparison; nothing compares with the value that is no number. -/
def compare? (a b : Number) : Option Ordering :=
  match a.size?, b.size? with
  | some (i, m, e), some (j, n, f) =>
    some (if i = j then compareDyadic m e n f else compare i j)
  | _, _ => none

/-- Whether two numbers are of equal size. -/
def same (a b : Number) : Bool := a.compare? b == some .eq

/-- Whether one number exceeds another. -/
def exceeds (a b : Number) : Bool := a.compare? b == some .gt

/-- Whether a number is below zero. -/
def isNegative : Number → Bool
  | .int i => decide (i < 0)
  | .float .nan => false
  | .float (.infinite negative) => negative
  | .float (.finite negative m _) => negative && decide (0 < m)

def isFinite : Number → Bool
  | .int _ => true
  | .float x => x.isFinite

/-- The text of a number, an integer within the digit limit. -/
def text : Number → Except NumberFault (List Char)
  | .int i => Numeral.write i
  | .float x => .ok x.text

/-- The text of a number after a modifier's mark: a whole number is written as an integer. -/
def modifierText : Number → Except NumberFault (List Char)
  | .int i => Numeral.write i
  | .float .nan => .error .notANumber
  | .float (.infinite _) => .error .infinite
  | .float (.finite negative m e) =>
    if Binary64.isWhole m e then Numeral.write (Binary64.truncate negative m e)
    else .ok (Binary64.finite negative m e).text

end Number
end SearchFilters
