import SearchFilters.Text.DecimalDigit

/-!
# Number — Numeral

Integers as decimal numerals.  Numerals are written with the digits 0 to 9 and read with the
decimal digits of every script; neither direction handles more than `digitLimit` digits.
-/

namespace SearchFilters

/-- Why a number cannot be read or written. -/
inductive NumberFault where
  /-- an integer of more than `digitLimit` digits -/
  | tooManyDigits
  /-- the value that is no number -/
  | notANumber
  /-- an infinite value -/
  | infinite
  deriving Repr, DecidableEq

namespace Numeral
open Text

/-- The longest integer numeral that is read or written. -/
def digitLimit : Nat := 4300

/-- The digits of a natural number, most significant first. -/
def ofNat (n : Nat) : List Char := Nat.toDigits 10 n

/-- The digits of an integer after its sign. -/
def ofInt : Int → List Char
  | .ofNat n => ofNat n
  | .negSucc n => '-' :: ofNat (n + 1)

/-- The numeral of an integer within the digit limit. -/
def write (i : Int) : Except NumberFault (List Char) :=
  if (ofNat i.natAbs).length ≤ digitLimit then .ok (ofInt i) else .error .tooManyDigits

/-- The value of a row of digits. -/
def value (ds : List Char) : Nat :=
  ds.foldl (fun n c => 10 * n + (digit? c).getD 0) 0

/-- A leading sign, if there is one, and the rest. -/
def sign : List Char → Bool × List Char
  | '+' :: r => (false, r)
  | '-' :: r => (true, r)
  | s => (false, s)

/-- Whether a text is a row of at least one digit. -/
def isDigits (s : List Char) : Bool := !s.isEmpty && s.all isDigit

/-- Reads an optional sign and a row of digits; any other text is none. -/
def read (s : List Char) : Except NumberFault (Option Int) :=
  let (negative, ds) := sign s
  if !isDigits ds then .ok none
  else if ds.length ≤ digitLimit then
    .ok (some (if negative then -(value ds : Int) else (value ds : Int)))
  else .error .tooManyDigits

end Numeral
end SearchFilters
