import SearchFilters.Number.Binary64
import SearchFilters.Number.Numeral

/-!
# Number — Reading

Decimal numbers as texts.  A plain decimal has digits with an optional fraction, or a fraction
alone; a signed decimal may also end in a point and carry an exponent.
-/

namespace SearchFilters.Binary64
open Text

/-- The digits a text begins with, and the rest. -/
def spanDigits (s : List Char) : List Char × List Char :=
  (s.takeWhile isDigit, s.dropWhile isDigit)

/-- The value of digits before and after a decimal point. -/
def ofDigits (negative : Bool) (whole fraction : List Char) (exponent : Int) : Binary64 :=
  ofDecimal negative (Numeral.value (whole ++ fraction)) (exponent - fraction.length)

/-- The plain decimal a text begins with, as the digits before and after the point, and the rest.
A point that no digit follows is left in the rest. -/
def spanPlain (s : List Char) : Option ((List Char × List Char) × List Char) :=
  match spanDigits s with
  | (whole, '.' :: r) =>
    match spanDigits r with
    | ([], _) => if whole.isEmpty then none else some ((whole, []), '.' :: r)
    | (fraction, r) => some ((whole, fraction), r)
  | ([], _) => none
  | (whole, r) => some ((whole, []), r)

/-- The value of a plain decimal that makes up a whole text. -/
def ofPlain? (s : List Char) : Option Binary64 :=
  match spanPlain s with
  | some ((whole, fraction), []) => some (ofDigits false whole fraction 0)
  | _ => none

/-- The exponent that makes up the rest of a text; an empty rest is the exponent zero. -/
def exponent? : List Char → Option Int
  | [] => some 0
  | c :: r =>
    let (negative, ds) := Numeral.sign r
    if (c == 'e' || c == 'E') && Numeral.isDigits ds then
      some (if negative then -(Numeral.value ds : Int) else (Numeral.value ds : Int))
    else none

/-- The value of a signed decimal that makes up a whole text. -/
def ofSigned? (s : List Char) : Option Binary64 := do
  let (negative, s) := Numeral.sign s
  let ((whole, fraction), r) ← spanPlain s
  let r := if fraction.isEmpty then (match r with | '.' :: r => r | r => r) else r
  let e ← exponent? r
  pure (ofDigits negative whole fraction e)

/-- The finite value of a signed decimal; a decimal beyond every finite value is no number. -/
def read (s : List Char) : Option Binary64 :=
  (ofSigned? s).filter isFinite

end SearchFilters.Binary64
