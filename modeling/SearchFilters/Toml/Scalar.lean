import SearchFilters.Field.Datum
import SearchFilters.Number.Reading
import SearchFilters.Text.Hex
import SearchFilters.Toml.Text

/-!
# Toml — Scalar

Numbers, dates and times of a configuration document.
-/

namespace SearchFilters.Toml

/-- Whether a character is one of the ten digits. -/
def isDigit (c : Char) : Bool := '0' ≤ c && c ≤ '9'

/-- A row of characters of a class with single underscores between them, underscores left out. -/
def spanRow (p : Char → Bool) : List Char → List Char × List Char
  | '_' :: d :: r =>
    if p d then
      let (l, r) := spanRow p r
      (d :: l, r)
    else ([], '_' :: d :: r)
  | c :: r =>
    if p c then
      let (l, r) := spanRow p r
      (c :: l, r)
    else ([], c :: r)
  | [] => ([], [])

/-- A row that begins with a character of the class. -/
def splitRow (p : Char → Bool) : List Char → Option (List Char × List Char)
  | c :: r =>
    if p c then
      let (l, r) := spanRow p r
      some (c :: l, r)
    else none
  | [] => none

/-! ### Integers and floating-point numbers -/

/-- The value of a row of digits to a base. -/
def rowValue (base : Nat) (ds : List Char) : Nat :=
  ds.foldl (fun n c => base * n + (Text.hexValue? c).getD 0) 0

/-- Whether a character is a digit to a base. -/
def isDigitOf (base : Nat) (c : Char) : Bool :=
  match Text.hexValue? c with
  | some v => v < base
  | none => false

/-- An integer to another base than ten. -/
def splitBased : List Char → Option (Nat × List Char)
  | '0' :: 'x' :: s => (splitRow (isDigitOf 16) s).map fun (ds, r) => (rowValue 16 ds, r)
  | '0' :: 'b' :: s => (splitRow (isDigitOf 2) s).map fun (ds, r) => (rowValue 2 ds, r)
  | '0' :: 'o' :: s => (splitRow (isDigitOf 8) s).map fun (ds, r) => (rowValue 8 ds, r)
  | _ => none

/-- The digits before a decimal point: a single zero, or a row that does not begin with one. -/
def splitWhole : List Char → Option (List Char × List Char)
  | '0' :: r => some (['0'], r)
  | s => splitRow isDigit s

/-- The digits after a decimal point; without a point there are none. -/
def spanFraction (s : List Char) : List Char × List Char :=
  match s with
  | '.' :: r => (splitRow isDigit r).getD ([], s)
  | _ => ([], s)

/-- An exponent with its sign; without one there is none. -/
def spanExponent (s : List Char) : Option Int × List Char :=
  match s with
  | c :: r =>
    if c == 'e' || c == 'E' then
      let (negative, r) := Numeral.sign r
      match splitRow isDigit r with
      | some (ds, r) =>
        let e : Int := Numeral.value ds
        (some (if negative then -e else e), r)
      | none => (none, s)
    else (none, s)
  | [] => (none, [])

/-- A decimal number: an integer without fraction and exponent, a floating-point number with
either. -/
def splitDecimal (s : List Char) : Option (Except NumberFault Number × List Char) := do
  let (negative, r) := Numeral.sign s
  let (whole, r) ← splitWhole r
  let (fraction, r) := spanFraction r
  let (exponent, r) := spanExponent r
  if fraction.isEmpty && exponent.isNone then
    let n : Int := Numeral.value whole
    if whole.length ≤ Numeral.digitLimit then
      pure (.ok (.int (if negative then -n else n)), r)
    else pure (.error .tooManyDigits, r)
  else pure (.ok (.float (Binary64.ofDigits negative whole fraction (exponent.getD 0))), r)

/-- An infinite value or the value that is no number. -/
def splitSpecial (s : List Char) : Option (Binary64 × List Char) :=
  let (negative, r) := Numeral.sign s
  match r with
  | 'i' :: 'n' :: 'f' :: r => some (.infinite negative, r)
  | 'n' :: 'a' :: 'n' :: r => some (.nan, r)
  | _ => none

/-! ### Dates and times -/

/-- A number of a set count of digits. -/
def splitDigits (width : Nat) (s : List Char) : Option (Nat × List Char) :=
  let ds := s.take width
  if ds.length == width && ds.all isDigit then some (rowValue 10 ds, s.drop width) else none

/-- Two digits below a bound. -/
def splitBelow (bound : Nat) (s : List Char) : Option (List Char) := do
  let (n, r) ← splitDigits 2 s
  if n < bound then pure r else none

/-- The rest after a given character. -/
def dropChar? (c : Char) : List Char → Option (List Char)
  | d :: r => if d == c then some r else none
  | [] => none

/-- The rest after a time of day. -/
def dropTime? (s : List Char) : Option (List Char) := do
  let r ← splitBelow 24 s
  let r ← dropChar? ':' r
  let r ← splitBelow 60 r
  let r ← dropChar? ':' r
  let r ← splitBelow 60 r
  match r with
  | '.' :: d :: f => pure (if isDigit d then f.dropWhile isDigit else r)
  | _ => pure r

/-- The rest after the distance from universal time, if it is given. -/
def dropOffset (s : List Char) : List Char :=
  match s with
  | 'Z' :: r | 'z' :: r => r
  | c :: r =>
    if c == '+' || c == '-' then
      ((splitBelow 24 r).bind fun r => (dropChar? ':' r).bind (splitBelow 60)).getD s
    else s
  | [] => []

/-- The number of days in a month. -/
def daysIn (year month : Nat) : Nat :=
  if month = 2 then
    if year % 4 = 0 ∧ (year % 100 ≠ 0 ∨ year % 400 = 0) then 29 else 28
  else if month = 4 ∨ month = 6 ∨ month = 9 ∨ month = 11 then 30
  else 31

/-- Whether the rest begins with a date, and if so whether that date exists. -/
def splitDate (s : List Char) : Option (Bool × List Char) := do
  let (year, r) ← splitDigits 4 s
  let r ← dropChar? '-' r
  let (month, r) ← splitDigits 2 r
  let r ← dropChar? '-' r
  let (day, r) ← splitDigits 2 r
  if month < 1 ∨ 12 < month ∨ day < 1 ∨ 31 < day then none
  else
    let rest := match r with
      | c :: t =>
        if c == 'T' || c == 't' || c == ' ' then ((dropTime? t).map dropOffset).getD r else r
      | [] => []
    pure (decide (1 ≤ year ∧ day ≤ daysIn year month), rest)

end SearchFilters.Toml
