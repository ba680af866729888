import SearchFilters.Field.Value

/-!
# Field — Format

Data in the text form of field values, without checking first that they are values.
-/

namespace SearchFilters

/-- Why a datum has no text as a value. -/
inductive FormatError where
  /-- the datum has no items -/
  | noItems
  /-- a range has not two bounds -/
  | notPair
  /-- an item of an enum value is no string -/
  | notText
  | number (f : NumberFault)
  deriving Repr, DecidableEq

namespace Datum

/-- What a datum consists of: items, characters or keys. -/
def parts? : Datum → Option (List Datum)
  | .list xs | .tuple xs => some xs
  | .string s => some (s.toList.map fun c => .string (String.singleton c))
  | .table es => some (es.map fun e => .string e.1)
  | _ => none

/-- The text of a datum that stands for itself; truth values are written in lower case. -/
def scalarText : Datum → Except NumberFault (List Char)
  | .bool b => .ok (if b then "true" else "false").toList
  | d => d.text

/-- The text of a datum as a value of a type. -/
def formatAs (t : FieldType) (d : Datum) : Except FormatError (List Char) :=
  if t.isRange then
    match d.parts? with
    | none => .error .noItems
    | some [low, high] => do
      let l ← low.scalarText.mapError .number
      let h ← high.scalarText.mapError .number
      pure (l ++ ['.', '.'] ++ h)
    | some _ => .error .notPair
  else if t = .enum then
    match d.parts? with
    | none => .error .noItems
    | some parts =>
      match parts.mapM Datum.string? with
      | none => .error .notText
      | some items => .ok ([','].intercalate (items.map String.toList))
  else d.scalarText.mapError .number

end Datum
end SearchFilters
