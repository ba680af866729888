import SearchFilters.Number.Basic
import SearchFilters.Text.Quoted

/-!
# Field — Datum

Loosely typed data, as configuration files and callers supply it before it is checked.
-/

namespace SearchFilters

/-- A piece of data of any shape. -/
inductive Datum where
  | null
  | bool (b : Bool)
  | number (n : Number)
  | string (s : String)
  | list (items : List Datum)
  | tuple (items : List Datum)
  | table (entries : List (String × Datum))
  /-- a date, a time or both -/
  | moment (text : String)
  deriving Inhabited

namespace Datum

def int (i : Int) : Datum := .number (.int i)

def float (x : Binary64) : Datum := .number (.float x)

/-- The entry of a table under a key. -/
def get? (entries : List (String × Datum)) (key : String) : Option Datum :=
  (entries.find? fun e => e.1 == key).map Prod.snd

/-- The items of a list or tuple. -/
def items? : Datum → Option (List Datum)
  | .list xs | .tuple xs => some xs
  | _ => none

def isNull : Datum → Bool
  | .null => true
  | _ => false

def string? : Datum → Option String
  | .string s => some s
  | _ => none

/-- An integer; a truth value is none. -/
def int? : Datum → Option Int
  | .number (.int i) => some i
  | _ => none

/-- A finite number; a truth value is none. -/
def finite? : Datum → Option Number
  | .number n => if n.isFinite then some n else none
  | _ => none

/-- A number in comparisons, where truth values count as one and zero. -/
def quantity? : Datum → Option Number
  | .number n => some n
  | .bool b => some (.int (if b then 1 else 0))
  | _ => none

/-! ### Texts -/

/-- Texts separated by commas. -/
def commaSeparated (parts : List (List Char)) : List Char :=
  ", ".toList.intercalate parts

mutual

/-- A datum as it is shown inside another one: strings between quotes. -/
def shown : Datum → Except NumberFault (List Char)
  | .null => .ok "None".toList
  | .bool b => .ok (if b then "True".toList else "False".toList)
  | .number n => n.text
  | .string s => .ok (Text.quoted s.toList)
  | .list xs => do pure ('[' :: commaSeparated (← shownItems xs) ++ [']'])
  | .tuple xs => do
    let parts ← shownItems xs
    let inner := match parts with
      | [p] => p ++ [',']
      | ps => commaSeparated ps
    pure ('(' :: inner ++ [')'])
  | .table es => do pure ('\x7b' :: commaSeparated (← shownEntries es) ++ ['\x7d'])
  | .moment t => .ok t.toList

def shownItems : List Datum → Except NumberFault (List (List Char))
  | [] => .ok []
  | x :: xs => do
    let p ← shown x
    let ps ← shownItems xs
    pure (p :: ps)

def shownEntries : List (String × Datum) → Except NumberFault (List (List Char))
  | [] => .ok []
  | (k, x) :: xs => do
    let p ← shown x
    let ps ← shownEntries xs
    pure ((Text.quoted k.toList ++ [':', ' '] ++ p) :: ps)

end

/-- A datum as a text; a string is its own text. -/
def text : Datum → Except NumberFault (List Char)
  | .string s => .ok s.toList
  | d => d.shown

/-! ### Comparison -/

mutual

/-- Whether two data agree, numbers being compared by size. -/
def same : Datum → Datum → Bool
  | .null, .null => true
  | .string s, .string t => s == t
  | .list xs, .list ys => sameItems xs ys
  | .tuple xs, .tuple ys => sameItems xs ys
  | .table xs, .table ys => xs.length == ys.length && sameEntries xs ys
  | .moment s, .moment t => s == t
  | a, b =>
    match a.quantity?, b.quantity? with
    | some m, some n => m.same n
    | _, _ => false

def sameItems : List Datum → List Datum → Bool
  | [], [] => true
  | x :: xs, y :: ys => same x y && sameItems xs ys
  | _, _ => false

def sameEntries : List (String × Datum) → List (String × Datum) → Bool
  | [], _ => true
  | (k, x) :: xs, ys =>
    (match get? ys k with
      | some y => same x y
      | none => false) && sameEntries xs ys

end

mutual

/-- Whether one datum exceeds another; none if the two cannot be compared. -/
def exceeds? : Datum → Datum → Option Bool
  | .string s, .string t => some (decide (t < s))
  | .list xs, .list ys => exceedsItems? xs ys
  | .tuple xs, .tuple ys => exceedsItems? xs ys
  | a, b => do
    let m ← a.quantity?
    let n ← b.quantity?
    pure (m.exceeds n)

/-- Item by item: the first difference decides, and the longer list exceeds its beginnings. -/
def exceedsItems? : List Datum → List Datum → Option Bool
  | x :: xs, y :: ys => if same x y then exceedsItems? xs ys else exceeds? x y
  | xs, ys => some (!xs.isEmpty && ys.isEmpty)

end

end Datum
end SearchFilters
