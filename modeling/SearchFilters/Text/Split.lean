/-!
# Text — Split

Cutting texts at separators.
-/

namespace SearchFilters.Text

/-- The parts before and after the first occurrence of a separator. -/
def cut? (sep : List Char) : List Char → Option (List Char × List Char)
  | [] => if sep.isEmpty then some ([], []) else none
  | c :: s =>
    if sep.isPrefixOf (c :: s) then some ([], (c :: s).drop sep.length)
    else (cut? sep s).map fun (l, r) => (c :: l, r)

/-- The parts between the occurrences of a character, one more than there are occurrences. -/
def splitAll (sep : Char) : List Char → List (List Char)
  | [] => [[]]
  | c :: s =>
    match splitAll sep s with
    | [] => [[]]
    | p :: ps => if c == sep then [] :: p :: ps else (c :: p) :: ps

/-- Parts with a text before the first of them. -/
def prepend (s : List Char) : List (List Char) → List (List Char)
  | [] => [s]
  | p :: ps => (s ++ p) :: ps

/-- However a text is split, there is a part. -/
theorem splitAll_ne_nil (sep : Char) (s : List Char) : splitAll sep s ≠ [] := by
  cases s with
  | nil => simp [splitAll]
  | cons c s =>
    unfold splitAll
    split
    · simp
    · split <;> simp

end SearchFilters.Text
