/-!
# Text — Similar

How alike two texts are, and which of several texts are close to a given one.
-/

namespace SearchFilters.Text

/-- The length of the common beginning of two texts. -/
def commonLength : List Char → List Char → Nat
  | a :: s, b :: t => if a == b then commonLength s t + 1 else 0
  | _, _ => 0

/-- Where the longest common part of two texts begins in each, and its length.  Of several the first
in the first text is taken, and of those the first in the second. -/
def longestCommon (s t : List Char) : Nat × Nat × Nat :=
  let places := (List.range s.length).flatMap fun i => (List.range t.length).map fun j => (i, j)
  places.foldl (fun best p =>
    let n := commonLength (s.drop p.1) (t.drop p.2)
    if best.2.2 < n then (p.1, p.2, n) else best) (0, 0, 0)

/-- The number of characters in the longest common part, those to its left and those to its
right. -/
def commonCount : Nat → List Char → List Char → Nat
  | 0, _, _ => 0
  | fuel + 1, s, t =>
    match longestCommon s t with
    | (_, _, 0) => 0
    | (i, j, n) =>
      n + commonCount fuel (s.take i) (t.take j) +
        commonCount fuel (s.drop (i + n)) (t.drop (j + n))

/-- Twice the characters that two texts share, and the characters they have. -/
def likeness (s t : List Char) : Nat × Nat :=
  (2 * commonCount (s.length + 1) s t, s.length + t.length)

/-- Whether the first likeness is the greater one. -/
def isLiker (a b : Nat × Nat) : Bool := b.1 * a.2 < a.1 * b.2

/-- The texts that share six tenths with a given one, at most three of them, in alphabetical
order. -/
def similar (candidates : List String) (s : String) : List String :=
  let scored := candidates.map fun c => (likeness c.toList s.toList, c)
  let close := scored.filter fun e => decide (6 * e.1.2 ≤ 10 * e.1.1)
  let best := close.mergeSort fun a b => isLiker a.1 b.1 || (!isLiker b.1 a.1 && decide (b.2 ≤ a.2))
  (best.take 3).map Prod.snd |>.mergeSort (fun a b => decide (a ≤ b))

end SearchFilters.Text
