import SearchFilters.Number.Rounding

/-!
# Console — Widths

The widths of the columns of a table that is wider than its console.  The widest columns that may be
broken into rows give way first, down to the width of the next; if that is not enough, all give way.
-/

namespace SearchFilters.Console

/-- Widths from which an excess is taken in equal shares, from each up to a limit of its own. -/
def takeShares (excess : Nat) : List (Nat × Nat) → List Nat
  | [] => []
  | (width, limit) :: rest =>
    let takers := ((width, limit) :: rest).countP fun c => c.2 != 0
    let share := min limit (roundDiv excess takers)
    (width - share) :: takeShares (excess - share) rest

def total (widths : List Nat) : Nat := widths.foldl (· + ·) 0

def widest (widths : List Nat) : Nat := widths.foldl max 0

/-- Widths after the widest columns that wrap have given way, in a number of steps. -/
def narrow (room : Nat) : Nat → List (Nat × Bool) → List Nat
  | 0, columns => columns.map Prod.fst
  | steps + 1, columns =>
    let widths := columns.map Prod.fst
    let wrapping := (columns.filter Prod.snd).map Prod.fst
    let first := widest wrapping
    let second := widest (wrapping.filter (· != first))
    let excess := total widths - room
    if excess = 0 || first = second then widths
    else
      let limits := columns.map fun (width, wraps) =>
        (width, if wraps && width == first then min excess (first - second) else 0)
      narrow room steps ((takeShares excess limits).zip (columns.map Prod.snd))

/-- Widths that fit into the room of a table; the columns are given with whether they wrap. -/
def fitWidths (room : Nat) (columns : List (Nat × Bool)) : List Nat :=
  let excess := total (columns.map Prod.fst) - room
  let widths := narrow room excess columns
  takeShares (total widths - room) (widths.map fun width => (width, width))

end SearchFilters.Console
