/-
  Sorting by binary insertion, for relations that need not be an order.

  Where a relation is no order, the outcome hangs on the comparisons that are made, so they are
  fixed here.  The list begins with a run: as many elements as each go before the one in front of
  them, which are turned round, or else as many as never do.  Every later element is put into the
  sorted part where halving leads to, behind all that it does not go before.
-/

namespace QueryTypings

variable {α : Type}

/-- The place in a list to which halving leads: behind an element that `x` does not go before, in
    front of one that it goes before.  The part from `low` to `high` is still open. -/
def insertionPlace (goesBefore : α → α → Bool) (xs : Array α) (x : α) (low high : Nat) : Nat :=
  if _h : low < high then
    let middle := low + (high - low) / 2
    match xs[middle]? with
    | some y =>
        if goesBefore x y then insertionPlace goesBefore xs x low middle
        else insertionPlace goesBefore xs x (middle + 1) high
    | none => low
  else low
termination_by high - low
decreasing_by all_goals omega

/-- Puts an element into a sorted list. -/
def binaryInsert (goesBefore : α → α → Bool) (xs : List α) (x : α) : List α :=
  let place := insertionPlace goesBefore xs.toArray x 0 xs.length
  xs.take place ++ x :: xs.drop place

/-- The elements that continue a run behind `x`, and the others.  Of each two neighbours in the run
    the later one goes before the earlier one if and only if `falling`. -/
def splitRun (goesBefore : α → α → Bool) (falling : Bool) (x : α) : List α → List α × List α
  | [] => ([], [])
  | y :: r =>
      if goesBefore y x == falling then
        let (run, rest) := splitRun goesBefore falling y r
        (y :: run, rest)
      else ([], y :: r)

/-- Sorts a list by binary insertion behind its first run. -/
def binaryInsertionSort (goesBefore : α → α → Bool) : List α → List α
  | [] => []
  | x :: r =>
      let falling := (r.head?.map (goesBefore · x)).getD false
      let parts := splitRun goesBefore falling x r
      let run := x :: parts.1
      parts.2.foldl (binaryInsert goesBefore) (if falling then run.reverse else run)

end QueryTypings
