/-
  Suggestions: which known names a mistyped name may have meant.

  The distance of two names counts insertions, deletions, substitutions and swaps of neighbours, on
  lower-cased text; names that differ in case alone have distance 1.  A name is suggested if its
  distance is at most `length * 2 / 5 + 1`.  Suggestions are sorted by distance, then in natural
  order, in which runs of digits compare as numbers.

  The table of distances is as wide as the text that was given.  A few letters become longer when
  they are lower-cased, and then a known name may not find room in it: `outgrows` tells.
-/
import QueryTypings.Text.Lines
import QueryTypings.Text.LowerCase

namespace QueryTypings.Text

/-! ## Distance -/

/-- The next row of the distance table.  `a` and `before` are the current and the previous character
    of the first word; the arguments that follow are the second word's characters, the previous one
    of them, the row above (its cell up to the left, then the rest), the row above that, and the
    cell to the left. -/
def distanceCells (a : Char) (before : Option Char) :
    List Char → Option Char → Nat → List Nat → List Nat → Nat → List Nat
  | b :: bs, prev, diag, up :: ups, above, left =>
      let cost := if a = b then 0 else 1
      let plain := min (min (up + 1) (left + 1)) (diag + cost)
      let swapped := before == some b && prev == some a
      let cell :=
        match prev, above with
        | some _, corner :: _ => if swapped then min plain (corner + 1) else plain
        | _, _ => plain
      let above' := if prev.isNone then above else above.tail
      cell :: distanceCells a before bs (some b) up ups above' cell
  | _, _, _, _, _, _ => []

/-- All rows of the table, the current row being `row` and the one above it `above`. -/
def distanceRows (b : List Char) :
    List Char → Option Char → Nat → List Nat → List Nat → List Nat
  | [], _, _, row, _ => row
  | c :: r, before, i, row, above =>
      let cells := distanceCells c before b none (row.headD 0) row.tail above (i + 1)
      distanceRows b r (some c) (i + 1) ((i + 1) :: cells) row

/-- The number of edits between two words. -/
def editDistance (a b : List Char) : Nat :=
  (distanceRows b a none 0 (List.range (b.length + 1)) []).getLastD 0

/-- The distance of a known name from the name that was given. -/
def nameDistance (given known : String) : Nat :=
  if given = known then 0
  else
    let a := lower known.toList
    let b := lower given.toList
    if a = b then 1 else editDistance a b

/-- The greatest distance of a name that is suggested. -/
def distanceLimit (given : String) : Nat := given.length * 2 / 5 + 1

/-- The table for a given text has no room for a known name: the shorter of the two lower-cased
    forms is longer than the text, and their lengths alone do not rule the name out. -/
def outgrows (given known : String) : Bool :=
  let a := lower known.toList
  let b := lower given.toList
  given != known && a != b
    && decide (max a.length b.length ≤ min a.length b.length + distanceLimit given)
    && decide (given.length < min a.length b.length)

/-! ## Natural order -/

/-- The leading digits of a text as a number, and what follows them. -/
def leadingNumber : List Char → Nat → Nat × List Char
  | [], n => (n, [])
  | c :: r, n => if c.isDigit then leadingNumber r (n * 10 + (c.toNat - 48)) else (n, c :: r)

/-- A text cut into runs: other characters and digits in turn, beginning with other characters. -/
def naturalRuns (cs : List Char) : List (List Char) :=
  let rec go : List Char → Bool → List Char → List (List Char)
    | [], digits, run => if digits then [run.reverse, []] else [run.reverse]
    | c :: r, digits, run =>
        if c.isDigit == digits then go r digits (c :: run) else run.reverse :: go r (!digits) [c]
  go cs false []

/-- Order of two runs of characters, by code point. -/
def compareChars : List Char → List Char → Ordering
  | [], [] => .eq
  | [], _ => .lt
  | _, [] => .gt
  | a :: r, b :: s => (compare a.toNat b.toNat).then (compareChars r s)

/-- Compares runs in turn; every second run is a number, of which the value counts first. -/
def compareRuns : Bool → List (List Char) → List (List Char) → Ordering
  | _, [], [] => .eq
  | _, [], _ => .lt
  | _, _, [] => .gt
  | number, a :: r, b :: s =>
      let first :=
        if number then
          (compare (leadingNumber a 0).1 (leadingNumber b 0).1).then (compareChars a b)
        else compareChars a b
      first.then (compareRuns (!number) r s)

/-- Natural order of names. -/
def naturalCompare (a b : String) : Ordering :=
  compareRuns false (naturalRuns a.toList) (naturalRuns b.toList)

/-! ## Choosing and phrasing -/

/-- The known names that the given one may have meant, best first. -/
def suggestions (given : String) (known : List String) : List String :=
  let limit := distanceLimit given
  let near := (known.eraseDups.map fun k => (nameDistance given k, k)).filter fun p => p.1 ≤ limit
  (near.mergeSort fun p q =>
    ((compare p.1 q.1).then (naturalCompare p.2 q.2)).isLE).map (·.2)

/-- The alternatives in words: `a`, `a or b`, `a, b, or c`; five at most. -/
def alternatives (names : List String) : String :=
  match names.take 5 with
  | [] => ""
  | [a] => a
  | [a, b] => a ++ " or " ++ b
  | several => joinWith ", " several.dropLast ++ ", or " ++ several.getLastD ""

/-- The sentence that offers names, with a leading space; `what` names their kind and may be
    empty. -/
def didYouMean (what : String) (names : List String) : String :=
  match names with
  | [] => ""
  | _ =>
      " Did you mean " ++ (if what = "" then "" else what ++ " ")
        ++ alternatives (names.map fun n => "'" ++ n ++ "'") ++ "?"

end QueryTypings.Text
