/-
  Places in a source text.

  Lines and columns count from 1, columns in characters.  A line ends at LF, CR LF or CR.  An
  excerpt shows the line of a place between its neighbours, with a caret below the column; a line
  longer than 120 characters is shown in pieces of 80 instead.
-/
import QueryTypings.Text.Lines

namespace QueryTypings.Graphql

open QueryTypings.Text

/-- A line and a column. -/
structure Position where
  line : Nat
  column : Nat
deriving DecidableEq, Repr, Inhabited, BEq, Hashable

namespace Position

/-- The first character of a text. -/
def first : Position := ⟨1, 1⟩

/-- The place `n` characters on, in the same line. -/
def right (p : Position) (n : Nat) : Position := ⟨p.line, p.column + n⟩

/-- The first character of the next line. -/
def nextLine (p : Position) : Position := ⟨p.line + 1, 1⟩

/-- The place in the form `line:column`. -/
def toText (p : Position) : String := toString p.line ++ ":" ++ toString p.column

end Position

/-! ## Excerpts -/

/-- The lines of a source text, at least one. -/
def sourceLines : List Char → List (List Char)
  | [] => [[]]
  | '\r' :: '\n' :: r => [] :: sourceLines r
  | c :: r => if c = '\r' || c = '\n' then [] :: sourceLines r else consFirst c (sourceLines r)

/-- A text moved right to a given width. -/
def padLeft (width : Nat) (s : String) : String :=
  String.ofList (List.replicate (width - s.length) ' ') ++ s

/-- Cuts a line into pieces of 80 characters; `n` bounds their number. -/
def pieces : Nat → List Char → List (List Char)
  | 0, _ => []
  | n + 1, cs => if cs.isEmpty then [] else cs.take 80 :: pieces n (cs.drop 80)

/-- Lines with a margin, the margins padded to a common width. -/
def withMargins (rows : List (String × String)) : String :=
  let width := rows.foldl (fun w r => max w r.1.length) 0
  joinWith "\n" (rows.map fun r => padLeft width r.1 ++ (if r.2 = "" then "" else " " ++ r.2))

/-- The lines around a place, with a caret below it. -/
def excerpt (text : String) (p : Position) : String :=
  let ls := (sourceLines text.toList).map String.ofList
  let number (n : Nat) : String := toString n ++ " |"
  let row (margin : String) (l : Option String) : List (String × String) :=
    match l with
    | some s => [(margin, s)]
    | none => []
  let line := ls[p.line - 1]?.getD ""
  if 120 < line.length then
    let parts := (pieces line.length line.toList).map String.ofList
    let index := min ((p.column - 1) / 80) (parts.length - 1)
    withMargins
      ((number p.line, parts.headD "") :: ((parts.drop 1).take index).map (("|", ·))
        ++ [("|", padLeft (p.column - 80 * index) "^")] ++ row "|" parts[index + 1]?)
  else
    let before := if p.line ≤ 1 then none else ls[p.line - 2]?
    withMargins
      (row (number (p.line - 1)) before ++ [(number p.line, line), ("|", padLeft p.column "^")]
        ++ row (number (p.line + 1)) ls[p.line]?)

/-- A place in a text, and the lines around it, as they follow a message. -/
def shownPlace (text : String) (p : Position) : String :=
  "\n\nGraphQL request:" ++ p.toText ++ "\n" ++ excerpt text p

end QueryTypings.Graphql
