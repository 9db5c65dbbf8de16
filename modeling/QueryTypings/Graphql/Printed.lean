/-
  Values as text.

  A message shows a value as GraphQL text.  Lists and objects stand in one line if that line has at
  most 80 characters; otherwise every item has a line of its own, indented by two spaces.  A hundred
  levels may be laid out so; further inside the items follow one another without commas.  Strings
  are escaped so that the text reads back as the same value, block strings keep their form.
-/
import QueryTypings.Graphql.Document
import QueryTypings.Text.Hex

namespace QueryTypings.Graphql

open QueryTypings.Text

/-- One character inside a printed string. -/
def printChar (c : Char) : List Char :=
  if c = '"' then ['\\', '"']
  else if c = '\\' then ['\\', '\\']
  else if c = '\x08' then ['\\', 'b']
  else if c = '\t' then ['\\', 't']
  else if c = '\n' then ['\\', 'n']
  else if c = '\x0c' then ['\\', 'f']
  else if c = '\r' then ['\\', 'r']
  else if c.toNat < 32 || (127 ≤ c.toNat && c.toNat < 160) then
    '\\' :: 'u' :: upperHexFixed 4 c.toNat
  else [c]

/-- A printed string. -/
def printString (s : String) : String :=
  String.ofList ('"' :: s.toList.flatMap printChar ++ ['"'])

/-- Escapes triple quotes. -/
def escapeTriples : List Char → List Char
  | '"' :: '"' :: '"' :: r => '\\' :: '"' :: '"' :: '"' :: escapeTriples r
  | c :: r => c :: escapeTriples r
  | [] => []

/-- The text ends with a given character. -/
def endsWith (c : Char) (cs : List Char) : Bool := cs.getLast? == some c

/-- The text ends with an escaped triple quote. -/
def endsWithTriple (cs : List Char) : Bool := cs.reverse.take 4 == ['"', '"', '"', '\\']

/-- The text begins with a space or a tab. -/
def startsIndented : List Char → Bool
  | c :: _ => c == ' ' || c == '\t'
  | [] => false

/-- A printed block string. -/
def printBlockString (s : String) : String :=
  let escaped := escapeTriples s.toList
  let rows := splitAt '\n' escaped
  let single := rows.length == 1
  let forceBefore := !single && rows.tail.all fun l => l.isEmpty || startsIndented l
  let triple := endsWithTriple escaped
  let forceAfter := (endsWith '"' s.toList && !triple) || endsWith '\\' s.toList
  let several := !single || 70 < s.length || forceAfter || forceBefore || triple
  let skipBefore := single && startsIndented s.toList
  let quotes := "\"\"\""
  quotes ++ (if (several && !skipBefore) || forceBefore then "\n" else "") ++ String.ofList escaped
    ++ (if several || forceAfter then "\n" else "") ++ quotes

/-- The longest line that a list or an object may take. -/
def maxLineLength : Nat := 80

/-- Indents every line by two spaces. -/
def indentLines (s : String) : String :=
  String.ofList ([' ', ' '] ++ s.toList.flatMap fun c => if c = '\n' then ['\n', ' ', ' '] else [c])

/-- The number of levels of lists and objects of which the items may have lines of their own. -/
def maxIndentedLevels : Nat := 100

/-- Items in one line if they fit, between `padding`-padded brackets, or in several; `level` lists
    and objects stand around them. -/
def printItems (opening closing padding : String) (level : Nat) (items : List String) : String :=
  let line := opening ++ padding ++ joinWith ", " items ++ padding ++ closing
  if line.length ≤ maxLineLength then line
  else if level < maxIndentedLevels then
    opening ++ "\n" ++ (if items.isEmpty then "" else indentLines (joinWith "\n" items)) ++ "\n"
      ++ closing
  else opening ++ " " ++ joinWith " " items ++ " " ++ closing

mutual

/-- A value as text, inside `level` lists and objects. -/
def Value.printAt (level : Nat) : Value → String
  | .variable n _ => "$" ++ n.text
  | .int d _ => d
  | .float d _ => d
  | .string s block _ => if block then printBlockString s else printString s
  | .boolean b _ => if b then "true" else "false"
  | .null _ => "null"
  | .enum n _ => n
  | .list items _ => printItems "[" "]" "" level (printValues (level + 1) items)
  | .object fields _ => printItems "\x7b" "\x7d" " " level (printFields (level + 1) fields)

/-- Values as texts. -/
def printValues (level : Nat) : List Value → List String
  | [] => []
  | v :: r => v.printAt level :: printValues level r

/-- The fields of an object value as texts. -/
def printFields (level : Nat) : List (Name × Value) → List String
  | [] => []
  | (n, v) :: r => (n.text ++ ": " ++ v.printAt level) :: printFields level r

end

/-- A value as text. -/
def Value.print (v : Value) : String := v.printAt 0

/-- A type as text. -/
def TypeNode.print : TypeNode → String
  | .named n => n.text
  | .list t _ => "[" ++ t.print ++ "]"
  | .nonNull t => t.print ++ "!"

end QueryTypings.Graphql
