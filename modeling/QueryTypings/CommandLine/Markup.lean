/-
  Lines for the console.

  A line is written with tags in brackets that set styles; here only the text between them is kept.
  A tag begins with a lower-case letter or one of three signs, and a backslash before it makes it
  text.  A tag that begins with a slash closes one that is open; closing what is not open is an
  error.  A tag that begins with an at sign handles events, and its parameters are values.

  The name of an emoji between colons stands for the emoji.  Some control characters are dropped
  from the text, and tabs are filled up with blanks to the next multiple of eight cells.

  What is written to something else than a terminal holds no control sequences.  Such a sequence
  begins with the escape character and a bracket, goes on with digits, semicolons and question marks,
  and ends with a letter.
-/
import QueryTypings.CommandLine.Literal
import QueryTypings.CommandLine.Style
import QueryTypings.Text.CellWidth
import QueryTypings.Text.Emoji

namespace QueryTypings.CommandLine

open QueryTypings.Text

/-! ## Tags -/

/-- A piece of a line: text, or a tag without its brackets. -/
inductive Chunk
  | text (cs : List Char)
  | tag (cs : List Char)
deriving Repr, BEq, DecidableEq

/-- A tag may begin with the character. -/
def beginsTag (c : Char) : Bool :=
  ('a'.toNat ≤ c.toNat && c.toNat ≤ 'z'.toNat) || c == '#' || c == '/' || c == '@'

/-- The tag that an opening bracket begins, and what follows its closing bracket. -/
def tagAfter? : List Char → Option (List Char × List Char)
  | c :: r =>
      if beginsTag c then
        match r.dropWhile fun d => d != ']' && d != '[' with
        | ']' :: rest => some (c :: r.takeWhile fun d => d != ']' && d != '[', rest)
        | _ => none
      else none
  | [] => none

/-- How many backslashes a text begins with, and what follows them. -/
def backslashes : List Char → Nat × List Char
  | '\\' :: r => ((backslashes r).1 + 1, (backslashes r).2)
  | r => (0, r)

/-- The tag that a text begins with, after backslashes, and what follows it. -/
def tagAhead? (cs : List Char) : Option (Nat × List Char × List Char) :=
  match backslashes cs with
  | (n, '[' :: r) => (tagAfter? r).map fun (tag, rest) => (n, tag, rest)
  | _ => none

/-- A bracket after a backslash loses the backslash. -/
def unescaped : List Char → List Char
  | '\\' :: '[' :: r => '[' :: unescaped r
  | c :: r => c :: unescaped r
  | [] => []

/-- The chunks of a text that has no more than `fuel` characters; `before` are the characters since
    the last chunk, the last one first. -/
def chunksFrom : Nat → List Char → List Char → List Chunk
  | 0, before, _ => [.text (unescaped before.reverse)]
  | _, before, [] => [.text (unescaped before.reverse)]
  | fuel + 1, before, c :: r =>
      match tagAhead? (c :: r) with
      | none => chunksFrom fuel (c :: before) r
      | some (n, tag, rest) =>
          .text (unescaped before.reverse) :: .text (List.replicate (n / 2) '\\')
            :: (if n % 2 = 1 then .text ('[' :: tag ++ [']']) else .tag tag)
            :: chunksFrom fuel [] rest

/-- The chunks of a line. -/
def chunks (cs : List Char) : List Chunk := chunksFrom cs.length [] cs

/-! ## Emoji -/

/-- The name of an emoji between two colons, with what may choose a presentation, and what follows
    the second colon. -/
def emojiName? (cs : List Char) : Option (List Char × List Char) :=
  let inName (c : Char) : Bool := c != ':' && !isBlank c
  match cs.dropWhile inName with
  | ':' :: rest => some (cs.takeWhile inName, rest)
  | _ => none

/-- A name without a given ending, if it has it. -/
def withoutEnding? (ending : String) (name : List Char) : Option (List Char) :=
  if ending.toList.isSuffixOf name then some (name.take (name.length - ending.length)) else none

/-- The emoji of a name and the selector of its presentation. -/
def presented? (name : List Char) : Option (List Char) :=
  let chosen := match withoutEnding? "-text" name, withoutEnding? "-emoji" name with
    | some n, _ => (n, ['\ufe0e'])
    | _, some n => (n, ['\ufe0f'])
    | _, _ => (name, [])
  (emoji? (lower chosen.1)).map (· ++ chosen.2)

/-- A text with emoji for their names; it has no more than `fuel` characters.  A name that no emoji
    has stays, with both colons. -/
def withEmoji : Nat → List Char → List Char
  | 0, cs => cs
  | _, [] => []
  | fuel + 1, c :: r =>
      match if c = ':' then emojiName? r else none with
      | some (name, rest) => (presented? name).getD (':' :: name ++ [':']) ++ withEmoji fuel rest
      | none => c :: withEmoji fuel r

/-! ## Text -/

/-- What is wrong with tags. -/
inductive MarkupFault
  /-- A tag closes what is not open. -/
  | notOpen
  /-- The parameters of a tag that handles events are no literal value. -/
  | noLiteral
  /-- A part of a colour is no number. -/
  | noNumber
deriving Repr, BEq, DecidableEq

/-- A tag that is open: its name in the normal form, and what follows its equals sign. -/
structure OpenTag where
  name : List Char
  parameters : List Char
deriving Repr, BEq, DecidableEq

/-- The normal form of a tag's name. -/
def normalName (name : List Char) : Except MarkupFault (List Char) :=
  (Style.normalText name).mapError fun _ => .noNumber

/-- What follows a name with dots in it. -/
def afterHandler (cs : List Char) : List Char := cs.dropWhile fun c => isWord c || c == '.'

/-- The values that parameters give: those in parentheses after the name of a handler, none if there
    is just a name, or else all of it. -/
def handlerValues (parameters : List Char) : List Char :=
  let ps := trim parameters
  match afterHandler ps with
  | [] => "()".toList
  | '(' :: r => if r.getLast? == some ')' && !r.contains '\n' then '(' :: r else ps
  | _ => ps

/-- What is wrong with the parameters of a tag that is being closed, if anything is. -/
def OpenTag.fault? (t : OpenTag) : Option MarkupFault :=
  if t.name.head? != some '@' || t.parameters.isEmpty
      || Literal.isLiteral (handlerValues t.parameters) then none
  else some .noLiteral

/-- Closes a tag that is open, given those that stay open. -/
def closed (t : OpenTag) (others : List OpenTag) : Except MarkupFault (List OpenTag) :=
  match t.fault? with
  | some f => .error f
  | none => .ok others

/-- The tags that are open after a tag, the last one first. -/
def afterTag (tag : List Char) (opened : List OpenTag) : Except MarkupFault (List OpenTag) := do
  let name := tag.takeWhile (· != '=')
  match name with
  | '/' :: r =>
      match trim r, opened with
      | [], [] => throw .notOpen
      | [], last :: others => closed last others
      | other, _ =>
          let wanted ← normalName other
          match opened.find? fun t => t.name == wanted with
          | some t => closed t (opened.erase t)
          | none => throw .notOpen
  | _ => return ⟨← normalName name, (tag.dropWhile (· != '=')).drop 1⟩ :: opened

/-- The text of chunks. -/
def chunksText : List Chunk → List OpenTag → Except MarkupFault (List Char)
  | [], _ => .ok []
  | .text cs :: r, opened => (chunksText r opened).map (withEmoji cs.length cs ++ ·)
  | .tag t :: r, opened =>
      match afterTag t opened with
      | .error f => .error f
      | .ok opened => chunksText r opened

/-- The character is dropped: bell, backspace, vertical tab, form feed and carriage return. -/
def isDropped (c : Char) : Bool := [7, 8, 11, 12, 13].contains c.toNat

/-- The parts of a line between tabs with each tab filled up with blanks, at least one, to the next
    multiple of eight cells; `column` counts the cells so far. -/
def fillTabs (column : Nat) : List (List Char) → List Char
  | [] => []
  | [last] => last
  | part :: rest =>
      let column := column + cells none (part ++ [' '])
      let gap := (8 - column % 8) % 8
      part ++ List.replicate (gap + 1) ' ' ++ fillTabs (column + gap) rest

/-- A text with the tabs of its lines filled up. -/
def withoutTabs (cs : List Char) : List Char :=
  intercal ['\n'] ((splitAt '\n' cs).map fun line => fillTabs 0 (splitAt '\t' line))

/-- A line as the console shows it. -/
def shownLine (markup : String) : Except MarkupFault String :=
  (chunksText (chunks markup.toList) []).map fun cs =>
    String.ofList (withoutTabs (cs.filter (!isDropped ·))) ++ "\n"

/-! ## Control sequences -/

/-- A character between the beginning and the end of a sequence. -/
def isParameter (c : Char) : Bool := c.isDigit || c == ';' || c == '?'

/-- The length of the sequence with which a text begins, if it begins with one. -/
def sequenceLength? : List Char → Option Nat
  | '\x1b' :: '[' :: r =>
      match r.dropWhile isParameter with
      | c :: _ => if c.isAlpha then some ((r.takeWhile isParameter).length + 3) else none
      | [] => none
  | _ => none

/-- A text without its sequences, so many characters of it dropped before. -/
def dropSequences : Nat → List Char → List Char
  | _, [] => []
  | skipped + 1, _ :: r => dropSequences skipped r
  | 0, c :: r =>
      match sequenceLength? (c :: r) with
      | some n => dropSequences (n - 1) r
      | none => c :: dropSequences 0 r

/-- A text without sequences. -/
def withoutSequences (s : String) : String := String.ofList (dropSequences 0 s.toList)

end QueryTypings.CommandLine
