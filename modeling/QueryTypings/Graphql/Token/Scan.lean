/-
  Cutting GraphQL text into tokens.

  Between tokens stand spaces, tabs, commas, byte-order marks, line ends and comments, which run
  from `#` to the end of the line.  A token is the longest one that can be read at its place.

  A block string is text between triple quotes, written over several indented lines.  The
  indentation that all lines but the first have in common is no part of the text, nor are blank
  lines at its start and end.

  `tokensFrom` reads token after token and ends with the end of the text or with the first fault.
  Every token takes at least one character, so the length of the text bounds their number.
-/
import QueryTypings.Graphql.Token
import QueryTypings.Text.Lines

namespace QueryTypings.Graphql

open QueryTypings.Text

/-! ## The text of block strings -/

/-- A space or a tab. -/
def isIndent (c : Char) : Bool := c == ' ' || c == '\t'

/-- The line holds spaces and tabs only. -/
def isBlankRow (l : List Char) : Bool := l.all isIndent

/-- The number of spaces and tabs in front. -/
def indentOf (l : List Char) : Nat := (l.takeWhile isIndent).length

/-- The least indentation of the lines that are not blank. -/
def commonIndent : List (List Char) → Option Nat
  | [] => none
  | l :: ls =>
      if isBlankRow l then commonIndent ls
      else match commonIndent ls with
        | none => some (indentOf l)
        | some n => some (min (indentOf l) n)

/-- Drops the blank lines at the end. -/
def dropBlankRows : List (List Char) → List (List Char)
  | [] => []
  | l :: ls =>
      match dropBlankRows ls with
      | [] => if isBlankRow l then [] else [l]
      | ls => l :: ls

/-- The lines of the text that raw lines between triple quotes stand for. -/
def dedent : List (List Char) → List (List Char)
  | [] => []
  | l :: ls =>
      let n := (commonIndent ls).getD 0
      dropBlankRows ((l :: ls.map (·.drop n)).dropWhile isBlankRow)

/-- The text that raw lines between triple quotes stand for. -/
def blockText (raw : List (List Char)) : String :=
  String.ofList (intercal ['\n'] (dedent raw))

/-! ## What stands between tokens -/

/-- A character that separates tokens and nothing more. -/
def isSeparator (c : Char) : Bool := c == ' ' || c == '\t' || c == ',' || c == '\ufeff'

/-- Drops separators, line ends and comments; `inComment` says that the text begins in one. -/
def skipIgnored : Bool → List Char → Position → List Char × Position
  | _, [], p => ([], p)
  | _, '\r' :: '\n' :: r, p => skipIgnored false r p.nextLine
  | inComment, c :: r, p =>
      if c = '\n' || c = '\r' then skipIgnored false r p.nextLine
      else if inComment || isSeparator c then skipIgnored inComment r (p.right 1)
      else if c = '#' then skipIgnored true r (p.right 1)
      else (c :: r, p)

/-! ## Names and numbers -/

/-- A letter or the underscore. -/
def isNameStart (c : Char) : Bool :=
  ('a' ≤ c && c ≤ 'z') || ('A' ≤ c && c ≤ 'Z') || c == '_'

/-- A letter, a digit or the underscore. -/
def isNameChar (c : Char) : Bool := isNameStart c || ('0' ≤ c && c ≤ '9')

/-- A digit. -/
def isDigit (c : Char) : Bool := '0' ≤ c && c ≤ '9'

/-- The result of reading one token: the token or a fault, the rest of the text, and where the rest
    begins. -/
structure Scanned where
  token : Token
  rest : List Char
  next : Position

/-- Ends the tokens with a fault. -/
def Scanned.fault (fault : LexicalFault) (p : Position) : Scanned :=
  ⟨⟨.illegal fault, "", p⟩, [], p⟩

/-- At least one digit: the digits, the rest, and the rest's place; or a fault. -/
def needDigits (cs : List Char) (p : Position) :
    Except Scanned (List Char × List Char × Position) :=
  match cs.takeWhile isDigit with
  | [] => .error (.fault (.noDigit cs.head?) p)
  | ds => .ok (ds, cs.dropWhile isDigit, p.right ds.length)

/-- The digits before the point. -/
def wholePart (cs : List Char) (p : Position) : Except Scanned (List Char × List Char × Position) :=
  match cs with
  | '0' :: c :: r =>
      if isDigit c then .error (.fault (.afterZero c) (p.right 1))
      else .ok (['0'], c :: r, p.right 1)
  | _ => needDigits cs p

/-- The point and the digits after it, if there is a point. -/
def fractionPart (cs : List Char) (p : Position) :
    Except Scanned (List Char × List Char × Position) :=
  match cs with
  | '.' :: r => (needDigits r (p.right 1)).map fun (ds, r, p) => ('.' :: ds, r, p)
  | _ => .ok ([], cs, p)

/-- The exponent, if there is one. -/
def exponentPart (cs : List Char) (p : Position) :
    Except Scanned (List Char × List Char × Position) :=
  match cs with
  | [] => .ok ([], cs, p)
  | e :: r =>
      if e = 'e' || e = 'E' then
        match r with
        | s :: t =>
            if s = '+' || s = '-' then
              (needDigits t (p.right 2)).map fun (ds, r, p) => (e :: s :: ds, r, p)
            else (needDigits r (p.right 1)).map fun (ds, r, p) => (e :: ds, r, p)
        | [] => (needDigits r (p.right 1)).map fun (ds, r, p) => (e :: ds, r, p)
      else .ok ([], cs, p)

/-- An integer or a fraction.  `sign` is what has been read of it, `start` where it began. -/
def numberToken (start : Position) (sign cs : List Char) (p : Position) : Scanned :=
  let read : Except Scanned Scanned := do
    let (whole, cs, p) ← wholePart cs p
    let (fraction, cs, p) ← fractionPart cs p
    let (exponent, cs, p) ← exponentPart cs p
    let kind := if fraction.isEmpty && exponent.isEmpty then TokenKind.int else .float
    match cs with
    | c :: _ =>
        if c = '.' || isNameStart c then throw (.fault (.noDigit (some c)) p)
    | [] => pure ()
    pure ⟨⟨kind, String.ofList (sign ++ whole ++ fraction ++ exponent), start⟩, cs, p⟩
  match read with
  | .ok t => t
  | .error t => t

/-! ## Strings -/

/-- The number is the code of a character. -/
def isScalarValue (n : Nat) : Bool := n < 0xd800 || (0xe000 ≤ n && n < 0x110000)

/-- The value of four hexadecimal digits. -/
def fourHex (cs : List Char) : Option Nat :=
  if cs.length < 4 then none else readHex 0 (cs.take 4)

/-- An escape by code in braces.  `size` counts the characters since the backslash, of which `cs`
    are those to come; `n` is the value so far.  Answers the character, or `none`, and the size. -/
def bracedEscape : Nat → List Char → Nat → Nat → Option Char × Nat
  | 0, _, _, size => (none, size)
  | _ + 1, [], _, size => (none, size)
  | fuel + 1, c :: r, n, size =>
      if c = '\x7d' then
        if size + 1 < 5 || !isScalarValue n then (none, size + 1)
        else (some (Char.ofNat n), size + 1)
      else match hexValue? c with
        | none => (none, size + 1)
        | some d => bracedEscape fuel r (n * 16 + d) (size + 1)

/-- An escape by code with four digits, or by two such codes that form one character. -/
def fixedEscape (cs : List Char) : Option (Char × Nat) :=
  match fourHex (cs.drop 2) with
  | none => none
  | some n =>
      if isScalarValue n then some (Char.ofNat n, 6)
      else if n < 0xdc00 then
        match cs.drop 6 with
        | '\\' :: 'u' :: r =>
            match fourHex r with
            | some m =>
                if 0xdc00 ≤ m && m < 0xe000 then
                  some (Char.ofNat (0x10000 + (n - 0xd800) * 0x400 + (m - 0xdc00)), 12)
                else none
            | none => none
        | _ => none
      else none

/-- The escape at the front of the text, which begins with a backslash: the character and the number
    of characters it takes, or the fault. -/
def escape (cs : List Char) : Except LexicalFault (Char × Nat) :=
  let letter (c : Char) : Except LexicalFault (Char × Nat) := .ok (c, 2)
  match cs with
  | _ :: 'u' :: '\x7b' :: r =>
      match bracedEscape 9 r 0 3 with
      | (some c, size) => .ok (c, size)
      | (none, size) => .error (.badUnicodeEscape (String.ofList (cs.take size)))
  | _ :: 'u' :: _ =>
      match fixedEscape cs with
      | some r => .ok r
      | none => .error (.badUnicodeEscape (String.ofList (cs.take 6)))
  | _ :: '"' :: _ => letter '"'
  | _ :: '\\' :: _ => letter '\\'
  | _ :: '/' :: _ => letter '/'
  | _ :: 'b' :: _ => letter '\x08'
  | _ :: 'f' :: _ => letter '\x0c'
  | _ :: 'n' :: _ => letter '\n'
  | _ :: 'r' :: _ => letter '\r'
  | _ :: 't' :: _ => letter '\t'
  | _ => .error (.badEscape (String.ofList (cs.take 2)))

/-- A string from behind its opening quote; `done` holds its characters so far, last one first. -/
def stringToken (start : Position) : Nat → List Char → Position → List Char → Scanned
  | 0, _, p, _ => .fault .unterminatedString p
  | n + 1, cs, p, done =>
      match cs with
      | [] => .fault .unterminatedString p
      | '"' :: r => ⟨⟨.string, String.ofList done.reverse, start⟩, r, p.right 1⟩
      | '\\' :: _ =>
          match escape cs with
          | .ok (c, size) => stringToken start n (cs.drop size) (p.right size) (c :: done)
          | .error fault => .fault fault p
      | c :: r =>
          if c = '\n' || c = '\r' then .fault .unterminatedString p
          else stringToken start n r (p.right 1) (c :: done)

/-- A block string from behind its opening quotes; `done` holds the lines that are complete, `row`
    the characters of the current one, both last one first. -/
def blockStringToken (start : Position) :
    List Char → Position → List (List Char) → List Char → Scanned
  | [], p, _, _ => .fault .unterminatedString p
  | '"' :: '"' :: '"' :: r, p, done, row =>
      ⟨⟨.blockString, blockText (row.reverse :: done).reverse, start⟩, r, p.right 3⟩
  | '\\' :: '"' :: '"' :: '"' :: r, p, done, row =>
      blockStringToken start r (p.right 4) done ('"' :: '"' :: '"' :: row)
  | '\r' :: '\n' :: r, p, done, row => blockStringToken start r p.nextLine (row.reverse :: done) []
  | c :: r, p, done, row =>
      if c = '\n' || c = '\r' then blockStringToken start r p.nextLine (row.reverse :: done) []
      else blockStringToken start r (p.right 1) done (c :: row)

/-! ## Tokens -/

/-- The punctuator that a character is. -/
def punctuator? : Char → Option Punctuator
  | '!' => some .bang
  | '$' => some .dollar
  | '&' => some .amp
  | '(' => some .parenL
  | ')' => some .parenR
  | ':' => some .colon
  | '=' => some .equals
  | '@' => some .at
  | '[' => some .bracketL
  | ']' => some .bracketR
  | '\x7b' => some .braceL
  | '|' => some .pipe
  | '\x7d' => some .braceR
  | _ => none

/-- A point that no second and third follow. -/
def lonePoint (r : List Char) (p : Position) : Scanned :=
  match r with
  | '.' :: _ => .fault .twoDots p
  | c :: _ =>
      if isDigit c then .fault (.pointFirst (String.ofList (r.takeWhile isDigit))) p
      else .fault (.unexpectedCharacter '.') p
  | [] => .fault (.unexpectedCharacter '.') p

/-- The token at the front of a text that begins with one. -/
def scanToken (cs : List Char) (p : Position) : Scanned :=
  match cs with
  | [] => ⟨⟨.endOfText, "", p⟩, [], p⟩
  | '.' :: '.' :: '.' :: r => ⟨⟨.punctuator .spread, "", p⟩, r, p.right 3⟩
  | '.' :: r => lonePoint r p
  | '"' :: '"' :: '"' :: r => blockStringToken p r (p.right 3) [] []
  | '"' :: r => stringToken p (r.length + 1) r (p.right 1) []
  | '-' :: r => numberToken p ['-'] r (p.right 1)
  | c :: r =>
      match punctuator? c with
      | some k => ⟨⟨.punctuator k, "", p⟩, r, p.right 1⟩
      | none =>
          if isDigit c then numberToken p [] cs p
          else if isNameStart c then
            let name := cs.takeWhile isNameChar
            ⟨⟨.name, String.ofList name, p⟩, cs.dropWhile isNameChar, p.right name.length⟩
          else if c = '\'' then .fault .singleQuote p
          else .fault (.unexpectedCharacter c) p

/-- No token comes after this one. -/
def TokenKind.isLast : TokenKind → Bool
  | .endOfText => true
  | .illegal _ => true
  | _ => false

/-- The tokens of a text, the last of which is the end of the text or illegal. -/
def tokensFrom : Nat → List Char → Position → List Token
  | 0, _, p => [⟨.endOfText, "", p⟩]
  | n + 1, cs, p =>
      let (cs, p) := skipIgnored false cs p
      let t := scanToken cs p
      if t.token.kind.isLast then [t.token] else t.token :: tokensFrom n t.rest t.next

/-- The tokens of a text. -/
def tokens (text : String) : List Token :=
  let cs := text.toList
  tokensFrom (cs.length + 1) cs .first

end QueryTypings.Graphql
