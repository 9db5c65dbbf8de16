/-
  Tokens of GraphQL text, and what can be wrong with a text's form.

  A token has a kind, a value where its kind has one, and a place.  Where no token can be read the
  list of tokens ends in an `illegal` one, which carries the fault; the fault counts only once a
  reader comes to it.  `Fault.message` words every fault.
-/
import QueryTypings.Graphql.Position
import QueryTypings.Text.Hex

namespace QueryTypings.Graphql

open QueryTypings.Text

/-- The punctuators of the language. -/
inductive Punctuator
  | bang | dollar | amp | parenL | parenR | spread | colon | equals | at | bracketL | bracketR
  | braceL | pipe | braceR
deriving DecidableEq, Repr

/-- How a punctuator is written. -/
def Punctuator.text : Punctuator → String
  | .bang => "!"
  | .dollar => "$"
  | .amp => "&"
  | .parenL => "("
  | .parenR => ")"
  | .spread => "..."
  | .colon => ":"
  | .equals => "="
  | .at => "@"
  | .bracketL => "["
  | .bracketR => "]"
  | .braceL => "\x7b"
  | .pipe => "|"
  | .braceR => "\x7d"

/-- Why no token can be read at a place. -/
inductive LexicalFault
  | unexpectedCharacter (c : Char)
  | singleQuote
  | twoDots
  /-- A point with these digits after it and none before. -/
  | pointFirst (digits : String)
  /-- A number goes on after a leading zero. -/
  | afterZero (c : Char)
  /-- A number lacks a digit; instead of it stands this character, or the end of the text. -/
  | noDigit (found : Option Char)
  | unterminatedString
  | badEscape (text : String)
  | badUnicodeEscape (text : String)
deriving DecidableEq, Repr

/-- Kinds of tokens. -/
inductive TokenKind
  | punctuator (p : Punctuator)
  | name | int | float | string | blockString | endOfText
  | illegal (fault : LexicalFault)
deriving DecidableEq, Repr

/-- A token: its kind, its value (empty where the kind has none) and its place. -/
structure Token where
  kind : TokenKind
  value : String
  position : Position
deriving DecidableEq, Repr

/-- How a message names a kind of token. -/
def TokenKind.text : TokenKind → String
  | .punctuator p => "'" ++ p.text ++ "'"
  | .name => "Name"
  | .int => "Int"
  | .float => "Float"
  | .string => "String"
  | .blockString => "BlockString"
  | .endOfText => "<EOF>"
  | .illegal _ => "<EOF>"

/-- The kind comes with a value. -/
def TokenKind.hasValue : TokenKind → Bool
  | .name | .int | .float | .string | .blockString => true
  | _ => false

/-- How a message names a token that was found. -/
def Token.text (t : Token) : String :=
  t.kind.text ++ if t.kind.hasValue then " '" ++ t.value ++ "'" else ""

/-- What a text's form can violate. -/
inductive SyntaxFault
  | lexical (fault : LexicalFault)
  | expectedKind (kind : TokenKind) (found : Token)
  | expectedKeyword (word : String) (found : Token)
  | unexpected (found : Token)
  | variableInConstant (name : String)
  | reservedEnumValue (found : Token)
  | descriptionOnShorthand
  | strayDescription
  | nestedTooDeeply
deriving DecidableEq, Repr

/-- A fault and its place. -/
structure SyntaxError where
  fault : SyntaxFault
  position : Position
deriving DecidableEq, Repr

/-! ## Messages -/

/-- The digits of a code point, four at least, in upper case. -/
def codePointDigits (n : Nat) : List Char :=
  if n < 0x10000 then upperHexFixed 4 n
  else if n < 0x100000 then upperHexFixed 5 n
  else upperHexFixed 6 n

/-- How a message shows a character that it complains about. -/
def shownChar : Option Char → String
  | none => "<EOF>"
  | some c =>
      if c = '"' then "'\"'"
      else if 32 ≤ c.toNat ∧ c.toNat < 127 then String.ofList ['\'', c, '\'']
      else "U+" ++ String.ofList (codePointDigits c.toNat)

/-- The wording of a lexical fault. -/
def LexicalFault.message : LexicalFault → String
  | .unexpectedCharacter c => "Unexpected character: " ++ shownChar (some c) ++ "."
  | .singleQuote =>
      "Unexpected single quote character ('), did you mean to use a double quote (\")?"
  | .twoDots => "Unexpected '..', did you mean '...'?"
  | .pointFirst digits =>
      "Invalid number, expected digit before '.', did you mean '0." ++ digits ++ "'?"
  | .afterZero c => "Invalid number, unexpected digit after 0: " ++ shownChar (some c) ++ "."
  | .noDigit found => "Invalid number, expected digit but got: " ++ shownChar found ++ "."
  | .unterminatedString => "Unterminated string."
  | .badEscape text => "Invalid character escape sequence: '" ++ text ++ "'."
  | .badUnicodeEscape text => "Invalid Unicode escape sequence: '" ++ text ++ "'."

/-- The wording of a fault. -/
def SyntaxFault.message : SyntaxFault → String
  | .lexical fault => fault.message
  | .expectedKind kind found => "Expected " ++ kind.text ++ ", found " ++ found.text ++ "."
  | .expectedKeyword word found => "Expected '" ++ word ++ "', found " ++ found.text ++ "."
  | .unexpected found => "Unexpected " ++ found.text ++ "."
  | .variableInConstant name => "Unexpected variable '$" ++ name ++ "' in constant value."
  | .reservedEnumValue found =>
      found.text ++ " is reserved and cannot be used for an enum value."
  | .descriptionOnShorthand =>
      "Unexpected description, descriptions are not supported on shorthand queries."
  | .strayDescription => "Unexpected description, only GraphQL definitions support descriptions."
  | .nestedTooDeeply => "Document is nested too deeply. Parsing aborted."

/-- The message of a syntax error, without its place. -/
def SyntaxError.message (e : SyntaxError) : String := "Syntax Error: " ++ e.fault.message

end QueryTypings.Graphql
