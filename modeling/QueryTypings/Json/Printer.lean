/-
  Compact JSON text.

  There is no blank between tokens, members stand in their order, and the text is ASCII: inside
  strings the quote, the backslash and the usual control characters have their short escapes, every
  other character outside U+0020 … U+007E is written as `\u` and four lower-case hexadecimal digits,
  two such units (a surrogate pair) above U+FFFF.
-/
import QueryTypings.Json.Basic
import QueryTypings.Text.Hex
import QueryTypings.Text.Lines

namespace QueryTypings.Json

open QueryTypings.Text

/-- A 16-bit unit as an escape. -/
def unitEscape (n : Nat) : List Char := '\\' :: 'u' :: hexFixed 4 n

/-- One character inside a string. -/
def escapeChar (c : Char) : List Char :=
  if c = '"' then ['\\', '"']
  else if c = '\\' then ['\\', '\\']
  else if c = '\n' then ['\\', 'n']
  else if c = '\r' then ['\\', 'r']
  else if c = '\t' then ['\\', 't']
  else if c = '\x0c' then ['\\', 'f']
  else if c = '\x08' then ['\\', 'b']
  else if 32 ≤ c.toNat ∧ c.toNat < 127 then [c]
  else if c.toNat < 0x10000 then unitEscape c.toNat
  else
    let v := c.toNat - 0x10000
    unitEscape (0xd800 + v / 0x400) ++ unitEscape (0xdc00 + v % 0x400)

/-- A string literal. -/
def renderString (s : String) : List Char := '"' :: s.toList.flatMap escapeChar ++ ['"']

/-- The decimal digits of an integer. -/
def renderInt (n : Int) : List Char := (toString n).toList

mutual

/-- The characters of a value's text. -/
def render : Json → List Char
  | .null => ['n', 'u', 'l', 'l']
  | .bool true => ['t', 'r', 'u', 'e']
  | .bool false => ['f', 'a', 'l', 's', 'e']
  | .int n => renderInt n
  | .decimal m e => renderInt m ++ 'e' :: renderInt e
  | .nonFinite word => word.toList
  | .string s => renderString s
  | .array items => '[' :: renderItems items ++ [']']
  | .object members => '\x7b' :: renderMembers members ++ ['\x7d']

/-- The items with commas between them. -/
def renderItems : List Json → List Char
  | [] => []
  | [v] => render v
  | v :: w :: r => render v ++ ',' :: renderItems (w :: r)

/-- The members with commas between them. -/
def renderMembers : List (String × Json) → List Char
  | [] => []
  | [(k, v)] => renderString k ++ ':' :: render v
  | (k, v) :: p :: r => renderString k ++ ':' :: (render v ++ ',' :: renderMembers (p :: r))

end

/-- The text of a value. -/
def toText (v : Json) : String := String.ofList (render v)

end QueryTypings.Json
