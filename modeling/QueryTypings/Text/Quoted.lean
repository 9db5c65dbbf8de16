/-
  Quoted text: how a message shows a string that a user gave.

  The text stands between single quotes, or between double quotes if it holds a single quote and no
  double one.  A backslash and the surrounding quote are escaped, so are line feed, carriage return
  and tab by their letters, and every other character that is not printable by its code in two, four
  or eight hexadecimal digits.
-/
import QueryTypings.Text.Printable
import QueryTypings.Text.Hex

namespace QueryTypings.Text

/-- One character inside the quotes `quote`. -/
def quoteChar (quote c : Char) : List Char :=
  if c = quote ∨ c = '\\' then ['\\', c]
  else if c = '\n' then ['\\', 'n']
  else if c = '\r' then ['\\', 'r']
  else if c = '\t' then ['\\', 't']
  else if isPrintable c then [c]
  else if c.toNat < 0x100 then '\\' :: 'x' :: hexFixed 2 c.toNat
  else if c.toNat < 0x10000 then '\\' :: 'u' :: hexFixed 4 c.toNat
  else '\\' :: 'U' :: hexFixed 8 c.toNat

/-- The quotes that are put around a text. -/
def quoteFor (cs : List Char) : Char := if '\'' ∈ cs ∧ '"' ∉ cs then '"' else '\''

/-- A text in quotes. -/
def quoted (s : String) : String :=
  let q := quoteFor s.toList
  String.ofList (q :: s.toList.flatMap (quoteChar q) ++ [q])

end QueryTypings.Text
