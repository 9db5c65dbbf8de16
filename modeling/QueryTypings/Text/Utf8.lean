/-
  UTF-8: octets to characters and back.

  Decoding is strict.  It stops at the first octet that cannot start or continue a character and
  says where the fault begins, how many octets it covers, and which of three faults it is.  Octets
  are natural numbers below 256; a file's text is what decoding its octets gives, with CR LF and a
  lone CR read as LF.
-/
import QueryTypings.Text.Hex

namespace QueryTypings.Text

/-- Why octets are not the encoding of a text. -/
inductive Utf8Fault
  /-- No character starts with this octet. -/
  | invalidStart
  /-- The octet after the faulty ones does not continue the character they start. -/
  | invalidContinuation
  /-- The octets end inside a character. -/
  | unexpectedEnd
deriving DecidableEq, Repr

/-- The first fault of a sequence of octets: its kind, the index of its first octet and the number
    of octets at fault. -/
structure Utf8Error where
  fault : Utf8Fault
  start : Nat
  size : Nat
  firstOctet : Nat
deriving DecidableEq, Repr

/-- How a message names the fault. -/
def Utf8Fault.message : Utf8Fault → String
  | .invalidStart => "invalid start byte"
  | .invalidContinuation => "invalid continuation byte"
  | .unexpectedEnd => "unexpected end of data"

/-- How a message names the first fault of a text, with its octets counted from zero. -/
def Utf8Error.message (e : Utf8Error) : String :=
  let which :=
    if e.size = 1 then
      "byte 0x" ++ String.ofList (hexFixed 2 e.firstOctet) ++ " in position " ++ toString e.start
    else "bytes in position " ++ toString e.start ++ "-" ++ toString (e.start + e.size - 1)
  "'utf-8' codec can't decode " ++ which ++ ": " ++ e.fault.message

/-- The octets of one character. -/
def encodeChar (c : Char) : List Nat :=
  let n := c.toNat
  if n < 0x80 then [n]
  else if n < 0x800 then [0xc0 + n / 0x40, 0x80 + n % 0x40]
  else if n < 0x10000 then [0xe0 + n / 0x1000, 0x80 + n / 0x40 % 0x40, 0x80 + n % 0x40]
  else [0xf0 + n / 0x40000, 0x80 + n / 0x1000 % 0x40, 0x80 + n / 0x40 % 0x40, 0x80 + n % 0x40]

/-- The octets of a text. -/
def encodeUtf8 (cs : List Char) : List Nat := cs.flatMap encodeChar

/-- What a first octet promises: the value of its own bits, and for each octet that must follow the
    least and the greatest it may be. -/
def promise? (b : Nat) : Option (Nat × List (Nat × Nat)) :=
  let tail := (0x80, 0xbf)
  if b < 0x80 then some (b, [])
  else if 0xc2 ≤ b ∧ b ≤ 0xdf then some (b - 0xc0, [tail])
  else if b = 0xe0 then some (0, [(0xa0, 0xbf), tail])
  else if b = 0xed then some (0xd, [(0x80, 0x9f), tail])
  else if 0xe1 ≤ b ∧ b ≤ 0xef then some (b - 0xe0, [tail, tail])
  else if b = 0xf0 then some (0, [(0x90, 0xbf), tail, tail])
  else if 0xf1 ≤ b ∧ b ≤ 0xf3 then some (b - 0xf0, [tail, tail, tail])
  else if b = 0xf4 then some (4, [(0x80, 0x8f), tail, tail])
  else none

/-- Decodes octets.  `index` counts the octets that are done; `pending` holds the index and the
    value of the first octet of a character under way, its bits so far and the bounds of the octets
    still owed. -/
def decodeFrom (index : Nat) (pending : Option (Nat × Nat × Nat × List (Nat × Nat))) :
    List Nat → Except Utf8Error (List Char)
  | [] =>
      match pending with
      | none => .ok []
      | some (start, first, _, _) => .error ⟨.unexpectedEnd, start, index - start, first⟩
  | b :: r =>
      match pending with
      | none =>
          match promise? b with
          | none => .error ⟨.invalidStart, index, 1, b⟩
          | some (bits, []) => (decodeFrom (index + 1) none r).map (Char.ofNat bits :: ·)
          | some (bits, owed) => decodeFrom (index + 1) (some (index, b, bits, owed)) r
      | some (_, _, _, []) => .error ⟨.invalidStart, index, 1, b⟩
      | some (start, first, bits, (low, high) :: owed) =>
          if low ≤ b ∧ b ≤ high then
            match owed with
            | [] =>
                (decodeFrom (index + 1) none r).map (Char.ofNat (bits * 0x40 + (b - 0x80)) :: ·)
            | more => decodeFrom (index + 1) (some (start, first, bits * 0x40 + (b - 0x80), more)) r
          else .error ⟨.invalidContinuation, start, index - start, first⟩

/-- The text that octets encode. -/
def decodeUtf8 (octets : List Nat) : Except Utf8Error (List Char) := decodeFrom 0 none octets

/-- Reads every line break as LF. -/
def universalNewlines : List Char → List Char
  | [] => []
  | '\r' :: '\n' :: r => '\n' :: universalNewlines r
  | '\r' :: r => '\n' :: universalNewlines r
  | c :: r => c :: universalNewlines r

/-- The text of a file. -/
def fileText (octets : List Nat) : Except Utf8Error String :=
  (decodeUtf8 octets).map fun cs => String.ofList (universalNewlines cs)

end QueryTypings.Text
