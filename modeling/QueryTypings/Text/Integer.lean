/-
  Integers as text.

  An integer may be written in the digits of any script, or in plain ones.  Both may be surrounded
  by white space, may be signed and may hold single underscores between digits.  A plain integer may
  also end in a fraction of zeros.

  Only so many digits are read.  The ten digits of a script stand in a row, so the table of them lists
  the zeros alone.
-/
import QueryTypings.Text.Blank

namespace QueryTypings.Text

/-! ## Digits -/

/-- The zero of every row of decimal digits (category Nd, version 14). -/
def digitZeros : List Nat := [
  0x30, 0x660, 0x6f0, 0x7c0, 0x966, 0x9e6, 0xa66, 0xae6, 0xb66, 0xbe6, 0xc66, 0xce6, 0xd66, 0xde6,
  0xe50, 0xed0, 0xf20, 0x1040, 0x1090, 0x17e0, 0x1810, 0x1946, 0x19d0, 0x1a80, 0x1a90, 0x1b50,
  0x1bb0, 0x1c40, 0x1c50, 0xa620, 0xa8d0, 0xa900, 0xa9d0, 0xa9f0, 0xaa50, 0xabf0, 0xff10, 0x104a0,
  0x10d30, 0x11066, 0x110f0, 0x11136, 0x111d0, 0x112f0, 0x11450, 0x114d0, 0x11650, 0x116c0,
  0x11730, 0x118e0, 0x11950, 0x11c50, 0x11d50, 0x11da0, 0x16a60, 0x16ac0, 0x16b50, 0x1d7ce,
  0x1d7d8, 0x1d7e2, 0x1d7ec, 0x1d7f6, 0x1e140, 0x1e2f0, 0x1e950, 0x1fbf0]

/-- The value of a decimal digit of any script. -/
def digitValue? (c : Char) : Option Nat :=
  (digitZeros.find? fun z => Nat.ble z c.toNat && Nat.blt c.toNat (z + 10)).map (c.toNat - ·)

/-- The greatest number of digits of an integer that is read from text. -/
def maxDigits : Nat := 4300

/-- The message about an integer of too many digits. -/
def tooManyDigitsMessage (digits : Nat) : String :=
  "Exceeds the limit (" ++ toString maxDigits
    ++ " digits) for integer string conversion: value has " ++ toString digits
    ++ " digits; use sys.set_int_max_str_digits() to increase the limit"

/-! ## Integers -/

/-- Why a text gives no integer. -/
inductive IntegerFault
  | malformed
  | tooManyDigits (digits : Nat)
deriving Repr, BEq, DecidableEq

/-- A text without the white space around it. -/
def trimSpace (cs : List Char) : List Char := dropEndWhile isSpace (cs.dropWhile isSpace)

/-- The number that digits write. -/
def digitsValue (ds : List Nat) : Nat := ds.foldl (fun n d => n * 10 + d) 0

/-! ### In digits of any script -/

/-- The underscores stand one by one between other characters; `after` says that another character
    came last. -/
def isSeparated (after : Bool) : List Char → Bool
  | [] => after
  | '_' :: r => after && isSeparated false r
  | _ :: r => isSeparated true r

/-- The number that a text without sign writes.  Too many digits are a fault whatever follows
    them. -/
def readUnsigned (cs : List Char) : Except IntegerFault Nat :=
  let isRun (c : Char) : Bool := c == '_' || (digitValue? c).isSome
  let run := cs.takeWhile isRun
  let ds := run.filterMap digitValue?
  if !isSeparated false run then .error .malformed
  else if maxDigits < ds.length then .error (.tooManyDigits ds.length)
  else if (cs.dropWhile isRun).isEmpty then .ok (digitsValue ds)
  else .error .malformed

/-- The integer that a text writes in the digits of any script. -/
def readInteger (s : String) : Except IntegerFault Int :=
  match trimSpace s.toList with
  | '-' :: r => (readUnsigned r).map fun n => -(n : Int)
  | '+' :: r => (readUnsigned r).map Int.ofNat
  | r => (readUnsigned r).map Int.ofNat

/-! ### In plain digits -/

/-- The values of plain digits. -/
def plainValues (cs : List Char) : List Nat := cs.map fun c => c.toNat - 48

/-- The integer that a text writes in standard form: a minus or nothing, and digits without a zero
    in front.  The minus counts as a digit, and too many are a fault whatever follows them.  -/
def readStandard (cs : List Char) : Except IntegerFault Int :=
  let (sign, r) : Int × List Char := match cs with
    | '-' :: r => (-1, r)
    | r => (1, r)
  let rest := r.dropWhile Char.isDigit
  match r.takeWhile Char.isDigit with
  | [] => .error .malformed
  | ['0'] => if rest.isEmpty then .ok 0 else .error .malformed
  | '0' :: _ => .error .malformed
  | ds =>
      let length := cs.length - rest.length
      if maxDigits < length then .error (.tooManyDigits length)
      else if rest.isEmpty then .ok (sign * digitsValue (plainValues ds))
      else .error .malformed

/-- Goes on after a zero in front of a number, past zeros and underscores.  The last of them is kept
    where nothing follows, or a fraction. -/
def pastZeros (last : Char) : List Char → Option (List Char)
  | [] => some [last]
  | c :: r =>
      if c = '0' || c = '_' then pastZeros c r
      else if c.isDigit || c = '-' then some (c :: r)
      else if c = '.' then some (last :: c :: r)
      else none

/-- A number without the zeros in front; a minus may stand before them or after them. -/
def withoutZeros? (cs : List Char) : Option (List Char) :=
  let front := match cs with
    | '0' :: r => pastZeros '0' r
    | c :: r => if c.isDigit || c = '-' then some (c :: r) else none
    | [] => none
  match front with
  | some ('-' :: '0' :: r) => (pastZeros '0' r).map ('-' :: ·)
  | other => other

/-- Drops a decimal point with zeros behind it. -/
def dropZeroFraction (cs : List Char) : List Char :=
  match cs.dropWhile (· != '.') with
  | _ :: d :: r => if (d :: r).all (· == '0') then cs.takeWhile (· != '.') else cs
  | _ => cs

/-- Drops underscores, if they stand one by one and not at an end. -/
def dropUnderscores (cs : List Char) : List Char :=
  if isSeparated false cs then cs.filter (· != '_') else cs

/-- A number without the blanks around it and without a plus. -/
def withoutPlus? (cs : List Char) : Option (List Char) :=
  match trimSpace cs with
  | '+' :: '-' :: _ => none
  | '+' :: r => some r
  | r => some r

/-- The standard form of a plain integer. -/
def standardForm? (cs : List Char) : Option (List Char) :=
  ((withoutPlus? cs).bind withoutZeros?).map fun r => dropUnderscores (dropZeroFraction r)

/-- The integer that a text writes in plain digits.  Only a text in standard form is told to have
    too many of them.  -/
def readPlainInteger (s : String) : Except IntegerFault Int :=
  match readStandard s.toList with
  | .error .malformed =>
      match (standardForm? s.toList).map readStandard with
      | some (.ok n) => .ok n
      | _ => .error .malformed
  | found => found

end QueryTypings.Text
