/-
  Reading JSON text.

  The grammar is that of RFC 8259 with one addition: the words `NaN`, `Infinity` and `-Infinity`
  stand for values.  Control characters inside strings are refused.  An escaped pair of surrogates
  is one character; an unpaired one, which no text can hold, is read as U+FFFD.  Integers of too
  many digits and values that lie too deep are refused where they begin, whatever follows.

  Reading is by recursive descent over the characters.  Every step of the descent consumes at least
  one character, so the length of the text bounds the depth.
-/
import QueryTypings.Json.Basic
import QueryTypings.Text.Hex
import QueryTypings.Text.Integer

namespace QueryTypings.Json

open QueryTypings.Text

/-- What brackets hold. -/
inductive Bracket
  | array | object
deriving Repr, BEq, DecidableEq

/-- Why a text is not read. -/
inductive Fault
  | malformed
  | tooManyDigits (digits : Nat)
  /-- Brackets lie in too many others. -/
  | tooDeep (innermost : Bracket)
deriving Repr, BEq, DecidableEq

/-- The wording, where there is one. -/
def Fault.message : Fault → String
  | .malformed => ""
  | .tooManyDigits n => tooManyDigitsMessage n
  | .tooDeep .array =>
      "maximum recursion depth exceeded while decoding a JSON array from a unicode string"
  | .tooDeep .object =>
      "maximum recursion depth exceeded while decoding a JSON object from a unicode string"

/-- How many brackets may lie in one another. -/
def maxDepth : Nat := 985

/-- What reading gives: a result and what follows it. -/
abbrev Reading (α : Type) := Except Fault (α × List Char)

/-- The four characters that may stand between tokens. -/
def isJsonSpace (c : Char) : Bool := c == ' ' || c == '\t' || c == '\n' || c == '\r'

/-- Drops the space in front. -/
def skipSpace (cs : List Char) : List Char := cs.dropWhile isJsonSpace

/-- The unit that four hexadecimal digits write, and what follows. -/
def unit? : List Char → Option (Nat × List Char)
  | a :: b :: c :: d :: r => (readHex 0 [a, b, c, d]).map (·, r)
  | _ => none

/-- What the letter of a short escape stands for. -/
def shortEscape? : Char → Option Char
  | '"' => some '"'
  | '\\' => some '\\'
  | '/' => some '/'
  | 'b' => some '\x08'
  | 'f' => some '\x0c'
  | 'n' => some '\n'
  | 'r' => some '\r'
  | 't' => some '\t'
  | _ => none

/-- A unit that begins a surrogate pair. -/
def isHighUnit (n : Nat) : Bool := 0xd800 ≤ n && n < 0xdc00

/-- A unit that ends a surrogate pair. -/
def isLowUnit (n : Nat) : Bool := 0xdc00 ≤ n && n < 0xe000

/-- The character of a lone unit. -/
def unitChar (n : Nat) : Char :=
  if isHighUnit n || isLowUnit n then '\ufffd' else Char.ofNat n

/-- The characters of a string up to its closing quote, and what follows the quote.  `high?` holds
    the first half of a surrogate pair whose second half may come next. -/
def stringBody : Nat → Option Nat → List Char → Option (List Char × List Char)
  | 0, _, _ => none
  | n + 1, high?, cs =>
      let flush (rest : Option (List Char × List Char)) : Option (List Char × List Char) :=
        match high? with
        | some _ => rest.map fun p => ('\ufffd' :: p.1, p.2)
        | none => rest
      match cs with
      | [] => none
      | '"' :: r => flush (some ([], r))
      | '\\' :: 'u' :: r =>
          match unit? r with
          | none => none
          | some (u, r) =>
              match high?, isLowUnit u with
              | some h, true =>
                  (stringBody n none r).map fun p =>
                    (Char.ofNat (0x10000 + (h - 0xd800) * 0x400 + (u - 0xdc00)) :: p.1, p.2)
              | _, _ =>
                  if isHighUnit u then flush (stringBody n (some u) r)
                  else flush ((stringBody n none r).map fun p => (unitChar u :: p.1, p.2))
      | '\\' :: c :: r =>
          match shortEscape? c with
          | none => none
          | some d => flush ((stringBody n none r).map fun p => (d :: p.1, p.2))
      | c :: r =>
          if c = '\\' || c.toNat < 32 then none
          else flush ((stringBody n none r).map fun p => (c :: p.1, p.2))

/-- The digits in front, and what follows. -/
def digits (cs : List Char) : List Char × List Char :=
  (cs.takeWhile Char.isDigit, cs.dropWhile Char.isDigit)

/-- The fraction after the point, and what follows; no point, or no digit after it, is no
    fraction. -/
def fraction : List Char → List Char × List Char
  | '.' :: r =>
      match digits r with
      | ([], _) => ([], '.' :: r)
      | p => p
  | r => ([], r)

/-- The exponent, if there is one, and what follows. -/
def exponent (cs : List Char) : Option Int × List Char :=
  let unsigned (sign : Int) (r : List Char) : Option Int × List Char :=
    match digits r with
    | ([], _) => (none, cs)
    | (ds, rest) => (some (sign * digitsValue (plainValues ds)), rest)
  match cs with
  | c :: r =>
      if c = 'e' || c = 'E' then
        match r with
        | '-' :: s => unsigned (-1) s
        | '+' :: s => unsigned 1 s
        | s => unsigned 1 s
      else (none, cs)
  | [] => (none, cs)

/-- A number without its sign. -/
def unsignedNumber (sign : Int) (cs : List Char) : Reading Json :=
  let number (ds r : List Char) : Reading Json :=
    let (fs, r) := fraction r
    let (e, r) := exponent r
    if !fs.isEmpty || e.isSome then
      .ok (.decimal (sign * digitsValue (plainValues (ds ++ fs))) (e.getD 0 - fs.length), r)
    else if maxDigits < ds.length then .error (.tooManyDigits ds.length)
    else .ok (.int (sign * digitsValue (plainValues ds)), r)
  match cs with
  | '0' :: r => number ['0'] r
  | _ =>
      match digits cs with
      | ([], _) => .error .malformed
      | (ds, r) => number ds r

/-- What follows a given word. -/
def word? : List Char → List Char → Option (List Char)
  | [], r => some r
  | _ :: _, [] => none
  | w :: ws, c :: r => if w = c then word? ws r else none

/-- The value that a word stands for. -/
def word (w : String) (v : Json) (cs : List Char) : Reading Json :=
  match word? w.toList cs with
  | some r => .ok (v, r)
  | none => .error .malformed

/-- The values that are words, and numbers. -/
def scalar (cs : List Char) : Reading Json :=
  match cs with
  | 'n' :: _ => word "null" .null cs
  | 't' :: _ => word "true" (.bool true) cs
  | 'f' :: _ => word "false" (.bool false) cs
  | 'N' :: _ => word "NaN" (.nonFinite "NaN") cs
  | 'I' :: _ => word "Infinity" (.nonFinite "Infinity") cs
  | '-' :: 'I' :: _ => word "-Infinity" (.nonFinite "-Infinity") cs
  | '-' :: r => unsignedNumber (-1) r
  | _ => unsignedNumber 1 cs

/-- The string after an opening quote. -/
def quotedString (cs : List Char) : Reading String :=
  match stringBody (cs.length + 1) none cs with
  | some (body, r) => .ok (String.ofList body, r)
  | none => .error .malformed

mutual

/-- A value in front of the text, and what follows it.  It may hold `depth` brackets in one
    another. -/
def value (depth : Nat) : Nat → List Char → Reading Json
  | 0, _ => .error .malformed
  | n + 1, cs =>
      match cs, depth with
      | '"' :: r, _ => (quotedString r).map fun p => (.string p.1, p.2)
      | '[' :: _, 0 => .error (.tooDeep .array)
      | '\x7b' :: _, 0 => .error (.tooDeep .object)
      | '[' :: r, depth + 1 =>
          match skipSpace r with
          | ']' :: r => .ok (.array [], r)
          | r => (items depth n r).map fun p => (.array p.1, p.2)
      | '\x7b' :: r, depth + 1 =>
          match skipSpace r with
          | '\x7d' :: r => .ok (.object [], r)
          | r => (members depth n r).map fun p => (.object p.1, p.2)
      | _, _ => scalar cs

/-- The items up to the closing bracket, at least one. -/
def items (depth : Nat) : Nat → List Char → Reading (List Json)
  | 0, _ => .error .malformed
  | n + 1, cs =>
      match value depth n cs with
      | .error f => .error f
      | .ok (v, r) =>
          match skipSpace r with
          | ']' :: r => .ok ([v], r)
          | ',' :: r => (items depth n (skipSpace r)).map fun p => (v :: p.1, p.2)
          | _ => .error .malformed

/-- The members up to the closing brace, at least one. -/
def members (depth : Nat) : Nat → List Char → Reading (List (String × Json))
  | 0, _ => .error .malformed
  | n + 1, cs =>
      match cs with
      | '"' :: r =>
          match quotedString r with
          | .error f => .error f
          | .ok (k, r) =>
              match skipSpace r with
              | ':' :: r =>
                  match value depth n (skipSpace r) with
                  | .error f => .error f
                  | .ok (v, r) =>
                      match skipSpace r with
                      | '\x7d' :: r => .ok ([(k, v)], r)
                      | ',' :: r =>
                          (members depth n (skipSpace r)).map fun p => ((k, v) :: p.1, p.2)
                      | _ => .error .malformed
              | _ => .error .malformed
      | _ => .error .malformed

end

/-- The value that a text denotes; nothing but space may surround it. -/
def ofText (text : String) : Except Fault Json :=
  let cs := skipSpace text.toList
  match value maxDepth (2 * cs.length + 2) cs with
  | .error f => .error f
  | .ok (v, r) => if (skipSpace r).isEmpty then .ok v else .error .malformed

end QueryTypings.Json
