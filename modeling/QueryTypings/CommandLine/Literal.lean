/-
  Literal values.

  The parameters of a tag that handles events are literal values: numbers, strings, octets, the
  words `True`, `False`, `None` and three dots, tuples, sets and mappings.  A number may be signed,
  and an imaginary one may be added to a real one.  Here it is only asked whether a text writes such
  a value.

  Lists do not occur, since a tag holds no bracket.
-/
import QueryTypings.Text.Integer
import QueryTypings.Text.Hex
import QueryTypings.Text.Word

namespace QueryTypings.CommandLine.Literal

open QueryTypings.Text

/-! ## Marks -/

/-- A mark of a text. -/
inductive Mark
  | number (imaginary : Bool)
  | string (octets : Bool)
  | constant
  | set
  | sign
  | sharp (c : Char)
deriving Repr, BEq, DecidableEq

/-- Drops digits, with single underscores between them; there is at least one. -/
def pastDigits? (isDigit : Char → Bool) : List Char → Option (List Char)
  | [] => none
  | c :: r =>
      if isDigit c then
        match r with
        | '_' :: d :: s => if isDigit d then pastDigits? isDigit (d :: s) else some r
        | d :: s => if isDigit d then pastDigits? isDigit (d :: s) else some r
        | [] => some r
      else none

/-- Drops digits, if there are any. -/
def pastDigits (cs : List Char) : List Char := (pastDigits? Char.isDigit cs).getD cs

/-- Drops an exponent, if there is one. -/
def pastExponent (cs : List Char) : List Char :=
  match cs with
  | c :: r =>
      let unsigned := match r with
        | '+' :: s => s
        | '-' :: s => s
        | s => s
      if c = 'e' || c = 'E' then (pastDigits? Char.isDigit unsigned).getD cs else cs
  | [] => []

/-- The number in front of a text that begins with a digit or a point.  A whole number does not
    begin with a zero, unless it is zero, and has only so many digits. -/
def decimal? (cs : List Char) : Option (Mark × List Char) :=
  let whole := pastDigits cs
  let rest := match whole with
    | '.' :: r => pastExponent (pastDigits r)
    | r => pastExponent r
  let written := cs.take (cs.length - rest.length)
  match rest with
  | 'j' :: r | 'J' :: r => some (.number true, r)
  | r =>
      let isWhole := whole.length == rest.length
      let digits := written.filter fun c => c != '_'
      let zeros := digits.all fun c => c == '0'
      if isWhole && !zeros && (written.head? == some '0' || maxDigits < digits.length) then none
      else some (.number false, r)

/-- The number in front of a text. -/
def number? (cs : List Char) : Option (Mark × List Char) :=
  let based (isDigit : Char → Bool) (r : List Char) : Option (Mark × List Char) :=
    let digits := match r with
      | '_' :: s => s
      | s => s
    (pastDigits? isDigit digits).map (.number false, ·)
  let found := match cs with
    | '0' :: 'x' :: r | '0' :: 'X' :: r => based (fun c => (hexValue? c).isSome) r
    | '0' :: 'o' :: r | '0' :: 'O' :: r => based (fun c => '0' ≤ c && c ≤ '7') r
    | '0' :: 'b' :: r | '0' :: 'B' :: r => based (fun c => c == '0' || c == '1') r
    | _ => decimal? cs
  found.filter fun p => !(p.2.head?.any fun c => isWord c || c == '.')

/-- The code point that so many hexadecimal digits write, and what follows. -/
def escapedPoint? (count : Nat) (cs : List Char) : Option (List Char) :=
  let ds := cs.take count
  match readHex 0 ds with
  | some n => if ds.length = count && n ≤ 0x10ffff then some (cs.drop count) else none
  | none => none

/-- Drops a string up to the quotes that close it; `fuel` is no less than its length. -/
def pastString? (raw octets : Bool) (quotes : List Char) : Nat → List Char → Option (List Char)
  | 0, _ => none
  | fuel + 1, cs =>
      if quotes.isPrefixOf cs then some (cs.drop quotes.length)
      else match cs with
        | [] => none
        | ['\\'] => none
        | '\\' :: c :: r =>
            let escaped := if raw then some r
              else match c with
                | 'x' => escapedPoint? 2 r
                | 'u' => if octets then some r else escapedPoint? 4 r
                | 'U' => if octets then some r else escapedPoint? 8 r
                | 'N' => if octets then some r else none
                | _ => some r
            if octets && 128 ≤ c.toNat then none
            else escaped.bind (pastString? raw octets quotes fuel)
        | c :: r =>
            if (c = '\n' && quotes.length = 1) || (octets && 128 ≤ c.toNat) then none
            else pastString? raw octets quotes fuel r

/-- The string in front of a text, behind the letters that may introduce one. -/
def string? (letters cs : List Char) : Option (Mark × List Char) :=
  let kind : Option (Bool × Bool) := match String.ofList (letters.map Char.toLower) with
    | "" | "u" => some (false, false)
    | "r" => some (true, false)
    | "b" => some (false, true)
    | "br" | "rb" => some (true, true)
    | _ => none
  let quotes := match cs with
    | a :: b :: c :: _ => if a = b && b = c then [a, b, c] else [a]
    | cs => cs.take 1
  kind.bind fun (raw, octets) =>
    (pastString? raw octets quotes (cs.length + 1) (cs.drop quotes.length)).map
      (.string octets, ·)

/-- The name in front of a text, or the string that it introduces. -/
def name? (cs : List Char) : Option (Mark × List Char) :=
  let name := cs.takeWhile isWord
  let rest := cs.dropWhile isWord
  match rest, String.ofList name with
  | '"' :: _, _ | '\'' :: _, _ => string? name rest
  | _, "True" | _, "False" | _, "None" => some (.constant, rest)
  | _, "set" => some (.set, rest)
  | _, _ => none

/-- The mark in front of a text, which is not empty. -/
def mark? (cs : List Char) : Option (Mark × List Char) :=
  match cs with
  | '.' :: '.' :: '.' :: r => some (.constant, r)
  | '.' :: d :: _ => if d.isDigit then number? cs else none
  | c :: r =>
      if c.isDigit then number? cs
      else if c = '+' || c = '-' then some (.sign, r)
      else if ['(', ')', '\x7b', '\x7d', ',', ':'].contains c then some (.sharp c, r)
      else name? cs
  | [] => none

/-- The marks of a text; `fuel` is no less than its length. -/
def marks? : Nat → List Char → Option (List Mark)
  | _, [] => some []
  | 0, _ => none
  | fuel + 1, c :: r =>
      if c = ' ' || c = '\t' || c = '\x0c' then marks? fuel r
      else (mark? (c :: r)).bind fun (m, rest) => (marks? fuel rest).map (m :: ·)

/-- The greatest number of brackets that may be open at once. -/
def maxOpen : Nat := 200

/-- Brackets are never open beyond `room` further ones. -/
def staysWithin (room : Nat) : List Mark → Bool
  | [] => true
  | .sharp '(' :: r | .sharp '\x7b' :: r => 0 < room && staysWithin (room - 1) r
  | .sharp ')' :: r | .sharp '\x7d' :: r => staysWithin (room + 1) r
  | _ :: r => staysWithin room r

/-! ## Values -/

/-- What kind of value there is. -/
inductive Kind
  | real | imaginary | signedReal | signedImaginary
  /-- Any other value that can be a member of a set. -/
  | member
  /-- A value that cannot. -/
  | noMember
deriving Repr, BEq, DecidableEq

/-- The kind of a tuple of values. -/
def tupleKind (kinds : List Kind) : Kind := if kinds.contains .noMember then .noMember else .member

/-- Drops strings of one sort. -/
def pastStrings? (octets : Bool) : List Mark → Option (List Mark)
  | .string o :: r => if o = octets then pastStrings? octets r else none
  | r => some r

mutual

/-- A value without a sign, and what follows it. -/
def primary? : Nat → List Mark → Option (Kind × List Mark)
  | 0, _ => none
  | fuel + 1, ms =>
      match ms with
      | .number imaginary :: r => some (if imaginary then .imaginary else .real, r)
      | .string octets :: r => (pastStrings? octets r).map (.member, ·)
      | .constant :: r => some (.member, r)
      | .set :: .sharp '(' :: .sharp ')' :: r => some (.noMember, r)
      | .sharp '(' :: .sharp ')' :: r => some (.member, r)
      | .sharp '(' :: r =>
          match several? fuel r with
          | some (k, .sharp ')' :: r) => some (k, r)
          | _ => none
      | .sharp '\x7b' :: .sharp '\x7d' :: r => some (.noMember, r)
      | .sharp '\x7b' :: r =>
          match entry? fuel r with
          | some (mapping, r) => (entries? fuel mapping r).map (.noMember, ·)
          | none => none
      | _ => none

/-- A value, and what follows it. -/
def value? : Nat → List Mark → Option (Kind × List Mark)
  | 0, _ => none
  | fuel + 1, ms =>
      let first : Option (Kind × List Mark) := match ms with
        | .sign :: r =>
            match primary? fuel r with
            | some (.real, r) => some (.signedReal, r)
            | some (.imaginary, r) => some (.signedImaginary, r)
            | _ => none
        | ms => primary? fuel ms
      match first with
      | some (k, .sign :: r) =>
          match k, primary? fuel r with
          | .real, some (.imaginary, r) | .signedReal, some (.imaginary, r) => some (.member, r)
          | _, _ => none
      | first => first

/-- One value, or several with commas between them, which make a tuple. -/
def several? : Nat → List Mark → Option (Kind × List Mark)
  | 0, _ => none
  | fuel + 1, ms =>
      match value? fuel ms with
      | some (k, .sharp ',' :: r) =>
          match r with
          | [] => some (tupleKind [k], [])
          | .sharp ')' :: _ => some (tupleKind [k], r)
          | _ => (several? fuel r).map fun p => (tupleKind [k, p.1], p.2)
      | found => found

/-- A member of a set, or a key with its value; says which, and what follows. -/
def entry? : Nat → List Mark → Option (Bool × List Mark)
  | 0, _ => none
  | fuel + 1, ms =>
      match value? fuel ms with
      | some (.noMember, _) => none
      | some (_, .sharp ':' :: r) => (value? fuel r).map fun p => (true, p.2)
      | some (_, r) => some (false, r)
      | none => none

/-- What follows further entries of one sort and the brace that closes them. -/
def entries? : Nat → Bool → List Mark → Option (List Mark)
  | 0, _, _ => none
  | fuel + 1, mapping, ms =>
      match ms with
      | .sharp '\x7d' :: r => some r
      | .sharp ',' :: .sharp '\x7d' :: r => some r
      | .sharp ',' :: r =>
          match entry? fuel r with
          | some (m, r) => if m = mapping then entries? fuel mapping r else none
          | none => none
      | _ => none

end

/-- The text writes a value. -/
def isLiteral (cs : List Char) : Bool :=
  match marks? (cs.length + 1) cs with
  | none => false
  | some ms =>
      staysWithin maxOpen ms && match several? (4 * ms.length + 4) ms with
        | some (_, []) => true
        | _ => false

end QueryTypings.CommandLine.Literal
