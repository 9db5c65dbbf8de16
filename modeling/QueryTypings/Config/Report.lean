/-
  The report about settings that are not valid.

  For every violation it tells where it is, what is wrong and what was given.  Of a long value only
  the beginning and the end are shown.
-/
import QueryTypings.Binary64
import QueryTypings.Config.Settings
import QueryTypings.Text.Blank
import QueryTypings.Text.Quoted

namespace QueryTypings.Config

open QueryTypings.Text

/-! ## Numbers -/

/-- The digits of a fraction around its point, which stands behind the first `whole` of them. -/
def shownPositional (digits : List Char) (whole : Int) : List Char :=
  if whole ≤ 0 then '0' :: '.' :: (List.replicate whole.natAbs '0' ++ digits)
  else
    let front := digits ++ List.replicate (whole.toNat - digits.length) '0'
    let behind := digits.drop whole.toNat
    front.take whole.toNat ++ '.' :: (if behind.isEmpty then ['0'] else behind)

/-- The digits of a fraction with the power of ten of the first of them, which has two digits. -/
def shownScientific (digits : List Char) (power : Int) : List Char :=
  let size := (toString power.natAbs).toList
  digits.take 1 ++ (if digits.length ≤ 1 then [] else '.' :: digits.drop 1) ++ 'e'
    :: (if power < 0 then '-' else '+') :: (List.replicate (2 - size.length) '0' ++ size)

/-- A fraction as a report shows it: with the fewest digits that read back, and with a power of ten
    if it is below `10 ^ -4` or has more than sixteen digits in front of the point. -/
def shownFraction (mantissa exponent : Int) : String :=
  let sign := if mantissa < 0 then "-" else ""
  match Binary64.ofDecimal? mantissa.natAbs exponent with
  | none => sign ++ "inf"
  | some x =>
      let (n, e) := x.shortest
      let written := (toString n).toList
      let whole := written.length + e
      let digits := dropEndWhile (· == '0') written
      if n = 0 then sign ++ "0.0"
      else if -4 < whole && whole ≤ 16 then sign ++ String.ofList (shownPositional digits whole)
      else sign ++ String.ofList (shownScientific digits (whole - 1))

/-- A word for what is no number as a report shows it. -/
def shownNonFinite (word : String) : String :=
  if word == "NaN" then "nan" else if word == "Infinity" then "inf" else "-inf"

/-! ## Values -/

mutual

/-- A value as a report shows it. -/
def shownValue : Json → String
  | .null => "None"
  | .bool true => "True"
  | .bool false => "False"
  | .int n => toString n
  | .decimal m e => shownFraction m e
  | .nonFinite word => shownNonFinite word
  | .string s => quoted s
  | .array items => "[" ++ joinWith ", " (shownValues items) ++ "]"
  | .object members => "\x7b" ++ joinWith ", " (shownMembers members) ++ "\x7d"

/-- Values as a report shows them. -/
def shownValues : List Json → List String
  | [] => []
  | v :: r => shownValue v :: shownValues r

/-- The members of an object as a report shows them. -/
def shownMembers : List (String × Json) → List String
  | [] => []
  | (name, v) :: r => (quoted name ++ ": " ++ shownValue v) :: shownMembers r

end

/-- A list of extensions as a report shows it. -/
def shownExtensions : Json → String
  | .array [v] => "(" ++ shownValue v ++ ",)"
  | .array items => "(" ++ joinWith ", " (shownValues items) ++ ")"
  | v => shownValue v

/-- The most octets of a value that are shown. -/
def shownOctets : Nat := 50

/-- The longest beginning of a text that has no more than so many octets. -/
def octetPrefix (limit : Nat) : List Char → List Char
  | [] => []
  | c :: r => if c.utf8Size ≤ limit then c :: octetPrefix (limit - c.utf8Size) r else []

/-- A text, cut in the middle if it is too long. -/
def abridged (s : String) : String :=
  if s.utf8ByteSize ≤ shownOctets then s
  else
    let half := shownOctets / 2
    String.ofList (octetPrefix half s.toList) ++ "..."
      ++ String.ofList (octetPrefix (half - 1) s.toList.reverse).reverse

/-- The kind of a value, in words. -/
def kindName : Json → String
  | .null => "NoneType"
  | .bool _ => "bool"
  | .int _ => "int"
  | .decimal _ _ | .nonFinite _ => "float"
  | .string _ => "str"
  | .array _ => "list"
  | .object _ => "dict"

/-! ## Violations -/

/-- The report about one violation. -/
def Violation.report (v : Violation) : String :=
  let step : Step → String
    | .setting s => s
    | .index i => toString i
  let (value, kind) := match v.problem with
    | .extension _ => (shownExtensions v.given, "tuple")
    | _ => (shownValue v.given, kindName v.given)
  joinWith "." (v.problem.location.map step) ++ "\n  " ++ v.problem.message ++ " [type="
    ++ v.problem.code ++ ", input_value=" ++ abridged value ++ ", input_type="
    ++ kind ++ "]"

/-- The report about all violations. -/
def violationReport (vs : List Violation) : String :=
  toString vs.length ++ " validation error" ++ (if vs.length = 1 then "" else "s") ++ "\n"
    ++ joinWith "\n" (vs.map Violation.report)

end QueryTypings.Config
