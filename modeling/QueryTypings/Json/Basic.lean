/-
  JSON values.

  Objects keep their members in order.  Numbers are exact: an integer, or a decimal fraction
  `mantissa · 10 ^ exponent` as it was written, or one of the three words for what is no number.
-/
import QueryTypings.OrderedMap

namespace QueryTypings

/-- A JSON value. -/
inductive Json
  | null
  | bool (b : Bool)
  | int (n : Int)
  | decimal (mantissa : Int) (exponent : Int)
  | nonFinite (word : String)
  | string (s : String)
  | array (items : List Json)
  | object (members : List (String × Json))
deriving Repr, BEq, Inhabited

namespace Json

/-- The last member of an object with a given name. -/
def member? (name : String) : Json → Option Json
  | .object members => OrderedMap.get? name (members.reverse)
  | _ => none

/-- The text of a string. -/
def string? : Json → Option String
  | .string s => some s
  | _ => none

/-- The items of an array. -/
def array? : Json → Option (List Json)
  | .array items => some items
  | _ => none

/-- The members of an object, a repeated name standing once, with its last value. -/
def object? : Json → Option (OrderedMap Json)
  | .object members => some (OrderedMap.ofPairs members)
  | _ => none

end Json

end QueryTypings
