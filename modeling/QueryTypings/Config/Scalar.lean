/-
  Scalar mappings on the command line.

  An entry `NAME=TYPE` is cut at its first equals sign, and both sides are trimmed.  A later entry
  for a name replaces an earlier one.
-/
import QueryTypings.OrderedMap
import QueryTypings.Text.Blank
import QueryTypings.Text.Quoted

namespace QueryTypings.Config

open QueryTypings.Text

/-- An entry without an equals sign, or with nothing on one side of it. -/
structure MalformedScalar where
  entry : String
deriving Repr, BEq, DecidableEq

/-- The wording. -/
def MalformedScalar.message (m : MalformedScalar) : String :=
  "Expected NAME=TSTYPE, got " ++ quoted m.entry

/-- The two sides of an entry. -/
def scalarEntry? (entry : String) : Option (String × String) :=
  let cs := entry.toList
  let name := trim (cs.takeWhile (· != '='))
  match cs.dropWhile (· != '=') with
  | [] => none
  | _ :: r =>
      let type := trim r
      if name.isEmpty || type.isEmpty then none else some (String.ofList name, String.ofList type)

/-- Adds entries to a mapping; the first malformed one is reported. -/
def addScalars : List String → OrderedMap String → Except MalformedScalar (OrderedMap String)
  | [], m => .ok m
  | e :: r, m =>
      match scalarEntry? e with
      | some (name, type) => addScalars r (OrderedMap.put name type m)
      | none => .error ⟨e⟩

/-- The mapping that entries describe; without any entry there is none. -/
def scalarsOfEntries (entries : List String) :
    Except MalformedScalar (Option (OrderedMap String)) :=
  match entries with
  | [] => .ok none
  | _ => (addScalars entries []).map some

end QueryTypings.Config
