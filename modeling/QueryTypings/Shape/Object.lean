/-
  The type of the data that selections yield.

  An object has a member for every response key.  A member is optional if the key depends on a
  condition or the field may be null.  Selections of an abstract type yield one alternative for each
  possible type.

  Below the top level of an operation every object says which type it has: by the key under which
  `__typename` is selected, or else by an optional member of that name.
-/
import QueryTypings.Declaration.Scalar
import QueryTypings.Shape.Collect
import QueryTypings.Typescript.Statement

namespace QueryTypings.Shape

open QueryTypings.Graphql QueryTypings.Schema QueryTypings.Typescript QueryTypings.Declaration

/-- Why there is no type for some selections. -/
inductive Fault
  /-- A field is selected that the object does not have as its own. -/
  | unknownField (name : String)
  /-- A type is named that the schema does not have. -/
  | unknownType (name : String)
  /-- The schema has no type at which operations of this kind start. -/
  | noRoot (kind : OperationKind)
  /-- Fragments contain one another in a circle, so the selections never end. -/
  | endless
deriving Repr, BEq, DecidableEq

/-- What shapes are built from. -/
structure Setting where
  schema : Schema
  scalars : ScalarTypes
  fragments : OrderedMap Fragment

/-- A type inside its null mark, if it has one; `ofNamed` gives the type inside all lists. -/
def wrapped (s : Schema) (ofNamed : NamedType → Except Fault Ty) : TypeRef → Except Fault Ty
  | .nonNull t => wrapped s ofNamed t
  | .list t => do
      let item ← wrapped s ofNamed t
      return .array (if t.isNonNull then item else .orNull item)
  | .named n =>
      match s.type? n with
      | none => .error (.unknownType n)
      | some t => ofNamed t

/-- Marks a type as one that may be null, unless its reference excludes null. -/
def nullMarked (t : TypeRef) (type : Ty) : Ty := if t.isNonNull then type else .orNull type

/-- The type for selections of a named type; `object` gives the type of an object. -/
def selectionType (g : Setting) (object : NamedType → Except Fault Ty) (t : NamedType) :
    Except Fault Ty :=
  match t.parts with
  | .scalar => .ok (.name (scalarType g.scalars t.name))
  | .enum _ => .ok (.name t.name)
  | .input _ _ => .ok (.name t.name)
  | .object _ _ => object t
  | .interface _ _ => do return .alternatives (← (g.schema.possibleTypes t).mapM object)
  | .union _ => do return .alternatives (← (g.schema.possibleTypes t).mapM object)

/-- The member for a key; `object` gives the type of an object with given selections. -/
def keyMember (g : Setting) (object : List Selection → NamedType → Except Fault Ty)
    (parent : NamedType) (key : String) (e : Entry) : Except Fault Member :=
  if e.fieldName = "__typename" then
    .ok (.mk key e.conditional (.literal parent.name))
  else
    match parent.field? e.fieldName with
    | none => .error (.unknownField e.fieldName)
    | some f => do
        let type ← wrapped g.schema (selectionType g (object e.selections)) f.type
        return .mk key (!f.type.isNonNull || e.conditional) (nullMarked f.type type)

/-- The member that names the type of an object where no key does. -/
def typenameMembers (typename : Bool) (parent : NamedType) (fields : FieldMap) : List Member :=
  if typename && !fields.any fun p => p.2.fieldName == "__typename" then
    [.mk "__typename" true (.literal parent.name)]
  else []

/-- The type of an object with given selections.  The fuel bounds the depth to which fields are
    nested. -/
def objectType (g : Setting) : Nat → Bool → List Selection → NamedType → Except Fault Ty
  | 0, _, _, _ => .error .endless
  | fuel + 1, typename, selections, parent => do
      let fields := collect g.schema g.fragments parent false selections
      let members ← fields.mapM fun (key, e) => keyMember g (objectType g fuel true) parent key e
      return .object (typenameMembers typename parent fields ++ members)

/-! ## Depth -/

mutual

/-- The number of fields in a selection. -/
def fieldCount : Selection → Nat
  | .leaf _ => 1
  | .branch _ _ ss => fieldCounts ss + 1
  | .inline _ _ _ _ ss => fieldCounts ss
  | .spread _ _ _ => 0

/-- The number of fields in selections. -/
def fieldCounts : List Selection → Nat
  | [] => 0
  | s :: r => fieldCount s + fieldCounts r

end

/-- A bound for the depth of nested fields: unless fragments go round in a circle, every level
    passes another field of the selections or the fragments. -/
def depthBound (g : Setting) (selections : List Selection) : Nat :=
  fieldCounts selections
    + (g.fragments.map fun p => fieldCounts p.2.selections).foldl (· + ·) 0 + 1

/-- The type of what selections of a type yield. -/
def typeOfSelections (g : Setting) (t : NamedType) (selections : List Selection) :
    Except Fault Ty :=
  selectionType g (objectType g (depthBound g selections) true selections) t

/-- The type of what selections of an operation's root type yield. -/
def typeOfRoot (g : Setting) (root : NamedType) (selections : List Selection) : Except Fault Ty :=
  objectType g (depthBound g selections) false selections root

end QueryTypings.Shape
