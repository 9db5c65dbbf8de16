/-
  Schemas: named types with their parts, root types and directives.

  Types refer to one another by name; a reference is a name wrapped in lists and non-null marks.
  Types are kept in one list, whose order shows in the order of complaints about a schema and in the
  order of the possible types of an interface; of two types with one name the first counts, and a
  schema that has been checked has no two.
-/
import QueryTypings.Graphql.Document

namespace QueryTypings.Schema

open QueryTypings.Graphql

/-! ## References to types -/

/-- A type as a field, an argument or a variable refers to it. -/
inductive TypeRef
  | named (name : String)
  | list (item : TypeRef)
  | nonNull (type : TypeRef)
deriving DecidableEq, Repr, BEq, Inhabited

namespace TypeRef

/-- The reference as it is written. -/
def text : TypeRef → String
  | .named n => n
  | .list t => "[" ++ t.text ++ "]"
  | .nonNull t => t.text ++ "!"

/-- The name inside all wrappers. -/
def base : TypeRef → String
  | .named n => n
  | .list t => t.base
  | .nonNull t => t.base

/-- The reference without an outer non-null mark. -/
def nullable : TypeRef → TypeRef
  | .nonNull t => t
  | t => t

/-- Null is no value of the type. -/
def isNonNull : TypeRef → Bool
  | .nonNull _ => true
  | _ => false

/-- The reference that a document writes. -/
def ofNode : TypeNode → TypeRef
  | .named n => .named n.text
  | .list t _ => .list (ofNode t)
  | .nonNull t => .nonNull (ofNode t)

end TypeRef

/-! ## Schemas -/

/-- An argument or an input field. -/
structure Input where
  name : String
  description : Option String
  type : TypeRef
  /-- The default value that the schema text gives. -/
  default? : Option Value
  deprecated : Bool
  /-- A caller of the library has marked the input as one that may be left out. -/
  markedOptional : Bool
deriving Repr, BEq, Inhabited

/-- The input has to be given: null is no value of it, and it has no default value. -/
def Input.isRequired (i : Input) : Bool := i.type.isNonNull && i.default?.isNone

/-- A field of an object or an interface. -/
structure Field where
  name : String
  description : Option String
  arguments : List Input
  type : TypeRef
  deprecated : Bool
deriving Repr, BEq, Inhabited

/-- The argument of a given name. -/
def Field.argument? (f : Field) (name : String) : Option Input :=
  f.arguments.find? fun a => a.name == name

/-- The parts of a type, by its kind. -/
inductive Parts
  | scalar
  | object (interfaces : List String) (fields : List Field)
  | interface (interfaces : List String) (fields : List Field)
  | union (members : List String)
  | enum (values : List String)
  | input (fields : List Input) (oneOf : Bool)
deriving Repr, BEq, Inhabited

/-- A named type. -/
structure NamedType where
  name : String
  description : Option String
  parts : Parts
deriving Repr, BEq, Inhabited

namespace NamedType

/-- The fields of an object or an interface. -/
def fields (t : NamedType) : List Field :=
  match t.parts with
  | .object _ fs => fs
  | .interface _ fs => fs
  | _ => []

/-- The interfaces that an object or an interface names. -/
def interfaces (t : NamedType) : List String :=
  match t.parts with
  | .object is _ => is
  | .interface is _ => is
  | _ => []

/-- The field of a given name. -/
def field? (t : NamedType) (name : String) : Option Field :=
  t.fields.find? fun f => f.name == name

/-- The fields of an input object. -/
def inputFields (t : NamedType) : List Input :=
  match t.parts with
  | .input fs _ => fs
  | _ => []

def isScalar (t : NamedType) : Bool := t.parts matches .scalar
def isObject (t : NamedType) : Bool := t.parts matches .object _ _
def isInterface (t : NamedType) : Bool := t.parts matches .interface _ _
def isUnion (t : NamedType) : Bool := t.parts matches .union _
def isEnum (t : NamedType) : Bool := t.parts matches .enum _
def isInputObject (t : NamedType) : Bool := t.parts matches .input _ _

/-- Values of an abstract type are values of one of its possible types. -/
def isAbstract (t : NamedType) : Bool := t.isInterface || t.isUnion

/-- A composite type has subfields. -/
def isComposite (t : NamedType) : Bool := t.isObject || t.isAbstract

/-- A leaf type has none, and values of its own. -/
def isLeaf (t : NamedType) : Bool := t.isScalar || t.isEnum

/-- The type may stand for an argument or a variable. -/
def isInput (t : NamedType) : Bool := t.isLeaf || t.isInputObject

/-- The type may stand for a field. -/
def isOutput (t : NamedType) : Bool := t.isLeaf || t.isComposite

end NamedType

/-- A directive that documents may use. -/
structure DirectiveInfo where
  name : String
  arguments : List Input
  repeatable : Bool
  locations : List String
deriving Repr, BEq, Inhabited

end Schema

open QueryTypings.Graphql QueryTypings.Schema in
/-- A schema. -/
structure Schema where
  types : List Schema.NamedType
  query : Option String
  mutation : Option String
  subscription : Option String
  directives : List Schema.DirectiveInfo
deriving Repr, BEq, Inhabited

namespace Schema

open QueryTypings.Graphql

/-- The type of a given name. -/
def type? (s : Schema) (name : String) : Option NamedType :=
  s.types.find? fun t => t.name == name

/-- The name of the type at which an operation starts. -/
def root? (s : Schema) : OperationKind → Option String
  | .query => s.query
  | .mutation => s.mutation
  | .subscription => s.subscription

/-- The directive of a given name. -/
def directive? (s : Schema) (name : String) : Option DirectiveInfo :=
  s.directives.find? fun d => d.name == name

/-- The named type inside the wrappers of a reference. -/
def baseType? (s : Schema) (t : TypeRef) : Option NamedType := s.type? t.base

/-! ## Possible types and subtypes -/

/-- The object types whose values a type may have: of an interface, the objects that implement it,
    in the order of the schema; of a union, its members in their order. -/
def possibleTypes (s : Schema) (t : NamedType) : List NamedType :=
  match t.parts with
  | .union members => members.filterMap s.type?
  | .interface _ _ => s.types.filter fun o => o.isObject && o.interfaces.contains t.name
  | _ => []

/-- Values of `sub` are values of the abstract type `t`. -/
def isPossibleType (t sub : NamedType) : Bool :=
  match t.parts with
  | .union members => members.contains sub.name
  | .interface _ _ => (sub.isObject || sub.isInterface) && sub.interfaces.contains t.name
  | _ => false

/-- Every value of the first type is a value of the second. -/
def isSubtype (s : Schema) : TypeRef → TypeRef → Bool
  | .nonNull a, .nonNull b => s.isSubtype a b
  | .nonNull a, b => s.isSubtype a b
  | .list a, .list b => s.isSubtype a b
  | .named a, .named b =>
      a == b || match s.type? a, s.type? b with
        | some ta, some tb =>
            tb.isAbstract && (ta.isInterface || ta.isObject) && isPossibleType tb ta
        | _, _ => false
  | _, _ => false

/-- Two composite types have a possible type in common. -/
def overlap (s : Schema) (a b : NamedType) : Bool :=
  if a.name == b.name then true
  else if a.isAbstract then
    if b.isAbstract then (s.possibleTypes a).any fun t => isPossibleType b t
    else isPossibleType a b
  else b.isAbstract && isPossibleType b a

end Schema

end QueryTypings
