/-
  The declaration of a schema's types.

  The file begins with helpers and the record of scalars.  Then come the named types in the order of
  their names: objects and interfaces as records, each followed by a record for every field that has
  arguments; input objects as records; unions and enums.  Types of introspection are left out.

  A member whose type admits null is optional and wrapped in `Maybe`, or in `InputMaybe` where a
  caller gives the value.  A member that excludes null is optional if the schema marks it so.
-/
import QueryTypings.Declaration.Scalar
import QueryTypings.Schema.Builtin
import QueryTypings.Typescript.Statement

namespace QueryTypings.Declaration

open QueryTypings.Schema QueryTypings.Text QueryTypings.Typescript

/-! ## Types of members -/

/-- The wrapper around a type that admits null, by where the type stands. -/
inductive Side
  | output | input
deriving Repr, BEq, DecidableEq

/-- The name of the wrapper. -/
def Side.wrapper : Side → String
  | .output => "Maybe"
  | .input => "InputMaybe"

/-- A type inside the null mark, if it has one. -/
def memberType (s : Schema) (side : Side) : TypeRef → Ty
  | .nonNull t => memberType s side t
  | .list t =>
      let item := memberType s side t
      .array (if t.isNonNull then item else .generic side.wrapper item)
  | .named n =>
      if ((s.type? n).map NamedType.isScalar).getD false then .scalar n else .name n

/-- The member for a field, an argument or an input field. -/
def member (s : Schema) (side : Side) (description : Option String) (name : String)
    (markedOptional : Bool) (t : TypeRef) : RecordMember :=
  let type := memberType s side t
  if t.isNonNull then ⟨description, name, markedOptional, type⟩
  else ⟨description, name, true, .generic side.wrapper type⟩

/-- The member for an input. -/
def inputMember (s : Schema) (description : Option String) (i : Input) : RecordMember :=
  member s .input description i.name i.markedOptional i.type

/-! ## Statements -/

/-- The member that names the type of an object. -/
def typenameMember (type : String) : RecordMember :=
  ⟨none, "__typename", true, .literal type⟩

/-- The name of the record of a field's arguments. -/
def argumentsName (type field : String) : String :=
  match field.toList with
  | [] => type ++ "Args"
  | c :: r => type ++ String.ofList (c.toUpper :: r) ++ "Args"

/-- The record of a field's arguments, if it has any. -/
def argumentsStatement? (s : Schema) (type : String) (f : Field) : Option Statement :=
  if f.arguments.isEmpty then none
  else
    some (.exportType none (argumentsName type f.name)
      (.record (f.arguments.map fun a => inputMember s none a)))

/-- The statements for a named type. -/
def typeStatements (s : Schema) (t : NamedType) : List Statement :=
  match t.parts with
  | .scalar => []
  | .object _ fields | .interface _ fields =>
      let members := fields.map fun f => member s .output f.description f.name false f.type
      .exportType t.description t.name (.record (typenameMember t.name :: members))
        :: fields.filterMap (argumentsStatement? s t.name)
  | .input fields _ =>
      [.exportType t.description t.name
        (.record (fields.map fun f => inputMember s f.description f))]
  | .union members => [.exportType t.description t.name (.inline (.union (members.map Ty.name)))]
  | .enum values => [.exportType t.description t.name (.choice values)]

/-- The types that stand in front of all others. -/
def helperStatements : List Statement :=
  [.exportGeneric "Maybe" "<T>" "T | null", .exportGeneric "InputMaybe" "<T>" "Maybe<T>",
    .exportGeneric "Exact" "<T extends \x7b [key: string]: unknown \x7d>"
      "\x7b [K in keyof T]: T[K] \x7d"]

/-- The record of scalars. -/
def scalarsStatement (scalars : ScalarTypes) (types : List NamedType) : Statement :=
  .exportType (some "All built-in and custom scalars, mapped to their actual values") "Scalars"
    (.record ((types.filter NamedType.isScalar).map fun t =>
      ⟨none, t.name, false, .name (scalarType scalars t.name)⟩))

/-- The types that are declared, in the order of their names. -/
def declaredTypes (s : Schema) : List NamedType :=
  (s.types.filter fun t => !isIntrospectionName t.name).mergeSort
    fun a b => decide (a.name ≤ b.name)

/-- The statements of the file, in the groups that blank lines separate. -/
def schemaStatements (s : Schema) (scalars : ScalarTypes) : List (List Statement) :=
  let types := declaredTypes s
  helperStatements :: [scalarsStatement scalars types]
    :: (types.flatMap (typeStatements s)).map fun t => [t]

/-- The text of the file. -/
def schemaDeclaration (s : Schema) (scalars : ScalarTypes) : String :=
  let group (g : List Statement) : String := joinWith "\n" (g.map Statement.text)
  joinWith "\n\n" ((schemaStatements s scalars).map group) ++ "\n"

end QueryTypings.Declaration
