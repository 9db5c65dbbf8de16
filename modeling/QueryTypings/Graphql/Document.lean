/-
  GraphQL documents: operations, fragments and type system definitions as a tree.

  Every node that a message may point at knows its place.  A selection set without selections is a
  selection set, so a field is a leaf or a branch, whichever way it was written.  Definitions and
  extensions of types share one structure, since an extension adds the same parts that a definition
  lists.
-/
import QueryTypings.Graphql.Position

namespace QueryTypings.Graphql

/-- A name and its place. -/
structure Name where
  text : String
  position : Position
deriving Repr, BEq, DecidableEq, Inhabited

/-- A value.  The digits of numbers are kept as they were written. -/
inductive Value
  | variable (name : Name) (position : Position)
  | int (digits : String) (position : Position)
  | float (digits : String) (position : Position)
  | string (text : String) (block : Bool) (position : Position)
  | boolean (value : Bool) (position : Position)
  | null (position : Position)
  | enum (name : String) (position : Position)
  | list (items : List Value) (position : Position)
  | object (fields : List (Name × Value)) (position : Position)
deriving Repr, BEq, Inhabited

/-- The place of a value. -/
def Value.position : Value → Position
  | .variable _ p | .int _ p | .float _ p | .string _ _ p | .boolean _ p | .null p | .enum _ p
  | .list _ p | .object _ p => p

/-- A type as it is written. -/
inductive TypeNode
  | named (name : Name)
  | list (item : TypeNode) (position : Position)
  | nonNull (type : TypeNode)
deriving Repr, BEq, DecidableEq, Inhabited

/-- The place of a type. -/
def TypeNode.position : TypeNode → Position
  | .named n => n.position
  | .list _ p => p
  | .nonNull t => t.position

/-- A named value that is handed to a field or a directive. -/
structure Argument where
  name : Name
  value : Value
deriving Repr, BEq, Inhabited

/-- A directive and its arguments. -/
structure Directive where
  name : Name
  arguments : List Argument
  position : Position
deriving Repr, BEq, Inhabited

/-- A description in front of a definition. -/
structure Description where
  text : String
  block : Bool
deriving Repr, BEq, DecidableEq, Inhabited

/-! ## Operations and fragments -/

/-- A field without what is selected of it. -/
structure FieldHead where
  aliasName : Option Name
  name : Name
  arguments : List Argument
  directives : List Directive
  position : Position
deriving Repr, BEq, Inhabited

/-- The key under which a field's result is found. -/
def FieldHead.key (f : FieldHead) : String := (f.aliasName.getD f.name).text

/-- A selection. -/
inductive Selection
  /-- A field of which nothing is selected. -/
  | leaf (field : FieldHead)
  /-- A field with a selection set, which begins at `opening`. -/
  | branch (field : FieldHead) (opening : Position) (selections : List Selection)
  /-- Selections that apply to one type, or to any. -/
  | inline (condition : Option Name) (directives : List Directive) (position opening : Position)
      (selections : List Selection)
  /-- The selections of a named fragment. -/
  | spread (name : Name) (directives : List Directive) (position : Position)
deriving Repr, BEq, Inhabited

/-- The directives of a selection. -/
def Selection.directives : Selection → List Directive
  | .leaf f => f.directives
  | .branch f _ _ => f.directives
  | .inline _ ds _ _ _ => ds
  | .spread _ ds _ => ds

/-- Kinds of operations. -/
inductive OperationKind
  | query | mutation | subscription
deriving Repr, BEq, DecidableEq, Inhabited

/-- The word for a kind of operation. -/
def OperationKind.word : OperationKind → String
  | .query => "query"
  | .mutation => "mutation"
  | .subscription => "subscription"

/-- A variable that an operation declares; `position` is where the declaration begins, `at` where
    the variable itself does. -/
structure VariableDefinition where
  description : Option Description
  name : Name
  variablePosition : Position
  type : TypeNode
  default? : Option Value
  directives : List Directive
  position : Position
deriving Repr, BEq, Inhabited

/-- An operation. -/
structure Operation where
  description : Option Description
  kind : OperationKind
  name? : Option Name
  variableDefinitions : List VariableDefinition
  directives : List Directive
  selections : List Selection
  opening : Position
  position : Position
deriving Repr, BEq, Inhabited

/-- A fragment. -/
structure Fragment where
  description : Option Description
  name : Name
  condition : Name
  directives : List Directive
  selections : List Selection
  opening : Position
  position : Position
deriving Repr, BEq, Inhabited

/-! ## The type system -/

/-- An argument of a field or a directive, or a field of an input object. -/
structure InputDefinition where
  description : Option Description
  name : Name
  type : TypeNode
  default? : Option Value
  directives : List Directive
deriving Repr, BEq, Inhabited

/-- A field of an object or an interface. -/
structure FieldDefinition where
  description : Option Description
  name : Name
  arguments : List InputDefinition
  type : TypeNode
  directives : List Directive
deriving Repr, BEq, Inhabited

/-- A value of an enum. -/
structure EnumValueDefinition where
  description : Option Description
  name : Name
  directives : List Directive
deriving Repr, BEq, Inhabited

/-- The parts of a type, by its kind. -/
inductive TypeParts
  | scalar
  | object (interfaces : List Name) (fields : List FieldDefinition)
  | interface (interfaces : List Name) (fields : List FieldDefinition)
  | union (members : List Name)
  | enum (values : List EnumValueDefinition)
  | input (fields : List InputDefinition)
deriving Repr, BEq, Inhabited

/-- The definition of a type, or an extension of one. -/
structure TypeDefinition where
  isExtension : Bool
  description : Option Description
  name : Name
  directives : List Directive
  parts : TypeParts
  position : Position
deriving Repr, BEq, Inhabited

/-- The definition of a schema, or an extension of one. -/
structure SchemaDefinition where
  isExtension : Bool
  description : Option Description
  directives : List Directive
  roots : List (OperationKind × Name)
  position : Position
deriving Repr, BEq, Inhabited

/-- The definition of a directive. -/
structure DirectiveDefinition where
  description : Option Description
  name : Name
  arguments : List InputDefinition
  directives : List Directive
  repeatable : Bool
  locations : List Name
  position : Position
deriving Repr, BEq, Inhabited

/-- Directives added to the definition of a directive. -/
structure DirectiveExtension where
  name : Name
  directives : List Directive
  position : Position
deriving Repr, BEq, Inhabited

/-- A definition. -/
inductive Definition
  | operation (o : Operation)
  | fragment (f : Fragment)
  | schema (s : SchemaDefinition)
  | type (t : TypeDefinition)
  | directive (d : DirectiveDefinition)
  | directiveExtension (d : DirectiveExtension)
deriving Repr, BEq, Inhabited

/-- A document. -/
abbrev Document := List Definition

/-! ## Parts of a document -/

namespace Document

/-- The operations in order. -/
def operations (d : Document) : List Operation :=
  d.filterMap fun
    | .operation o => some o
    | _ => none

/-- The fragments in order. -/
def fragments (d : Document) : List Fragment :=
  d.filterMap fun
    | .fragment f => some f
    | _ => none

/-- The operations that have a name, in order. -/
def namedOperations (d : Document) : List (Name × Operation) :=
  d.operations.filterMap fun o => o.name?.map (·, o)

end Document

end QueryTypings.Graphql
