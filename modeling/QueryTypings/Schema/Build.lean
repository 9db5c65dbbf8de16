/-
  Building a schema from its definitions.

  The definitions are taken to be free of the faults that the definition rules find: names are
  unique, every name that is used is defined, and extensions extend types of their own kind.  An
  extension adds its parts behind those of the definition.  A definition that bears the name of a
  built-in type stands for that type.

  The types stand in the order of their definitions, each followed by the built-in scalars and
  introspection types that it is the first to refer to; after them come the root types if they are
  built in, the types that directives refer to, then `Boolean`, `String` and the introspection
  types.
-/
import QueryTypings.Schema.Builtin

namespace QueryTypings.Schema

open QueryTypings.Graphql

/-! ## The parts of a type -/

/-- One of the directives has a given name. -/
def hasDirective (name : String) (ds : List Directive) : Bool := ds.any fun d => d.name.text == name

/-- An argument or an input field. -/
def Input.ofDefinition (d : InputDefinition) : Input where
  name := d.name.text
  description := d.description.map Description.text
  type := .ofNode d.type
  default? := d.default?
  deprecated := hasDirective "deprecated" d.directives
  markedOptional := false

/-- A field. -/
def Field.ofDefinition (d : FieldDefinition) : Field where
  name := d.name.text
  description := d.description.map Description.text
  arguments := d.arguments.map Input.ofDefinition
  type := .ofNode d.type
  deprecated := hasDirective "deprecated" d.directives

/-- The names in a list. -/
def nameTexts (ns : List Name) : List String := ns.map Name.text

/-- The parts that a definition or an extension lists. -/
def Parts.ofDefinition (d : TypeDefinition) : Parts :=
  match d.parts with
  | .scalar => .scalar
  | .object is fs => .object (nameTexts is) (fs.map Field.ofDefinition)
  | .interface is fs => .interface (nameTexts is) (fs.map Field.ofDefinition)
  | .union ms => .union (nameTexts ms)
  | .enum vs => .enum (vs.map fun v => v.name.text)
  | .input fs => .input (fs.map Input.ofDefinition) (hasDirective "oneOf" d.directives)

/-- Adds the parts of an extension of the same kind. -/
def Parts.extend : Parts → Parts → Parts
  | .object is fs, .object js gs => .object (is ++ js) (fs ++ gs)
  | .interface is fs, .interface js gs => .interface (is ++ js) (fs ++ gs)
  | .union ms, .union ns => .union (ms ++ ns)
  | .enum vs, .enum ws => .enum (vs ++ ws)
  | .input fs a, .input gs _ => .input (fs ++ gs) a
  | p, _ => p

/-- The type that a definition and its extensions describe. -/
def NamedType.ofDefinition (extensions : List TypeDefinition) (d : TypeDefinition) : NamedType where
  name := d.name.text
  description := d.description.map Description.text
  parts :=
    (extensions.filter fun e => e.name.text == d.name.text).foldl
      (fun p e => p.extend (.ofDefinition e)) (.ofDefinition d)

/-! ## The order of types -/

/-- The names to which a type refers, in order: interfaces, then the type of each field and those of
    its arguments; members; input fields. -/
def NamedType.references (t : NamedType) : List String :=
  match t.parts with
  | .object is fs | .interface is fs =>
      is ++ fs.flatMap fun f => f.type.base :: f.arguments.map fun a => a.type.base
  | .union ms => ms
  | .input fs _ => fs.map fun f => f.type.base
  | .scalar => []
  | .enum _ => []

/-- Adds the built-in types of given names that are not there yet, with those that they refer to.
    A name in `taken` is that of a definition, which has a place of its own.  The fuel bounds the
    chain of references, which cannot be longer than there are built-in types. -/
def addBuiltins (taken : List String) : Nat → List String → List NamedType → List NamedType
  | 0, _, types => types
  | n + 1, names, types =>
      names.foldl (fun types name =>
        if taken.contains name || types.any fun t => t.name == name then types
        else match builtinType? name with
          | none => types
          | some t => addBuiltins taken n t.references (types ++ [t])) types

/-- The types in their order; `defined` are those of the definitions. -/
def orderTypes (defined : List NamedType) (roots : List String) (directives : List DirectiveInfo) :
    List NamedType :=
  let add := addBuiltins (defined.map NamedType.name) (builtinNames.length + 1)
  let types := defined.foldl (fun types t => add t.references (types ++ [t])) []
  let types := directives.foldl
    (fun types d => add (d.arguments.map fun a => a.type.base) types) (add roots types)
  add (["Boolean", "String"] ++ introspectionNames) types

/-! ## The schema -/

/-- A directive. -/
def DirectiveInfo.ofDefinition (d : DirectiveDefinition) : DirectiveInfo where
  name := d.name.text
  arguments := d.arguments.map Input.ofDefinition
  repeatable := d.repeatable
  locations := nameTexts d.locations

/-- The type definitions of a document, without the extensions. -/
def typeDefinitions (d : Document) : List TypeDefinition :=
  d.filterMap fun
    | .type t => if t.isExtension then none else some t
    | _ => none

/-- The type extensions of a document. -/
def typeExtensions (d : Document) : List TypeDefinition :=
  d.filterMap fun
    | .type t => if t.isExtension then some t else none
    | _ => none

/-- The directive definitions of a document. -/
def directiveDefinitions (d : Document) : List DirectiveDefinition :=
  d.filterMap fun
    | .directive t => some t
    | _ => none

/-- The extensions of a directive in a document. -/
def directiveExtensions (d : Document) (name : String) : List DirectiveExtension :=
  d.filterMap fun
    | .directiveExtension e => if e.name.text = name then some e else none
    | _ => none

/-- The definitions and extensions of the schema itself. -/
def schemaDefinitions (d : Document) : List SchemaDefinition :=
  d.filterMap fun
    | .schema t => some t
    | _ => none

/-- The schema that definitions describe.  Without a definition of the schema itself, types named
    `Query`, `Mutation` and `Subscription` are its roots. -/
def ofDefinitions (d : Document) : Schema :=
  let extensions := typeExtensions d
  let defined := (typeDefinitions d).map fun t =>
    (builtinType? t.name.text).getD (.ofDefinition extensions t)
  let own := (directiveDefinitions d).map DirectiveInfo.ofDefinition
  let directives :=
    own ++ standardDirectives.filter fun s => !own.any fun d => d.name == s.name
  let named := (schemaDefinitions d).flatMap SchemaDefinition.roots
  let implied := (schemaDefinitions d).all SchemaDefinition.isExtension
  let root (kind : OperationKind) (name : String) : Option String :=
    if implied && defined.any fun t => t.name == name then some name
    else (named.reverse.find? fun r => r.1 == kind).map fun r => r.2.text
  let query := root .query "Query"
  let mutation := root .mutation "Mutation"
  let subscription := root .subscription "Subscription"
  { types := orderTypes defined ([query, mutation, subscription].filterMap id) directives
    query := query
    mutation := mutation
    subscription := subscription
    directives := directives }

end QueryTypings.Schema
