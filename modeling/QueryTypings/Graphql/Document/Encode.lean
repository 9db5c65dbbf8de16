/-
  Documents as JSON.

  A node is an object whose first member `kind` names it.  The members that follow have a fixed
  order for each kind; a part that is absent, and a list that is empty because the text does not
  have it, is left out.  Places are no part of the encoding.
-/
import QueryTypings.Graphql.Document
import QueryTypings.Json.Basic

namespace QueryTypings.Graphql

/-- A part of a node: its member, if it is there. -/
abbrev Part := String × Option Json

/-- The parts that are there. -/
def presentParts : List Part → List (String × Json)
  | [] => []
  | (k, some v) :: r => (k, v) :: presentParts r
  | (_, none) :: r => presentParts r

/-- A node of a given kind. -/
def node (kind : String) (parts : List Part) : Json :=
  .object (("kind", .string kind) :: presentParts parts)

/-- A part that is always there. -/
def always (key : String) (v : Json) : Part := (key, some v)

/-- A list that is left out if it is empty. -/
def unlessEmpty (key : String) (items : List Json) : Part :=
  (key, if items.isEmpty then none else some (.array items))

/-- The node of a name. -/
def encodeName (n : String) : Json := node "Name" [always "value" (.string n)]

/-- The node of a variable. -/
def encodeVariable (n : Name) : Json := node "Variable" [always "name" (encodeName n.text)]

/-- The node of a type that has a name. -/
def encodeNamed (n : Name) : Json := node "NamedType" [always "name" (encodeName n.text)]

/-- The node of a string. -/
def encodeString (text : String) (block : Bool) : Json :=
  node "StringValue" [always "value" (.string text), always "block" (.bool block)]

mutual

/-- The node of a value. -/
def Value.encode : Value → Json
  | .variable n _ => encodeVariable n
  | .int d _ => node "IntValue" [always "value" (.string d)]
  | .float d _ => node "FloatValue" [always "value" (.string d)]
  | .string s b _ => encodeString s b
  | .boolean b _ => node "BooleanValue" [always "value" (.bool b)]
  | .null _ => node "NullValue" []
  | .enum n _ => node "EnumValue" [always "value" (.string n)]
  | .list items _ => node "ListValue" [always "values" (.array (encodeValues items))]
  | .object fields _ => node "ObjectValue" [always "fields" (.array (encodeObjectFields fields))]

/-- The nodes of values. -/
def encodeValues : List Value → List Json
  | [] => []
  | v :: r => v.encode :: encodeValues r

/-- The nodes of the fields of an object value. -/
def encodeObjectFields : List (Name × Value) → List Json
  | [] => []
  | (n, v) :: r =>
      node "ObjectField" [always "name" (encodeName n.text), always "value" v.encode]
        :: encodeObjectFields r

end

/-- The node of a type. -/
def TypeNode.encode : TypeNode → Json
  | .named n => encodeNamed n
  | .list t _ => node "ListType" [always "type" t.encode]
  | .nonNull t => node "NonNullType" [always "type" t.encode]

/-- The node of an argument. -/
def Argument.encode (a : Argument) : Json :=
  node "Argument" [always "name" (encodeName a.name.text), always "value" a.value.encode]

/-- The list of arguments. -/
def argumentsPart (args : List Argument) : Part :=
  unlessEmpty "arguments" (args.map Argument.encode)

/-- The node of a directive. -/
def Directive.encode (d : Directive) : Json :=
  node "Directive" [always "name" (encodeName d.name.text), argumentsPart d.arguments]

/-- The list of directives. -/
def directivesPart (ds : List Directive) : Part :=
  unlessEmpty "directives" (ds.map Directive.encode)

/-- The description, if there is one. -/
def descriptionPart (d : Option Description) : Part :=
  ("description", d.map fun d => encodeString d.text d.block)

/-- The node of a selection set. -/
def selectionSetNode (selections : List Json) : Json :=
  node "SelectionSet" [always "selections" (.array selections)]

/-- The node of a field, given that of its selection set. -/
def encodeField (f : FieldHead) (selectionSet : Option Json) : Json :=
  node "Field"
    [directivesPart f.directives, always "name" (encodeName f.name.text),
      ("alias", f.aliasName.map fun a => encodeName a.text), argumentsPart f.arguments,
      ("selectionSet", selectionSet)]

mutual

/-- The node of a selection. -/
def Selection.encode : Selection → Json
  | .leaf f => encodeField f none
  | .branch f _ ss => encodeField f (some (selectionSetNode (encodeSelections ss)))
  | .inline c ds _ _ ss =>
      node "InlineFragment"
        [directivesPart ds, always "selectionSet" (selectionSetNode (encodeSelections ss)),
          ("typeCondition", c.map encodeNamed)]
  | .spread n ds _ =>
      node "FragmentSpread" [directivesPart ds, always "name" (encodeName n.text)]

/-- The nodes of selections. -/
def encodeSelections : List Selection → List Json
  | [] => []
  | s :: r => s.encode :: encodeSelections r

end

/-- The node of the declaration of a variable. -/
def VariableDefinition.encode (v : VariableDefinition) : Json :=
  node "VariableDefinition"
    [descriptionPart v.description, always "variable" (encodeVariable v.name),
      always "type" v.type.encode, ("defaultValue", v.default?.map Value.encode),
      directivesPart v.directives]

/-- The node of an operation. -/
def Operation.encode (o : Operation) : Json :=
  node "OperationDefinition"
    [always "selectionSet" (selectionSetNode (encodeSelections o.selections)),
      descriptionPart o.description, ("name", o.name?.map fun n => encodeName n.text),
      unlessEmpty "variableDefinitions" (o.variableDefinitions.map VariableDefinition.encode),
      directivesPart o.directives, always "operation" (.string o.kind.word)]

/-- The node of a fragment. -/
def Fragment.encode (f : Fragment) : Json :=
  node "FragmentDefinition"
    [always "selectionSet" (selectionSetNode (encodeSelections f.selections)),
      descriptionPart f.description, always "name" (encodeName f.name.text),
      always "variableDefinitions" (.array []), directivesPart f.directives,
      always "typeCondition" (encodeNamed f.condition)]

/-! ## The type system -/

/-- The node of an argument definition or an input field. -/
def InputDefinition.encode (i : InputDefinition) : Json :=
  node "InputValueDefinition"
    [always "name" (encodeName i.name.text), always "type" i.type.encode,
      descriptionPart i.description, ("defaultValue", i.default?.map Value.encode),
      directivesPart i.directives]

/-- The node of a field definition. -/
def FieldDefinition.encode (f : FieldDefinition) : Json :=
  node "FieldDefinition"
    [always "name" (encodeName f.name.text), always "type" f.type.encode,
      descriptionPart f.description,
      unlessEmpty "arguments" (f.arguments.map InputDefinition.encode),
      directivesPart f.directives]

/-- The node of an enum value. -/
def EnumValueDefinition.encode (v : EnumValueDefinition) : Json :=
  node "EnumValueDefinition"
    [always "name" (encodeName v.name.text), descriptionPart v.description,
      directivesPart v.directives]

/-- The name of the kind of a type's definition, and the parts that only this kind has. -/
def TypeParts.encode : TypeParts → String × List Part
  | .scalar => ("Scalar", [])
  | .object is fs =>
      ("Object", [unlessEmpty "interfaces" (is.map encodeNamed),
        unlessEmpty "fields" (fs.map FieldDefinition.encode)])
  | .interface is fs =>
      ("Interface", [unlessEmpty "interfaces" (is.map encodeNamed),
        unlessEmpty "fields" (fs.map FieldDefinition.encode)])
  | .union ms => ("Union", [unlessEmpty "types" (ms.map encodeNamed)])
  | .enum vs => ("Enum", [unlessEmpty "values" (vs.map EnumValueDefinition.encode)])
  | .input fs => ("InputObject", [unlessEmpty "fields" (fs.map InputDefinition.encode)])

/-- The node of the definition or the extension of a type. -/
def TypeDefinition.encode (t : TypeDefinition) : Json :=
  let (kind, parts) := t.parts.encode
  let shared := [directivesPart t.directives]
  node (kind ++ if t.isExtension then "TypeExtension" else "TypeDefinition")
    (always "name" (encodeName t.name.text)
      :: (if t.isExtension then shared else descriptionPart t.description :: shared) ++ parts)

/-- The node of the definition or the extension of a schema. -/
def SchemaDefinition.encode (s : SchemaDefinition) : Json :=
  let root (r : OperationKind × Name) : Json :=
    node "OperationTypeDefinition"
      [always "operation" (.string r.1.word), always "type" (encodeNamed r.2)]
  let parts := [directivesPart s.directives, unlessEmpty "operationTypes" (s.roots.map root)]
  if s.isExtension then node "SchemaExtension" parts
  else node "SchemaDefinition" (descriptionPart s.description :: parts)

/-- The node of the definition of a directive. -/
def DirectiveDefinition.encode (d : DirectiveDefinition) : Json :=
  node "DirectiveDefinition"
    [always "name" (encodeName d.name.text),
      always "locations" (.array (d.locations.map fun l => encodeName l.text)),
      descriptionPart d.description,
      unlessEmpty "arguments" (d.arguments.map InputDefinition.encode),
      directivesPart d.directives, always "repeatable" (.bool d.repeatable)]

/-- The node of the extension of a directive. -/
def DirectiveExtension.encode (d : DirectiveExtension) : Json :=
  node "DirectiveExtension"
    [always "name" (encodeName d.name.text), directivesPart d.directives]

/-- The node of a definition. -/
def Definition.encode : Definition → Json
  | .operation o => o.encode
  | .fragment f => f.encode
  | .schema s => s.encode
  | .type t => t.encode
  | .directive d => d.encode
  | .directiveExtension d => d.encode

/-- The node of a document. -/
def encodeDocument (definitions : List Definition) : Json :=
  node "Document" [always "definitions" (.array (definitions.map Definition.encode))]

end QueryTypings.Graphql
