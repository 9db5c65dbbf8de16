/-
  What every schema has without saying so: the five standard scalars, the types by which a schema
  describes itself, and the standard directives.
-/
import QueryTypings.Schema.Basic

namespace QueryTypings.Schema

open QueryTypings.Graphql

/-! ## Short forms -/

/-- An input without a default value. -/
def plainInput (name : String) (type : TypeRef) : Input :=
  ⟨name, none, type, none, false, false⟩

/-- An input with a default value. -/
def defaultedInput (name : String) (type : TypeRef) (value : Value) : Input :=
  ⟨name, none, type, some value, false, false⟩

/-- A field without arguments. -/
def plainField (name : String) (type : TypeRef) : Field := ⟨name, none, [], type, false⟩

/-- A reference to a type that excludes null. -/
def required (name : String) : TypeRef := .nonNull (.named name)

/-- A list without nulls, itself perhaps null. -/
def listOf (name : String) : TypeRef := .list (required name)

/-- An argument that asks for deprecated elements too. -/
def includeDeprecated : Input :=
  defaultedInput "includeDeprecated" (required "Boolean") (.boolean false .first)

/-- A field that lists elements, which may be deprecated. -/
def listField (name : String) (type : TypeRef) : Field :=
  ⟨name, none, [includeDeprecated], type, false⟩

/-! ## Scalars -/

/-- The names of the standard scalars. -/
def standardScalars : List String := ["String", "Int", "Float", "Boolean", "ID"]

/-- A scalar. -/
def scalarNamed (name : String) : NamedType := ⟨name, none, .scalar⟩

/-! ## Introspection -/

/-- The fields that tell whether an element is deprecated. -/
def deprecationFields : List Field :=
  [plainField "isDeprecated" (required "Boolean"),
    plainField "deprecationReason" (.named "String")]

/-- The types by which a schema describes itself. -/
def introspectionTypes : List NamedType :=
  let description := plainField "description" (.named "String")
  let object (name : String) (fields : List Field) : NamedType := ⟨name, none, .object [] fields⟩
  let name := plainField "name" (required "String")
  [object "__Schema"
    [description, plainField "types" (.nonNull (listOf "__Type")),
      plainField "queryType" (required "__Type"), plainField "mutationType" (.named "__Type"),
      plainField "subscriptionType" (.named "__Type"),
      listField "directives" (.nonNull (listOf "__Directive"))],
    object "__Type"
    [plainField "kind" (required "__TypeKind"), plainField "name" (.named "String"), description,
      plainField "specifiedByURL" (.named "String"), listField "fields" (listOf "__Field"),
      plainField "interfaces" (listOf "__Type"), plainField "possibleTypes" (listOf "__Type"),
      listField "enumValues" (listOf "__EnumValue"),
      listField "inputFields" (listOf "__InputValue"), plainField "ofType" (.named "__Type"),
      plainField "isOneOf" (.named "Boolean")],
    ⟨"__TypeKind", none,
      .enum ["SCALAR", "OBJECT", "INTERFACE", "UNION", "ENUM", "INPUT_OBJECT", "LIST", "NON_NULL"]⟩,
    object "__Field"
    ([name, description, listField "args" (.nonNull (listOf "__InputValue")),
      plainField "type" (required "__Type")] ++ deprecationFields),
    object "__InputValue"
    ([name, description, plainField "type" (required "__Type"),
      plainField "defaultValue" (.named "String")] ++ deprecationFields),
    object "__EnumValue" ([name, description] ++ deprecationFields),
    object "__Directive"
    ([name, description, plainField "isRepeatable" (required "Boolean"),
      plainField "locations" (.nonNull (listOf "__DirectiveLocation")),
      listField "args" (.nonNull (listOf "__InputValue"))] ++ deprecationFields),
    ⟨"__DirectiveLocation", none,
      .enum ["QUERY", "MUTATION", "SUBSCRIPTION", "FIELD", "FRAGMENT_DEFINITION", "FRAGMENT_SPREAD",
        "INLINE_FRAGMENT", "VARIABLE_DEFINITION", "FRAGMENT_VARIABLE_DEFINITION", "SCHEMA",
        "SCALAR", "OBJECT", "FIELD_DEFINITION", "ARGUMENT_DEFINITION", "INTERFACE", "UNION", "ENUM",
        "ENUM_VALUE", "INPUT_OBJECT", "INPUT_FIELD_DEFINITION", "DIRECTIVE_DEFINITION"]⟩]

/-- The names of these types. -/
def introspectionNames : List String := introspectionTypes.map NamedType.name

/-- The type describes schemas. -/
def isIntrospectionName (name : String) : Bool := introspectionNames.contains name

/-- The field of the query root that describes the schema. -/
def schemaField : Field := plainField "__schema" (required "__Schema")

/-- The field of the query root that describes one type. -/
def typeField : Field :=
  ⟨"__type", none, [plainInput "name" (required "String")], .named "__Type", false⟩

/-- The field of every composite type that names the type. -/
def typenameField : Field := plainField "__typename" (required "String")

/-- The built-in type of a given name. -/
def builtinType? (name : String) : Option NamedType :=
  if standardScalars.contains name then some (scalarNamed name)
  else introspectionTypes.find? fun t => t.name == name

/-- The names of all built-in types. -/
def builtinNames : List String := standardScalars ++ introspectionNames

/-! ## Directives -/

/-- The directives of every schema. -/
def standardDirectives : List DirectiveInfo :=
  let selections := ["FIELD", "FRAGMENT_SPREAD", "INLINE_FRAGMENT"]
  let condition := plainInput "if" (required "Boolean")
  [⟨"include", [condition], false, selections⟩, ⟨"skip", [condition], false, selections⟩,
    ⟨"deprecated",
      [defaultedInput "reason" (required "String") (.string "No longer supported" false .first)],
      false,
      ["FIELD_DEFINITION", "ARGUMENT_DEFINITION", "INPUT_FIELD_DEFINITION", "ENUM_VALUE",
        "DIRECTIVE_DEFINITION"]⟩,
    ⟨"specifiedBy", [plainInput "url" (required "String")], false, ["SCALAR"]⟩,
    ⟨"oneOf", [], false, ["INPUT_OBJECT"]⟩]

/-- The directive by which a selection is delivered later; a schema has it only if it declares it.
    -/
def deferDirective : DirectiveInfo :=
  ⟨"defer", [defaultedInput "if" (required "Boolean") (.boolean true .first),
    plainInput "label" (.named "String")], false, ["FRAGMENT_SPREAD", "INLINE_FRAGMENT"]⟩

end QueryTypings.Schema
