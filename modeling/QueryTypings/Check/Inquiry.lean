/-
  What the rules on operations and fragments look up.

  An `Inquiry` is a document together with the schema that it asks for data.  A `Place` says where
  in the schema a selection set stands: of which composite type it selects, and of which field it is
  a part.  Going into a selection changes the place by `Place.ofField` or `Place.ofCondition`.
-/
import QueryTypings.Check.Definitions

namespace QueryTypings.Check

open QueryTypings.Graphql QueryTypings.Schema

/-- A document and the schema that it is held against. -/
structure Inquiry where
  schema : Schema
  document : Document

namespace Inquiry

/-- The names that the document may use: those of the schema and those that it defines itself. -/
def vocabulary (q : Inquiry) : Vocabulary where
  directives := q.schema.directives ++ (directiveDefinitions q.document).map .ofDefinition
  types :=
    q.schema.types.map NamedType.name ++ (typeDefinitions q.document).map fun t => t.name.text
  schema? := some q.schema

/-- The fragment of a given name, the last one if there are several. -/
def fragment? (q : Inquiry) (name : String) : Option Fragment :=
  q.document.fragments.reverse.find? fun f => f.name.text == name

/-- The composite type of a given name. -/
def composite? (q : Inquiry) (name : String) : Option NamedType :=
  (q.schema.type? name).filter NamedType.isComposite

end Inquiry

/-- The field that a selection of a composite type names.  Every type has `__typename`; the root of
    queries has the fields that describe the schema, besides its own. -/
def selectableField? (s : Schema) (parent : NamedType) (name : String) : Option Field :=
  if name = schemaField.name then if s.query == some parent.name then some schemaField else none
  else if name = typeField.name then if s.query == some parent.name then some typeField else none
  else if name = typenameField.name then some typenameField
  else parent.field? name

/-- A field as a selection names it: what it is, and the type that has it as one of its own.  The
    fields that every type has, and those that describe the schema, belong to none. -/
structure NamedField where
  field : Field
  owner : Option String
deriving Repr, BEq

/-- Where a selection set stands. -/
structure Place where
  parent : Option NamedType
  named : Option NamedField
deriving Repr, BEq

namespace Place

/-- The top level of an operation. -/
def ofOperation (q : Inquiry) (o : Operation) : Place :=
  ⟨(q.schema.root? o.kind).bind q.composite?, none⟩

/-- The top level of a fragment. -/
def ofFragment (q : Inquiry) (f : Fragment) : Place := ⟨q.composite? f.condition.text, none⟩

/-- The field around the selection set. -/
def field (p : Place) : Option Field := p.named.map NamedField.field

/-- The field that a selection names here. -/
def field? (q : Inquiry) (p : Place) (head : FieldHead) : Option Field :=
  p.parent.bind fun t => selectableField? q.schema t head.name.text

/-- The same with the type that has it as one of its own. -/
def namedField? (q : Inquiry) (p : Place) (head : FieldHead) : Option NamedField :=
  p.parent.bind fun t => (p.field? q head).map fun f =>
    ⟨f, (t.field? head.name.text).map fun _ => t.name⟩

/-- The selection set of a field. -/
def ofField (q : Inquiry) (p : Place) (head : FieldHead) : Place :=
  ⟨(p.field? q head).bind fun f => q.composite? f.type.base, p.namedField? q head⟩

/-- The selection set of an inline fragment. -/
def ofCondition (q : Inquiry) (p : Place) (condition : Option Name) : Place :=
  match condition with
  | some c => ⟨q.composite? c.text, p.named⟩
  | none => p

end Place

end QueryTypings.Check
