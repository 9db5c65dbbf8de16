/-
  The declaration of a document's operations and fragments.

  It begins with the import of the type of typed documents.  Then come a type for each fragment, for
  each operation with a name the types of its variables and its result, and last a constant for each
  of these operations.
-/
import QueryTypings.Shape.Object
import QueryTypings.Typescript.Statement

namespace QueryTypings.Declaration

open QueryTypings.Graphql QueryTypings.Schema QueryTypings.Shape QueryTypings.Text
  QueryTypings.Typescript

/-! ## Names -/

/-- The kind of an operation at the end of a name. -/
def kindSuffix : OperationKind → String
  | .query => "Query"
  | .mutation => "Mutation"
  | .subscription => "Subscription"

/-- The name of the type of an operation's result. -/
def resultName (name : String) (kind : OperationKind) : String := name ++ kindSuffix kind

/-- The name of the type of an operation's variables. -/
def variablesName (name : String) (kind : OperationKind) : String :=
  resultName name kind ++ "Variables"

/-- The name of the type of a fragment. -/
def fragmentTypeName (name : String) : String := name ++ "Fragment"

/-! ## Variables -/

/-- The type that a variable's value has inside all lists. -/
def inputNamed (scalars : ScalarTypes) (t : NamedType) : Except Shape.Fault Ty :=
  if t.isScalar then .ok (.name (scalarType scalars t.name)) else .ok (.name t.name)

/-- The member for a variable, which may be left out if it may be null or has a default value. -/
def variableMember (g : Setting) (d : VariableDefinition) : Except Shape.Fault RecordMember := do
  let t := TypeRef.ofNode d.type
  let type ← wrapped g.schema (inputNamed g.scalars) t
  return ⟨none, d.name.text, !t.isNonNull || d.default?.isSome, nullMarked t type⟩

/-- The record of an operation's variables. -/
def variablesBody (g : Setting) (o : Operation) : Except Shape.Fault Body :=
  if o.variableDefinitions.isEmpty then .ok .emptyRecord
  else do return .record (← o.variableDefinitions.mapM (variableMember g))

/-! ## Statements -/

/-- The type for a fragment. -/
def fragmentStatement (g : Setting) (f : Fragment) : Except Shape.Fault Statement :=
  match g.schema.type? f.condition.text with
  | none => .error (.unknownType f.condition.text)
  | some t => do
      let type ← typeOfSelections g t f.selections
      return .exportType none (fragmentTypeName f.name.text) (.inline type)

/-- The types for an operation. -/
def operationStatements (g : Setting) (name : String) (o : Operation) :
    Except Shape.Fault (List Statement) :=
  match (g.schema.root? o.kind).bind g.schema.type? with
  | none => .error (.noRoot o.kind)
  | some root => do
      let result ← typeOfRoot g root o.selections
      let input ← variablesBody g o
      return [.exportType none (variablesName name o.kind) input,
        .exportType none (resultName name o.kind) (.inline result)]

/-- The constant for an operation. -/
def documentConstant (name : String) (kind : OperationKind) : Statement :=
  .declareConst name (.name ("TypedDocumentNode<" ++ resultName name kind ++ ", "
    ++ variablesName name kind ++ ">"))

/-- The import of the type of typed documents. -/
def typedDocumentImport : Statement :=
  .importTypes ["TypedDocumentNode"] "@graphql-typed-document-node/core"

/-- The setting for a document. -/
def settingOf (s : Schema) (scalars : ScalarTypes) (d : Document) : Setting :=
  ⟨s, scalars, d.fragmentMap⟩

/-- The statements of the declaration. -/
def documentStatements (s : Schema) (scalars : ScalarTypes) (d : Document) :
    Except Shape.Fault (List Statement) := do
  let g := settingOf s scalars d
  let fragments ← g.fragments.mapM fun p => fragmentStatement g p.2
  let operations ← d.namedOperations.mapM fun (n, o) => operationStatements g n.text o
  let constants := d.namedOperations.map fun (n, o) => documentConstant n.text o.kind
  return typedDocumentImport :: fragments ++ operations.flatten ++ constants

/-- Statements as text, a line feed between two of them. -/
def statementsText (statements : List Statement) : String :=
  joinWith "\n" (statements.map Statement.text)

end QueryTypings.Declaration
