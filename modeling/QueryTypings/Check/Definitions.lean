/-
  Rules on documents that define a schema.

  The document is gone through once, from front to back and from the outside in.  At every node the
  rules speak in a fixed order, so the order of the issues is the order of the text; only the rule
  on required arguments of directives speaks when the directive has been gone through.  Operations
  and fragments define nothing, but the names and directives in them are looked at all the same.
-/
import QueryTypings.Check.Usage

namespace QueryTypings.Check

open QueryTypings.Graphql QueryTypings.Text QueryTypings.Schema

/-! ## Small parts -/

/-- The issues of a literal whose type is not known. -/
def literalPart (v : Value) : List Issue := repeatedInputFields v

/-- The issues of the values of a field's arguments, whose types are not known here. -/
def argumentValues (args : List Argument) : List Issue :=
  args.flatMap fun a => literalPart a.value

/-- The issues of the values of a directive's arguments. -/
def directiveValues (v : Vocabulary) (d : Directive) : List Issue :=
  d.arguments.flatMap fun a =>
    match v.schema? with
    | none => literalPart a.value
    | some s => valueIssues s (argumentInput? s d.name.text none a.name.text) a.value

/-- The issues of the directives at one location. -/
def directivesPart (v : Vocabulary) (location : String) (ds : List Directive) : List Issue :=
  ds.flatMap fun d =>
    placementIssues v location d ++ unknownDirectiveArguments v d ++ repeatedArguments d.arguments
      ++ directiveValues v d ++ missingDirectiveArguments v d

/-- The issues of an argument definition or an input field. -/
def inputPart (v : Vocabulary) (location : String) (i : InputDefinition) : List Issue :=
  repeatedDirectives v [] i.directives ++ v.unknownTypes true i.type
    ++ (i.default?.map literalPart).getD [] ++ directivesPart v location i.directives

/-- The issues of a field definition. -/
def fieldPart (v : Vocabulary) (f : FieldDefinition) : List Issue :=
  repeatedDirectives v [] f.directives ++ f.arguments.flatMap (inputPart v "ARGUMENT_DEFINITION")
    ++ v.unknownTypes true f.type ++ directivesPart v "FIELD_DEFINITION" f.directives

/-! ## Operations and fragments among the definitions -/

mutual

/-- The issues of a selection. -/
def selectionPart (v : Vocabulary) : Selection → List Issue
  | .leaf f =>
      repeatedDirectives v [] f.directives ++ repeatedArguments f.arguments
        ++ argumentValues f.arguments ++ directivesPart v "FIELD" f.directives
  | .branch f _ ss =>
      repeatedDirectives v [] f.directives ++ repeatedArguments f.arguments
        ++ argumentValues f.arguments ++ directivesPart v "FIELD" f.directives
        ++ selectionsPart v ss
  | .inline c ds _ _ ss =>
      repeatedDirectives v [] ds ++ (c.map (v.unknownType? false)).getD []
        ++ directivesPart v "INLINE_FRAGMENT" ds ++ selectionsPart v ss
  | .spread _ ds _ => repeatedDirectives v [] ds ++ directivesPart v "FRAGMENT_SPREAD" ds

/-- The issues of selections. -/
def selectionsPart (v : Vocabulary) : List Selection → List Issue
  | [] => []
  | s :: r => selectionPart v s ++ selectionsPart v r

end

/-- The issues of the declaration of a variable. -/
def variablePart (v : Vocabulary) (d : VariableDefinition) : List Issue :=
  repeatedDirectives v [] d.directives ++ v.unknownTypes false d.type
    ++ (d.default?.map literalPart).getD [] ++ directivesPart v "VARIABLE_DEFINITION" d.directives

/-- The location of an operation's directives. -/
def operationLocation (k : OperationKind) : String := k.word.toUpper

/-- The issues of an operation. -/
def operationPart (v : Vocabulary) (o : Operation) : List Issue :=
  repeatedDirectives v [] o.directives ++ o.variableDefinitions.flatMap (variablePart v)
    ++ directivesPart v (operationLocation o.kind) o.directives ++ selectionsPart v o.selections

/-- The issues of a fragment. -/
def fragmentPart (v : Vocabulary) (f : Fragment) : List Issue :=
  repeatedDirectives v [] f.directives ++ v.unknownType? false f.condition
    ++ directivesPart v "FRAGMENT_DEFINITION" f.directives ++ selectionsPart v f.selections

/-! ## Definitions of types -/

/-- The name for the kind of a type in messages. -/
def kindWords : TypeParts → String
  | .scalar => "scalar"
  | .object _ _ => "object"
  | .interface _ _ => "interface"
  | .union _ => "union"
  | .enum _ => "enum"
  | .input _ => "input object"

/-- The location of a type's directives. -/
def typeLocation : TypeParts → String
  | .scalar => "SCALAR"
  | .object _ _ => "OBJECT"
  | .interface _ _ => "INTERFACE"
  | .union _ => "UNION"
  | .enum _ => "ENUM"
  | .input _ => "INPUT_OBJECT"

/-- The names of the values of an enum. -/
def enumNames : TypeParts → List String
  | .enum vs => vs.map fun v => v.name.text
  | _ => []

/-- The names of the fields of an object, an interface or an input object. -/
def fieldNames : TypeParts → List String
  | .object _ fs | .interface _ fs => fs.map fun f => f.name.text
  | .input fs => fs.map fun f => f.name.text
  | _ => []

/-- The names that occur among those in front, or twice. -/
def laterOccurrences (seen : List String) : List String → List String
  | [] => []
  | n :: r =>
      if seen.contains n then n :: laterOccurrences seen r else laterOccurrences (n :: seen) r

/-- The types in front of a definition that bear its name. -/
def namesakes (before : Document) (name : String) : List TypeDefinition :=
  (typeDefinitions before ++ typeExtensions before).filter fun t => t.name.text == name

/-- Arguments that a definition lists more than once. -/
def argumentsTwice (owner : String) (args : List InputDefinition) : List Issue :=
  (repeatedNames (args.map InputDefinition.name)).map fun n =>
    ⟨.secondArgumentDefinition owner n.text, some n.position⟩

/-- The fields with arguments of an object or an interface. -/
def fieldDefinitions : TypeParts → List FieldDefinition
  | .object _ fs | .interface _ fs => fs
  | _ => []

/-- Extending a type that is not there, or is of another kind. -/
def extensionIssues (all : Document) (t : TypeDefinition) : List Issue :=
  if !t.isExtension then []
  else
    let defined := typeDefinitions all
    match defined.reverse.find? fun d => d.name.text == t.name.text with
    | some d =>
        if kindWords d.parts = kindWords t.parts then []
        else [⟨.extendsOtherKind (kindWords t.parts) t.name.text, some d.position⟩]
    | none =>
        let near := suggestions t.name.text (defined.map fun d => d.name.text)
        [⟨.extendsUnknown t.name.text near, some t.name.position⟩]

/-- The issues of the parts of a type. -/
def partsPart (v : Vocabulary) (t : TypeDefinition) : List Issue :=
  let own := directivesPart v (typeLocation t.parts) t.directives
  let names (ns : List Name) : List Issue := ns.flatMap (v.unknownType? true)
  match t.parts with
  | .scalar => own
  | .object is fs | .interface is fs => names is ++ own ++ fs.flatMap (fieldPart v)
  | .union ms => own ++ names ms
  | .enum vs =>
      own ++ vs.flatMap fun e =>
        repeatedDirectives v [] e.directives ++ directivesPart v "ENUM_VALUE" e.directives
  | .input fs => own ++ fs.flatMap (inputPart v "INPUT_FIELD_DEFINITION")

/-- The issues of a type's directives and parts, whatever other definitions say. -/
def typeBody (v : Vocabulary) (before : Document) (t : TypeDefinition) : List Issue :=
  repeatedDirectives v
      ((namesakes before t.name.text).flatMap TypeDefinition.directives) t.directives
    ++ partsPart v t

/-- The issues of the definition or the extension of a type. -/
def typePart (v : Vocabulary) (all before : Document) (t : TypeDefinition) : List Issue :=
  let name := t.name.text
  let others := namesakes before name
  let here (p : Problem) : Issue := ⟨p, some t.position⟩
  let again :=
    if !t.isExtension && (typeDefinitions before).any fun d => d.name.text == name then
      [here (.secondType name)]
    else []
  let values := laterOccurrences (others.flatMap fun d => enumNames d.parts) (enumNames t.parts)
  let fields := laterOccurrences (others.flatMap fun d => fieldNames d.parts) (fieldNames t.parts)
  again ++ values.map (fun e => here (.secondEnumValue name e))
    ++ fields.map (fun f => here (.secondField name f))
    ++ (fieldDefinitions t.parts).flatMap
      (fun f => argumentsTwice (name ++ "." ++ f.name.text) f.arguments)
    ++ repeatedDirectives v (others.flatMap TypeDefinition.directives) t.directives
    ++ extensionIssues all t ++ partsPart v t

/-! ## Definitions of schemas and directives -/

/-- The issues of the directives and root types of a schema's definition. -/
def schemaBody (v : Vocabulary) (before : Document) (d : SchemaDefinition) : List Issue :=
  repeatedDirectives v ((schemaDefinitions before).flatMap SchemaDefinition.directives) d.directives
    ++ directivesPart v "SCHEMA" d.directives ++ d.roots.flatMap fun r => v.unknownType? true r.2

/-- The issues of the definition or the extension of the schema. -/
def schemaPart (v : Vocabulary) (before : Document) (d : SchemaDefinition) : List Issue :=
  let others := schemaDefinitions before
  let here (p : Problem) : Issue := ⟨p, some d.position⟩
  let again :=
    if !d.isExtension && others.any fun o => !o.isExtension then [here .secondSchema] else []
  let earlier := others.flatMap fun o => o.roots.map fun r => r.1.word
  let kinds := laterOccurrences earlier (d.roots.map fun r => r.1.word)
  let kindOf (w : String) : OperationKind :=
    if w = "query" then .query else if w = "mutation" then .mutation else .subscription
  again ++ kinds.map (fun w => here (.secondRoot (kindOf w)))
    ++ schemaBody v before d

/-- The directives on the definition and the extensions of a directive. -/
def directivesOnDirective (before : Document) (name : String) : List Directive :=
  before.flatMap fun
    | .directive d => if d.name.text = name then d.directives else []
    | .directiveExtension d => if d.name.text = name then d.directives else []
    | _ => []

/-- The issues of a directive's arguments and of the directives on it. -/
def directiveBody (v : Vocabulary) (before : Document) (d : DirectiveDefinition) : List Issue :=
  repeatedDirectives v (directivesOnDirective before d.name.text) d.directives
    ++ d.arguments.flatMap (inputPart v "ARGUMENT_DEFINITION")
    ++ directivesPart v "DIRECTIVE_DEFINITION" d.directives

/-- The issues of the definition of a directive. -/
def directivePart (v : Vocabulary) (before : Document) (d : DirectiveDefinition) : List Issue :=
  let name := d.name.text
  argumentsTwice ("@" ++ name) d.arguments
    ++ (if (directiveDefinitions before).any fun e => e.name.text == name then
          [⟨.secondDirective name, some d.position⟩]
        else [])
    ++ directiveBody v before d

/-- The issues of directives that are added to a directive. -/
def directiveExtensionPart (v : Vocabulary) (before : Document) (d : DirectiveExtension) :
    List Issue :=
  repeatedDirectives v (directivesOnDirective before d.name.text) d.directives
    ++ directivesPart v "DIRECTIVE_DEFINITION" d.directives

/-- The issues of a definition that `before` precede in the document `all`. -/
def definitionPart (v : Vocabulary) (all before : Document) : Definition → List Issue
  | .operation o => operationPart v o
  | .fragment f => fragmentPart v f
  | .schema d => schemaPart v before d
  | .type t => typePart v all before t
  | .directive d => directivePart v before d
  | .directiveExtension d => directiveExtensionPart v before d

/-- The issues of definitions, of which those `before` are done. -/
def definitionsFrom (v : Vocabulary) (all before : Document) : Document → List Issue
  | [] => []
  | d :: r => definitionPart v all before d ++ definitionsFrom v all (before ++ [d]) r

/-- The vocabulary of a document that defines a schema. -/
def definitionVocabulary (d : Document) : Vocabulary where
  directives := standardDirectives ++ (directiveDefinitions d).map DirectiveInfo.ofDefinition
  types := (typeDefinitions d).map fun t => t.name.text
  schema? := none

/-- All issues of a document that defines a schema. -/
def definitionIssues (d : Document) : List Issue :=
  definitionsFrom (definitionVocabulary d) d [] d

end QueryTypings.Check
