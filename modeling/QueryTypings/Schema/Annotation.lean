/-
  What the standard directives of a definition say.

  `@deprecated` gives a reason and `@specifiedBy` an address; each is evaluated by the definition of
  the standard directive, also where a document defines a directive of that name in another way.  An
  argument that must be given and is not, or whose value does not fit, is a misuse.

  Scalars are evaluated first, each in the order of the text, then directives, then the fields of
  the other types in the order of the schema; a field comes after its arguments.  A misuse among the
  fields of a type is told as one of that type.  The values of an enum are not evaluated before the
  schema is examined.
-/
import QueryTypings.Schema.Build
import QueryTypings.Schema.Literal

namespace QueryTypings.Schema

open QueryTypings.Graphql QueryTypings.Text

/-- What is wrong with an argument of a directive. -/
inductive MisuseCause
  | missing (type : String)
  | misfit (issue : LiteralIssue)
deriving Repr, BEq

/-- A directive that is not used as its definition says; `owner` is the type whose fields it keeps
    from being known. -/
structure Misuse where
  owner : Option String
  argument : String
  cause : MisuseCause
  position : Option Position
deriving Repr, BEq

/-- The wording. -/
def Misuse.message (m : Misuse) : String :=
  let subject := "Argument '" ++ m.argument ++ "'"
  (match m.owner with
    | some t => t ++ " fields cannot be resolved. "
    | none => "")
    ++ match m.cause with
      | .missing t => subject ++ " of required type '" ++ t ++ "' was not provided."
      | .misfit i =>
          subject ++ " has invalid value"
            ++ (if i.path.isEmpty then "" else " at " ++ String.join (i.path.map PathStep.text))
            ++ ": " ++ i.fault.message

/-- The wording with the lines around the place. -/
def Misuse.messageIn (text : String) (m : Misuse) : String :=
  m.message ++ ((m.position.map (shownPlace text)).getD "")

/-- What keeps a schema or a query from being examined to the end. -/
inductive Obstacle
  /-- A default value is given for an input that cannot be one. -/
  | notLeaf (type : String)
  | misuse (misuse : Misuse)
deriving Repr, BEq

/-- The wording, in which a misuse comes with the lines around its place. -/
def Obstacle.messageIn (text : String) : Obstacle → String
  | .notLeaf t => (LiteralFault.notLeaf t).message
  | .misuse m => m.messageIn text

/-- The misuses of a directive by its definition, apart from unknown arguments. -/
def directiveMisuses (s : Schema) (standard : DirectiveInfo) (given : Directive) : List Misuse :=
  standard.arguments.flatMap fun i =>
    let told (cause : MisuseCause) (p : Option Position) : Misuse :=
      ⟨none, i.name, cause, p⟩
    match given.arguments.find? fun a => a.name.text == i.name with
    | none => if i.isRequired then [told (.missing i.type.text) (some given.position)] else []
    | some a => (literalIssues s a.value i.type []).map fun l => told (.misfit l) l.position

/-- The misuses of the first directive of a given name. -/
def misusesOf (s : Schema) (name : String) (ds : List Directive) : List Misuse :=
  match standardDirectives.find? fun d => d.name == name, ds.find? fun d => d.name.text == name with
  | some standard, some given => directiveMisuses s standard given
  | _, _ => []

/-- The misuses in inputs. -/
def inputMisuses (s : Schema) (is : List InputDefinition) : List Misuse :=
  is.flatMap fun i => misusesOf s "deprecated" i.directives

/-- The misuses in fields. -/
def fieldMisuses (s : Schema) (fs : List FieldDefinition) : List Misuse :=
  fs.flatMap fun f => inputMisuses s f.arguments ++ misusesOf s "deprecated" f.directives

/-- The misuses in a scalar. -/
def scalarMisuses (s : Schema) (t : TypeDefinition) : List Misuse :=
  match t.parts with
  | .scalar => misusesOf s "specifiedBy" t.directives
  | _ => []

/-- The misuses in the values of an enum. -/
def enumMisuses (s : Schema) (t : TypeDefinition) : List Misuse :=
  match t.parts with
  | .enum vs => vs.flatMap fun v => misusesOf s "deprecated" v.directives
  | _ => []

/-- The misuses in the fields of a type. -/
def compositeMisuses (s : Schema) (t : TypeDefinition) : List Misuse :=
  let found : List Misuse :=
    match t.parts with
    | .object _ fs | .interface _ fs => fieldMisuses s fs
    | .input fs => inputMisuses s fs
    | _ => []
  found.map fun m => { m with owner := some t.name.text }

/-- The definition of a type and its extensions. -/
def partsOfType (d : Document) (name : String) : List TypeDefinition :=
  if (builtinType? name).isSome then []
  else (typeDefinitions d ++ typeExtensions d).filter fun t => t.name.text == name

/-- The misuses in the definitions of a document, in the order in which they are evaluated, but for
    those in enums.  A definition that stands for a built-in type is not looked at. -/
def misuses (s : Schema) (d : Document) : List Misuse :=
  (typeDefinitions d).flatMap (fun t => (partsOfType d t.name.text).flatMap (scalarMisuses s))
    ++ ((directiveDefinitions d).flatMap fun t =>
      inputMisuses s t.arguments ++ misusesOf s "deprecated" t.directives
        ++ (directiveExtensions d t.name.text).flatMap fun e =>
          misusesOf s "deprecated" e.directives)
    ++ s.types.flatMap fun t => (partsOfType d t.name).flatMap (compositeMisuses s)

/-- The enums of which the values cannot be evaluated, each with its first misuse. -/
def enumsMisused (s : Schema) (d : Document) : List (String × Misuse) :=
  (s.types.filter NamedType.isEnum).filterMap fun t =>
    ((partsOfType d t.name).flatMap (enumMisuses s)).head?.map (t.name, ·)

end QueryTypings.Schema
