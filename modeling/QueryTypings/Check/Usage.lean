/-
  Rules on directives, arguments and object literals, wherever they stand.

  Documents that define a schema and documents that ask for data obey the same rules here.  A
  `Vocabulary` holds what the rules need to know: the directives that may be used, where a directive
  that a document itself defines counts instead of a standard one of the same name, and the names of
  types.
-/
import QueryTypings.Check.Problem
import QueryTypings.Schema.Build

namespace QueryTypings.Check

open QueryTypings.Graphql QueryTypings.Text QueryTypings.Schema

/-- Names that a document may use. -/
structure Vocabulary where
  directives : List DirectiveInfo
  types : List String
  /-- The schema against whose types literals are held, if there is one. -/
  schema? : Option Schema

namespace Vocabulary

/-- The directive of a given name, the last one if there are several. -/
def directive? (v : Vocabulary) (name : String) : Option DirectiveInfo :=
  v.directives.reverse.find? fun d => d.name == name

/-- The names of built-in types are known where definitions stand, besides the others. -/
def unknownType? (v : Vocabulary) (inDefinition : Bool) (n : Name) : List Issue :=
  if v.types.contains n.text || (inDefinition && builtinNames.contains n.text) then []
  else
    let known := if inDefinition then builtinNames ++ v.types else v.types
    [⟨.unknownType n.text (suggestions n.text known), some n.position⟩]

/-- The unknown name in a type. -/
def unknownTypes (v : Vocabulary) (inDefinition : Bool) : TypeNode → List Issue
  | .named n => v.unknownType? inDefinition n
  | .list t _ => v.unknownTypes inDefinition t
  | .nonNull t => v.unknownTypes inDefinition t

end Vocabulary

/-! ## Repetitions -/

/-- The names that stand in a list more than once, in the order of their first places, each with
    that place. -/
def repeatedNames (names : List Name) : List Name :=
  let rec go : List Name → List String → List Name
    | [], _ => []
    | n :: r, seen =>
        if seen.contains n.text then go r seen
        else if r.any fun m => m.text == n.text then n :: go r (n.text :: seen)
        else go r seen
  go names []

/-- An argument is given more than once. -/
def repeatedArguments (args : List Argument) : List Issue :=
  (repeatedNames (args.map Argument.name)).map fun n =>
    ⟨.repeatedArgument n.text, some n.position⟩

/-- A directive stands more than once where it may stand once.  `seen` are those in front. -/
def repeatedDirectives (v : Vocabulary) (seen : List Directive) : List Directive → List Issue
  | [] => []
  | d :: r =>
      match v.directive? d.name.text with
      | some info =>
          if info.repeatable then repeatedDirectives v seen r
          else match seen.find? fun e => e.name.text == d.name.text with
            | some e =>
                ⟨.repeatedDirective d.name.text, some e.position⟩ :: repeatedDirectives v seen r
            | none => repeatedDirectives v (seen ++ [d]) r
      | none => repeatedDirectives v seen r

mutual

/-- Fields that are given more than once in the objects inside a literal. -/
def repeatedInputFields : Value → List Issue
  | .list items _ => repeatedInItems items
  | .object fields _ => repeatedInFields fields []
  | _ => []

/-- The same for the items of a list. -/
def repeatedInItems : List Value → List Issue
  | [] => []
  | v :: r => repeatedInputFields v ++ repeatedInItems r

/-- The same for the fields of an object, of which `seen` have gone before. -/
def repeatedInFields : List (Name × Value) → List Name → List Issue
  | [], _ => []
  | (n, v) :: r, seen =>
      match seen.find? fun m => m.text == n.text with
      | some m =>
          ⟨.repeatedInputField n.text, some m.position⟩ :: repeatedInputFields v
            ++ repeatedInFields r seen
      | none => repeatedInputFields v ++ repeatedInFields r (seen ++ [n])

end

/-! ## Literals -/

/-- The input that a directive's argument stands for.  The arguments of a directive that the schema
    does not have are taken for those of the field around it. -/
def argumentInput? (s : Schema) (directive : String) (field : Option Field) (argument : String) :
    Option Input :=
  match s.directive? directive with
  | some info => info.arguments.find? fun a => a.name == argument
  | none => field.bind fun f => f.argument? argument

/-- The issues of a literal that is given for an input. -/
def valueIssues (s : Schema) (input : Option Input) (v : Value) : List Issue :=
  ((input.map fun i => literalIssues s v i.type []).getD []).map
      (fun i => ⟨.literal i.fault, i.position⟩)
    ++ repeatedInputFields v

/-! ## Directives -/

/-- The name of a location in messages. -/
def locationWords (location : String) : String :=
  String.ofList (location.toList.map fun c => if c = '_' then ' ' else c.toLower)

/-- The directive is unknown or out of place. -/
def placementIssues (v : Vocabulary) (location : String) (d : Directive) : List Issue :=
  match v.directive? d.name.text with
  | none => [⟨.unknownDirective d.name.text, some d.position⟩]
  | some info =>
      if info.locations.contains location then []
      else [⟨.misplacedDirective d.name.text (locationWords location), some d.position⟩]

/-- Arguments that a directive does not have. -/
def unknownDirectiveArguments (v : Vocabulary) (d : Directive) : List Issue :=
  match v.directive? d.name.text with
  | none => []
  | some info =>
      let known := info.arguments.map Input.name
      d.arguments.flatMap fun a =>
        if known.contains a.name.text then []
        else
          let near := suggestions a.name.text known
          [⟨.unknownDirectiveArgument a.name.text d.name.text near, some a.name.position⟩]

/-- Arguments that a directive requires and is not given. -/
def missingDirectiveArguments (v : Vocabulary) (d : Directive) : List Issue :=
  match v.directive? d.name.text with
  | none => []
  | some info =>
      info.arguments.flatMap fun a =>
        if a.isRequired && !d.arguments.any fun b => b.name.text == a.name then
          [⟨.missingArgument ("@" ++ d.name.text) a.name a.type.text, some d.position⟩]
        else []

end QueryTypings.Check
