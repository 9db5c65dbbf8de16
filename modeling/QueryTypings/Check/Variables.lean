/-
  Rules on variables: declared once, of an input type, used, and used where their type fits.

  The uses of a fragment are listed with the input that each stands for.  What an operation uses is
  what stands in it and in the fragments that it needs.
-/
import QueryTypings.Check.Spreads

namespace QueryTypings.Check

open QueryTypings.Graphql QueryTypings.Schema

/-! ## Uses -/

/-- A use of a variable and the input that it stands for: its type, whether it has a default value,
    and the input object of which it is a field, if the object is given as such. -/
structure VariableUse where
  name : Name
  position : Position
  type? : Option TypeRef
  hasDefault : Bool
  object? : Option NamedType
deriving Repr, BEq

/-- The type of the items of a list that is given for a type, unless no list may be given. -/
def itemType? (t : TypeRef) : Option TypeRef :=
  match t.nullable with
  | .list item => some item
  | _ => none

/-- The input object that a type names without any wrapper. -/
def bareObject? (s : Schema) : TypeRef → Option NamedType
  | .named n => (s.type? n).filter NamedType.isInputObject
  | _ => none

/-- The input field that an object literal for a type has under a name. -/
def inputField? (s : Schema) (t : TypeRef) (name : String) : Option Input :=
  (s.baseType? t).bind fun o => o.inputFields.find? fun i => i.name == name

mutual

/-- The uses in a literal. -/
def usesInValue (s : Schema) (type? : Option TypeRef) (hasDefault : Bool)
    (object? : Option NamedType) : Value → List VariableUse
  | .variable n p => [⟨n, p, type?, hasDefault, object?⟩]
  | .list items _ => usesInItems s (type?.bind itemType?) items
  | .object fields _ => usesInFields s type? fields
  | _ => []

/-- The uses in the items of a list. -/
def usesInItems (s : Schema) (type? : Option TypeRef) : List Value → List VariableUse
  | [] => []
  | v :: r => usesInValue s type? false none v ++ usesInItems s type? r

/-- The uses in the fields of an object. -/
def usesInFields (s : Schema) (type? : Option TypeRef) : List (Name × Value) → List VariableUse
  | [] => []
  | (n, v) :: r =>
      let input := type?.bind fun t => inputField? s t n.text
      usesInValue s (input.map Input.type) ((input.bind Input.default?).isSome)
          (type?.bind (bareObject? s)) v
        ++ usesInFields s type? r

end

/-- The uses in the value of an argument. -/
def usesInArgument (s : Schema) (input : Option Input) (a : Argument) : List VariableUse :=
  usesInValue s (input.map Input.type) ((input.bind Input.default?).isSome) none a.value

/-- The uses in directives. -/
def usesInDirectives (q : Inquiry) (field : Option Field) (ds : List Directive) :
    List VariableUse :=
  ds.flatMap fun d => d.arguments.flatMap fun a =>
    usesInArgument q.schema (argumentInput? q.schema d.name.text field a.name.text) a

/-- The uses in the arguments and directives of a field. -/
def usesInField (q : Inquiry) (p : Place) (f : FieldHead) : List VariableUse :=
  let field := p.field? q f
  (f.arguments.flatMap fun a =>
      usesInArgument q.schema (field.bind fun d => d.argument? a.name.text) a)
    ++ usesInDirectives q field f.directives

mutual

/-- The uses in a selection. -/
def usesInSelection (q : Inquiry) (p : Place) : Selection → List VariableUse
  | .leaf f => usesInField q p f
  | .branch f _ ss => usesInField q p f ++ usesInSelections q (p.ofField q f) ss
  | .inline c ds _ _ ss =>
      usesInDirectives q p.field ds ++ usesInSelections q (p.ofCondition q c) ss
  | .spread _ ds _ => usesInDirectives q p.field ds

/-- The uses in selections. -/
def usesInSelections (q : Inquiry) (p : Place) : List Selection → List VariableUse
  | [] => []
  | s :: r => usesInSelection q p s ++ usesInSelections q p r

end

/-- The uses in an operation itself. -/
def usesInOperation (q : Inquiry) (o : Operation) : List VariableUse :=
  usesInDirectives q none o.directives ++ usesInSelections q (.ofOperation q o) o.selections

/-- The uses in a fragment. -/
def usesInFragment (q : Inquiry) (f : Fragment) : List VariableUse :=
  usesInDirectives q none f.directives ++ usesInSelections q (.ofFragment q f) f.selections

/-- All uses for which an operation has to declare variables. -/
def variableUses (q : Inquiry) (o : Operation) : List VariableUse :=
  usesInOperation q o ++ (neededFragments q o.selections).flatMap (usesInFragment q)

/-! ## Rules -/

/-- The greatest number of uses in all operations, those in fragments counted for every operation.
    -/
def useLimit : Nat := 50000

/-- The operation with which there are too many uses, and what is told of it; `before` are the uses
    in the operations in front. -/
def excessiveUses (q : Inquiry) (before : Nat) : List Operation → List (Position × List Issue)
  | [] => []
  | o :: r =>
      let uses := before + (variableUses q o).length
      if useLimit < uses then [(o.position, [⟨.tooMuchWork, none⟩])] else excessiveUses q uses r

/-- The name of an operation in messages. -/
def operationName (o : Operation) : Option String := o.name?.map Name.text

/-- Variables that an operation declares more than once. -/
def secondVariables (o : Operation) : List Issue :=
  (repeatedNames (o.variableDefinitions.map VariableDefinition.name)).map fun n =>
    ⟨.secondVariable n.text, some n.position⟩

/-- Uses of variables that the operation does not declare. -/
def undefinedVariables (q : Inquiry) (o : Operation) : List Issue :=
  (variableUses q o).flatMap fun u =>
    if o.variableDefinitions.any fun d => d.name.text == u.name.text then []
    else [⟨.undefinedVariable u.name.text (operationName o), some u.position⟩]

/-- Variables that are declared and not used. -/
def unusedVariables (q : Inquiry) (o : Operation) : List Issue :=
  let uses := variableUses q o
  o.variableDefinitions.flatMap fun d =>
    if uses.any fun u => u.name.text == d.name.text then []
    else [⟨.unusedVariable d.name.text (operationName o), some d.position⟩]

/-- A variable has an input type. -/
def inputTypeIssues (q : Inquiry) (d : VariableDefinition) : List Issue :=
  match q.schema.baseType? (.ofNode d.type) with
  | none => []
  | some t =>
      if t.isInput then []
      else [⟨.nonInputVariable d.name.text d.type.print, some d.type.position⟩]

/-- The variable has a default value other than null. -/
def hasUsefulDefault (d : VariableDefinition) : Bool :=
  match d.default? with
  | none => false
  | some (.null _) => false
  | some _ => true

/-- A variable may stand for an input of a given type.  One that may be null may stand for an input
    that may not, if either has a default value. -/
def mayStandFor (s : Schema) (d : VariableDefinition) (t : TypeRef) (hasDefault : Bool) : Bool :=
  let own := TypeRef.ofNode d.type
  if t.isNonNull && !own.isNonNull then
    (hasUsefulDefault d || hasDefault) && s.isSubtype own t.nullable
  else s.isSubtype own t

/-- The type of the variable does not fit one of its uses. -/
def positionIssues (q : Inquiry) (d : VariableDefinition) (u : VariableUse) : List Issue :=
  let own := TypeRef.ofNode d.type
  match q.schema.baseType? own, u.type? with
  | some _, some t =>
      (if mayStandFor q.schema d t u.hasDefault then []
        else [⟨.badPosition d.name.text own.text t.text, some d.position⟩])
      ++ match u.object? with
        | some ⟨object, _, .input _ true⟩ =>
            if own.isNonNull then []
            else [⟨.nullableInOneOf d.name.text own.text object, some d.position⟩]
        | _ => []
  | _, _ => []

/-- Uses of an operation's variables that do not fit their types. -/
def misplacedVariables (q : Inquiry) (o : Operation) : List Issue :=
  (variableUses q o).flatMap fun u =>
    match o.variableDefinitions.reverse.find? fun d => d.name.text == u.name.text with
    | none => []
    | some d => positionIssues q d u

end QueryTypings.Check
