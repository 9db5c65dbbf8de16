/-
  What a schema has to satisfy before documents are checked against it.

  Roots come first, then directives, then the types in their order, and last the input objects that
  contain themselves without end.  `Schema.faults` lists every violation; a schema is sound if there
  is none.

  Two violations are obstacles: where one is met, nothing else is told.  They are a default value
  for an input that cannot be one, and an enum of which the values cannot be evaluated.
-/
import QueryTypings.Schema.Annotation

namespace QueryTypings.Schema

open QueryTypings.Graphql QueryTypings.Text

/-- A violation.  Fields are named `T.f`, arguments `T.f(x:)` or `@d(x:)`. -/
inductive Fault
  | noQueryRoot
  | rootNotObject (kind : OperationKind) (type : String)
  | sharedRoot (type : String) (kinds : List OperationKind)
  | reservedName (name : String)
  | notInputType (input type : String)
  | notOutputType (field type : String)
  | deprecatedArgument (argument : String)
  | deprecatedInputField (field : String)
  | badDefault (input : String) (issue : LiteralIssue)
  | noFields (type : String)
  | notAnInterface (type other : String)
  | implementsItself (type : String)
  | implementsTwice (type interface : String)
  | missingAncestor (type ancestor interface : String)
  | circularInterface (type interface : String)
  | missingField (field type : String)
  | fieldType (interfaceField interfaceType field type : String)
  | missingArgument (argument field : String)
  | argumentType (interfaceArgument interfaceType argument type : String)
  | extraRequiredArgument (argument type field : String)
  | deprecatedImplementation (interfaceField field : String)
  | noMembers (type : String)
  | memberTwice (type member : String)
  | memberNotObject (type member : String)
  | noValues (type : String)
  | valuesMisused (misuse : Misuse)
  | noInputFields (type : String)
  | oneOfNonNull (field : String)
  | oneOfDefault (field : String)
  | circularDefault (field : String) (via : List String)
  | endlessInput (type : String) (fields : List String)
deriving Repr, BEq

/-- A word with a capital. -/
def capitalized (s : String) : String :=
  match s.toList with
  | [] => ""
  | c :: r => String.ofList (c.toUpper :: r)

/-- `a and b`, or `a, b, and c`. -/
def andList : List String → String
  | [] => ""
  | [a] => a
  | [a, b] => a ++ " and " ++ b
  | several => joinWith ", " several.dropLast ++ ", and " ++ several.getLastD ""

/-- The wording of a violation. -/
def Fault.message : Fault → String
  | .noQueryRoot => "Query root type must be provided."
  | .rootNotObject kind t =>
      capitalized kind.word ++ " root type must be Object type"
        ++ (if kind = .query then "" else " if provided") ++ ", it cannot be " ++ t ++ "."
  | .sharedRoot t kinds =>
      "All root types must be different, '" ++ t ++ "' type is used as "
        ++ andList (kinds.map OperationKind.word) ++ " root types."
  | .reservedName n =>
      "Name '" ++ n ++ "' must not begin with '__', which is reserved by GraphQL introspection."
  | .notInputType i t => "The type of " ++ i ++ " must be Input Type but got: " ++ t ++ "."
  | .notOutputType f t => "The type of " ++ f ++ " must be Output Type but got: " ++ t ++ "."
  | .deprecatedArgument a => "Required argument " ++ a ++ " cannot be deprecated."
  | .deprecatedInputField f => "Required input field " ++ f ++ " cannot be deprecated."
  | .badDefault i issue =>
      i ++ " has invalid default value"
        ++ (if issue.path.isEmpty then ""
            else " at " ++ joinWith "" (issue.path.map PathStep.text))
        ++ ": " ++ issue.fault.message
  | .noFields t => "Type " ++ t ++ " must define one or more fields."
  | .notAnInterface t o =>
      "Type " ++ t ++ " must only implement Interface types, it cannot implement " ++ o ++ "."
  | .implementsItself t =>
      "Type " ++ t ++ " cannot implement itself because it would create a circular reference."
  | .implementsTwice t i => "Type " ++ t ++ " can only implement " ++ i ++ " once."
  | .missingAncestor t a i =>
      "Type " ++ t ++ " must implement " ++ a ++ " because it is implemented by " ++ i ++ "."
  | .circularInterface t i =>
      "Type " ++ t ++ " cannot implement " ++ i
        ++ " because it would create a circular reference."
  | .missingField f t => "Interface field " ++ f ++ " expected but " ++ t ++ " does not provide it."
  | .fieldType f a g b =>
      "Interface field " ++ f ++ " expects type " ++ a ++ " but " ++ g ++ " is type " ++ b ++ "."
  | .missingArgument a f =>
      "Interface field argument " ++ a ++ " expected but " ++ f ++ " does not provide it."
  | .argumentType a t b u =>
      "Interface field argument " ++ a ++ " expects type " ++ t ++ " but " ++ b ++ " is type " ++ u
        ++ "."
  | .extraRequiredArgument a t f =>
      "Argument '" ++ a ++ "' must not be required type '" ++ t
        ++ "' if not provided by the Interface field '" ++ f ++ "'."
  | .deprecatedImplementation f g =>
      "Interface field " ++ f ++ " is not deprecated, so implementation field " ++ g
        ++ " must not be deprecated."
  | .noMembers t => "Union type " ++ t ++ " must define one or more member types."
  | .memberTwice t m => "Union type " ++ t ++ " can only include type " ++ m ++ " once."
  | .memberNotObject t m =>
      "Union type " ++ t ++ " can only include Object types, it cannot include " ++ m ++ "."
  | .noValues t => "Enum type " ++ t ++ " must define one or more values."
  | .valuesMisused m => m.message
  | .noInputFields t => "Input Object type " ++ t ++ " must define one or more fields."
  | .oneOfNonNull f => "OneOf input field " ++ f ++ " must be nullable."
  | .oneOfDefault f => "OneOf input field " ++ f ++ " cannot have a default value."
  | .circularDefault f via =>
      "Invalid circular reference. The default value of Input Object field " ++ f
        ++ " references itself"
        ++ (if via.isEmpty then "" else " via the default values of: " ++ joinWith ", " via) ++ "."
  | .endlessInput t fields =>
      "Input Object " ++ t
        ++ " cannot be provided a finite value because it references itself through fields: "
        ++ joinWith ", " fields ++ "."

/-- The obstacle that a violation is. -/
def Fault.obstacle? : Fault → Option Obstacle
  | .badDefault _ issue =>
      match issue.fault with
      | .notLeaf t => some (.notLeaf t)
      | _ => none
  | .valuesMisused m => some (.misuse m)
  | _ => none

/-! ## Roots, names, inputs -/

/-- Kinds of operations in the order in which roots are examined. -/
def operationKinds : List OperationKind := [.query, .mutation, .subscription]

/-- The violations of the roots. -/
def rootFaults (s : Schema) : List Fault :=
  let roots := operationKinds.filterMap fun k => (s.root? k).map (k, ·)
  let isObject (name : String) : Bool := ((s.type? name).map NamedType.isObject).getD false
  let wrong := roots.filterMap fun r =>
    if isObject r.2 then none else some (Fault.rootNotObject r.1 r.2)
  let objects := roots.filter fun r => isObject r.2
  let shared := (objects.map (·.2)).eraseDups.filterMap fun name =>
    match (objects.filter fun r => r.2 == name).map (·.1) with
    | [_] => none
    | kinds => some (Fault.sharedRoot name kinds)
  (if s.query.isNone then [.noQueryRoot] else []) ++ wrong ++ shared

/-- The name is kept for introspection. -/
def nameFaults (name : String) : List Fault :=
  if name.startsWith "__" then [.reservedName name] else []

/-- The inner type of a reference can be given by a caller. -/
def isInputType (s : Schema) (t : TypeRef) : Bool :=
  ((s.baseType? t).map NamedType.isInput).getD false

/-- The inner type of a reference can be an answer. -/
def isOutputType (s : Schema) (t : TypeRef) : Bool :=
  ((s.baseType? t).map NamedType.isOutput).getD false

/-- The violations of an input's default value. -/
def defaultFaults (s : Schema) (label : String) (i : Input) : List Fault :=
  match i.default? with
  | none => []
  | some v => (literalIssues s v i.type []).map (.badDefault label)

/-- The violations of an argument, which messages call `label`. -/
def argumentFaults (s : Schema) (label : String) (a : Input) : List Fault :=
  nameFaults a.name
    ++ (if isInputType s a.type then [] else [.notInputType label a.type.text])
    ++ (if a.isRequired && a.deprecated then [.deprecatedArgument label] else [])
    ++ defaultFaults s label a

/-- The violations of a directive. -/
def directiveFaults (s : Schema) (d : DirectiveInfo) : List Fault :=
  nameFaults d.name
    ++ d.arguments.flatMap fun a => argumentFaults s ("@" ++ d.name ++ "(" ++ a.name ++ ":)") a

/-! ## Objects and interfaces -/

/-- How messages name a field. -/
def fieldLabel (type field : String) : String := type ++ "." ++ field

/-- How messages name an argument of a field. -/
def argumentLabel (type field argument : String) : String :=
  type ++ "." ++ field ++ "(" ++ argument ++ ":)"

/-- The violations of the fields of a type. -/
def fieldsFaults (s : Schema) (t : NamedType) : List Fault :=
  (if t.fields.isEmpty then [.noFields t.name] else [])
    ++ t.fields.flatMap fun f =>
      nameFaults f.name
        ++ (if isOutputType s f.type then []
            else [.notOutputType (fieldLabel t.name f.name) f.type.text])
        ++ f.arguments.flatMap fun a => argumentFaults s (argumentLabel t.name f.name a.name) a

/-- A type lacks interfaces that one of its interfaces implements. -/
def ancestorFaults (t i : NamedType) : List Fault :=
  (i.interfaces.filter fun a => !t.interfaces.contains a).map fun a =>
    if a = t.name then .circularInterface t.name i.name else .missingAncestor t.name a i.name

/-- A field does not do what the interface's field of the same name promises. -/
def promiseFaults (s : Schema) (t i : NamedType) (p f : Field) : List Fault :=
  let promised := fieldLabel i.name p.name
  let given := fieldLabel t.name f.name
  (if s.isSubtype f.type p.type then []
    else [.fieldType promised p.type.text given f.type.text])
  ++ (p.arguments.flatMap fun a =>
      let label := argumentLabel i.name p.name a.name
      match f.argument? a.name with
      | none => [.missingArgument label given]
      | some b =>
          if a.type = b.type then []
          else [.argumentType label a.type.text (argumentLabel t.name f.name b.name) b.type.text])
  ++ (f.arguments.flatMap fun b =>
      if b.isRequired && (p.argument? b.name).isNone then
        [.extraRequiredArgument (argumentLabel t.name f.name b.name) b.type.text promised]
      else [])
  ++ if f.deprecated && !p.deprecated then [.deprecatedImplementation promised given] else []

/-- A type does not do what an interface promises. -/
def implementationFaults (s : Schema) (t i : NamedType) : List Fault :=
  i.fields.flatMap fun p =>
    match t.field? p.name with
    | none => [.missingField (fieldLabel i.name p.name) t.name]
    | some f => promiseFaults s t i p f

/-- The violations of the interfaces of a type; `seen` are those that are done. -/
def interfaceFaults (s : Schema) (t : NamedType) : List String → List String → List Fault
  | [], _ => []
  | name :: r, seen =>
      match s.type? name with
      | none => interfaceFaults s t r seen
      | some i =>
          if !i.isInterface then .notAnInterface t.name name :: interfaceFaults s t r seen
          else
            (if name = t.name then [.implementsItself t.name] else [])
              ++ if seen.contains name then
                  .implementsTwice t.name name :: interfaceFaults s t r seen
                else
                  ancestorFaults t i ++ implementationFaults s t i
                    ++ interfaceFaults s t r (name :: seen)

/-- The violations of the members of a union; `seen` are those that are done. -/
def memberFaults (s : Schema) (t : NamedType) : List String → List String → List Fault
  | [], _ => []
  | name :: r, seen =>
      if !((s.type? name).map NamedType.isObject).getD false then
        .memberNotObject t.name name :: memberFaults s t r seen
      else if seen.contains name then .memberTwice t.name name :: memberFaults s t r seen
      else memberFaults s t r (name :: seen)

/-! ## Input objects -/

/-- The violations of the fields of an input object. -/
def inputFieldsFaults (s : Schema) (t : NamedType) (fields : List Input) (oneOf : Bool) :
    List Fault :=
  (if fields.isEmpty then [.noInputFields t.name] else [])
    ++ fields.flatMap fun f =>
      let label := fieldLabel t.name f.name
      nameFaults f.name
        ++ (if isInputType s f.type then [] else [.notInputType label f.type.text])
        ++ (if f.isRequired && f.deprecated then [.deprecatedInputField label] else [])
        ++ defaultFaults s label f
        ++ (if oneOf && f.type.isNonNull then [.oneOfNonNull label] else [])
        ++ if oneOf && f.default?.isSome then [.oneOfDefault label] else []

/-- What a search for circles through default values has found: the fields that it has opened, and
    the violations. -/
structure DefaultSearch where
  visited : List String
  faults : List Fault

mutual

/-- Searches the default values that complete a literal of an input object.  `path` holds the fields
    whose default values are open; the fuel bounds the number of values and fields entered. -/
def searchLiteral (s : Schema) :
    Nat → NamedType → Value → List String → DefaultSearch → DefaultSearch
  | 0, _, _, _, st => st
  | n + 1, t, v, path, st =>
      match v with
      | .list items _ => items.foldl (fun st v => searchLiteral s n t v path st) st
      | .object fields _ =>
          t.inputFields.foldl (fun st f =>
            match s.baseType? f.type with
            | none => st
            | some ft =>
                if !ft.isInputObject then st
                else match fields.reverse.find? fun g => g.1.text == f.name with
                  | some g => searchLiteral s n ft g.2 path st
                  | none => searchField s n t f ft path st) st
      | _ => st

/-- Searches the default value of a field. -/
def searchField (s : Schema) :
    Nat → NamedType → Input → NamedType → List String → DefaultSearch → DefaultSearch
  | 0, _, _, _, _, st => st
  | n + 1, t, f, ft, path, st =>
      match f.default? with
      | none => st
      | some v =>
          let label := fieldLabel t.name f.name
          if path.contains label then
            let via := (path.dropWhile fun p => p != label).drop 1
            { st with faults := st.faults ++ [.circularDefault label via] }
          else if st.visited.contains label then st
          else
            searchLiteral s n ft v (path ++ [label]) { st with visited := label :: st.visited }

end

/-- The number of input fields of a schema. -/
def inputFieldCount (s : Schema) : Nat :=
  s.types.foldl (fun n t => n + t.inputFields.length) 0

/-- The search from an input object of which nothing is given.  No path visits a field twice, and a
    literal is no deeper than documents may be nested. -/
def searchDefaults (s : Schema) (t : NamedType) (st : DefaultSearch) : DefaultSearch :=
  searchLiteral s ((inputFieldCount s + 2) * 202) t (.object [] .first) [] st

/-- The input object that a field holds directly, not in a list. -/
def directInput? (s : Schema) (t : TypeRef) : Option NamedType :=
  match t.nullable with
  | .named n => (s.type? n).filter NamedType.isInputObject
  | _ => none

/-- The types by which a field keeps its object from having a finite value, unless they have one:
    every field that excludes null, and each alternative of a type that takes exactly one, in which
    no field excludes null. -/
def bindingFields (s : Schema) (t : NamedType) : List (Input × NamedType) :=
  match t.parts with
  | .input fields oneOf =>
      fields.filterMap fun f =>
        if oneOf != f.type.isNonNull then (directInput? s f.type).map (f, ·) else none
  | _ => []

/-- The input object has a finite value, given the names of objects that are known to have one. -/
def hasFiniteValue (s : Schema) (known : List String) (t : NamedType) : Bool :=
  match t.parts with
  | .input fields oneOf =>
      let fits (f : Input) : Bool :=
        match directInput? s f.type with
        | some u => known.contains u.name
        | none => true
      if oneOf then fields.isEmpty || fields.any fits
      else fields.all fun f => !f.type.isNonNull || fits f
  | _ => true

/-- The names of the input objects that have a finite value, found in rounds. -/
def finiteInputs (s : Schema) : Nat → List String → List String
  | 0, known => known
  | n + 1, known =>
      let found := s.types.filter fun t => t.isInputObject && hasFiniteValue s known t
      finiteInputs s n (found.map NamedType.name)

/-- What a search for endless input objects has found. -/
structure EndlessSearch where
  visited : List String
  faults : List Fault

/-- Follows binding fields from an input object.  `path` holds the objects that are open, each with
    the field by which it was left. -/
def searchEndless (s : Schema) (finite : List String) :
    Nat → NamedType → List (String × String) → EndlessSearch → EndlessSearch
  | 0, _, _, st => st
  | n + 1, t, path, st =>
      if st.visited.contains t.name then st
      else
        let st := { st with visited := t.name :: st.visited }
        (bindingFields s t).foldl (fun st (f, u) =>
          if finite.contains u.name then st
          else
            let path := path ++ [(t.name, fieldLabel t.name f.name)]
            if path.any fun p => p.1 == u.name then
              let circle := (path.dropWhile fun p => p.1 != u.name).map (·.2)
              { st with faults := st.faults ++ [.endlessInput u.name circle] }
            else searchEndless s finite n u path st) st

/-! ## Types in order -/

/-- The violations found so far, and what the search for circles through default values remembers.
    -/
structure TypesState where
  faults : List Fault
  defaults : List String

/-- Adds the violations of one type. -/
def typeFaults (s : Schema) (misused : List (String × Misuse)) (st : TypesState) (t : NamedType) :
    TypesState :=
  let st := { st with
    faults := st.faults ++ if isIntrospectionName t.name then [] else nameFaults t.name }
  let add (fs : List Fault) : TypesState := { st with faults := st.faults ++ fs }
  match t.parts with
  | .scalar => st
  | .object is _ | .interface is _ => add (fieldsFaults s t ++ interfaceFaults s t is [])
  | .union ms =>
      add ((if ms.isEmpty then [.noMembers t.name] else []) ++ memberFaults s t ms [])
  | .enum values =>
      add (((misused.filter fun m => m.1 == t.name).map fun m => .valuesMisused m.2)
        ++ (if values.isEmpty then [.noValues t.name] else []) ++ values.flatMap nameFaults)
  | .input fields oneOf =>
      let defaults := searchDefaults s t ⟨st.defaults, []⟩
      { faults := st.faults ++ inputFieldsFaults s t fields oneOf ++ defaults.faults
        defaults := defaults.visited }

/-- The input objects that contain themselves without end. -/
def endlessFaults (s : Schema) : List Fault :=
  let finite := finiteInputs s (s.types.length + 1) []
  (s.types.foldl (fun st t =>
    if !t.isInputObject || finite.contains t.name then st
    else searchEndless s finite (s.types.length + 1) t [] st) ⟨[], []⟩).faults

/-- All violations of a schema, in order; `misused` are the enums of which the values cannot be
    evaluated. -/
def faults (s : Schema) (misused : List (String × Misuse)) : List Fault :=
  rootFaults s ++ s.directives.flatMap (directiveFaults s)
    ++ (s.types.foldl (typeFaults s misused) ⟨[], []⟩).faults ++ endlessFaults s

end QueryTypings.Schema
