/-
  Rules on fields: which a type has, whether they need a selection set, and their arguments.
-/
import QueryTypings.BinaryInsertion
import QueryTypings.Check.Inquiry

namespace QueryTypings.Check

open QueryTypings.Graphql QueryTypings.Schema QueryTypings.Text

/-! ## Selection sets -/

/-- A field of a composite type has a selection set, any other has none. -/
def selectionSetIssues (q : Inquiry) (p : Place) (f : FieldHead) (opening : Option Position) :
    List Issue :=
  match p.field? q f with
  | none => []
  | some field =>
      match q.schema.baseType? field.type, opening with
      | some t, some o =>
          if t.isLeaf then [⟨.selectionOnLeaf f.name.text field.type.text, some o⟩] else []
      | some t, none =>
          if t.isLeaf then []
          else [⟨.missingSelection f.name.text field.type.text, some f.position⟩]
      | none, _ => []

/-! ## Unknown fields -/

/-- The types on which a field that an abstract type lacks could be selected, each with the number
    of uses: a possible type that has the field counts once, its interfaces that have it once for
    every such type.  A possible type stands before the interfaces that it brings in. -/
def inlineCandidates (q : Inquiry) (t : NamedType) (field : String) : List (NamedType × Nat) :=
  let owners := (q.schema.possibleTypes t).filter fun o => (o.field? field).isSome
  let uses := owners.flatMap fun o =>
    o :: (o.interfaces.filterMap q.schema.type?).filter fun i => (i.field? field).isSome
  let names := uses.map NamedType.name
  names.eraseDups.filterMap fun n => (q.schema.type? n).map (·, names.count n)

/-- A candidate goes before another: more uses first, an interface before what implements it, then
    by name.  This is no order of all types, as the interface rule and the names may disagree. -/
def goesBefore (a b : NamedType × Nat) : Bool :=
  if a.2 ≠ b.2 then decide (b.2 < a.2)
  else if a.1.isInterface && isPossibleType a.1 b.1 then true
  else if b.1.isInterface && isPossibleType b.1 a.1 then false
  else naturalCompare a.1.name b.1.name == .lt

/-- The types for which an inline fragment may be meant. -/
def inlineSuggestions (q : Inquiry) (t : NamedType) (field : String) : List String :=
  if t.isAbstract then
    (binaryInsertionSort goesBefore (inlineCandidates q t field)).map fun c => c.1.name
  else []

/-- The field is none of the type's. -/
def unknownFieldIssues (q : Inquiry) (p : Place) (f : FieldHead) : List Issue :=
  match p.parent with
  | none => []
  | some t =>
      if (selectableField? q.schema t f.name.text).isSome then []
      else
        let near := suggestions f.name.text (t.fields.map Field.name)
        [⟨.unknownField f.name.text t.name (inlineSuggestions q t f.name.text) near,
          some f.position⟩]

/-! ## Arguments -/

/-- How messages name a field of the type at a place. -/
def fieldLabel (p : Place) (f : FieldHead) : String :=
  ((p.parent.map NamedType.name).getD "") ++ "." ++ f.name.text

/-- The issues of one argument of a field: it is unknown, or its value does not fit. -/
def argumentIssues (q : Inquiry) (p : Place) (f : FieldHead) (a : Argument) : List Issue :=
  match p.field? q f with
  | none => valueIssues q.schema none a.value
  | some field =>
      let input := field.argument? a.name.text
      let unknown :=
        if input.isSome then []
        else
          let near := suggestions a.name.text (field.arguments.map Input.name)
          [⟨.unknownArgument a.name.text (fieldLabel p f) near, some a.name.position⟩]
      unknown ++ valueIssues q.schema input a.value

/-- How messages name a field of which an argument is missing.  Fields that hold descriptions of the
    schema are named apart from their types. -/
def requiringLabel (p : Place) (f : FieldHead) (field : Field) : String :=
  if isIntrospectionName field.type.base then "<meta>." ++ f.name.text else fieldLabel p f

/-- Arguments that a field requires and is not given. -/
def missingArguments (q : Inquiry) (p : Place) (f : FieldHead) : List Issue :=
  match p.field? q f with
  | none => []
  | some field =>
      field.arguments.flatMap fun i =>
        if i.isRequired && !f.arguments.any fun a => a.name.text == i.name then
          [⟨.missingArgument (requiringLabel p f field) i.name i.type.text, some f.position⟩]
        else []

/-! ## Introspection -/

/-- The fields that lead from a description of the schema to lists of further descriptions. -/
def listingFields : List String := ["fields", "interfaces", "possibleTypes", "inputFields"]

/-- The greatest number of such fields inside one another, by the depth reached at a selection. -/
def listingLimit : Nat := 3

mutual

/-- A selection goes through too many listing fields, `depth` of which are around it; `follow`
    answers for the fragment of a given name at a given depth. -/
def selectionTooDeep (follow : String → Nat → Bool) (depth : Nat) : Selection → Bool
  | .leaf f => listingFields.contains f.name.text && listingLimit ≤ depth + 1
  | .branch f _ ss =>
      if listingFields.contains f.name.text then
        listingLimit ≤ depth + 1 || anyTooDeep follow (depth + 1) ss
      else anyTooDeep follow depth ss
  | .inline _ _ _ _ ss => anyTooDeep follow depth ss
  | .spread n _ _ => follow n.text depth

/-- One of several selections goes too deep. -/
def anyTooDeep (follow : String → Nat → Bool) (depth : Nat) : List Selection → Bool
  | [] => false
  | s :: r => selectionTooDeep follow depth s || anyTooDeep follow depth r

end

/-- The fragments that go too deep, each with the number of listing fields around it.  In every
    round those are added that lead to one found before; the fuel bounds the rounds. -/
def deepFragments (q : Inquiry) : Nat → List (String × Nat) → List (String × Nat)
  | 0, known => known
  | fuel + 1, known =>
      let follow (name : String) (depth : Nat) : Bool := known.contains (name, depth)
      let names := (q.document.fragments.map fun f => f.name.text).eraseDups
      let found := names.flatMap fun n => (List.range listingLimit).filterMap fun depth =>
        match q.fragment? n with
        | some f => if anyTooDeep follow depth f.selections then some (n, depth) else none
        | none => none
      if found.length = known.length then known else deepFragments q fuel found

/-- A description of the schema goes too deep. -/
def introspectionIssues (q : Inquiry) (f : FieldHead) (ss : List Selection) : List Issue :=
  if f.name.text = schemaField.name || f.name.text = typeField.name then
    let deep := deepFragments q (listingLimit * q.document.fragments.length + 1) []
    if anyTooDeep (fun n depth => deep.contains (n, depth)) 0 ss then
      [⟨.introspectionTooDeep, some f.position⟩]
    else []
  else []

end QueryTypings.Check
