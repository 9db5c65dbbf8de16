/-
  The rule on fields with one response key: they must be mergeable.

  Two fields with one key are compared wherever both may apply to one object.  They have to be the
  same field with the same arguments, unless they select of different object types, and their types
  must agree in either case; then what is selected of them is compared as well.

  Selection sets are compared with the fragments that they spread, and fragments with one another,
  each pair once: `Compared` remembers the pairs, over the whole document.  A pair that was compared
  under the assumption that its fields never meet in one object is compared again without it.

  The sets of operations, fields and fragments are gone through in turn; those of inline fragments
  belong to the sets around them.  A document in which too many fields have to be compared is
  checked no further.
-/
import QueryTypings.Check.Inquiry
import QueryTypings.OrderedMap
import Std.Data.HashMap

namespace QueryTypings.Check

open QueryTypings.Graphql QueryTypings.Schema QueryTypings.Text

/-! ## Equal arguments -/

mutual

/-- A literal in which the fields of objects stand in the order of their names. -/
def sortFields : Value → Value
  | .list items p => .list (sortItems items) p
  | .object fields p =>
      .object ((sortMembers fields).mergeSort fun a b => (naturalCompare a.1.text b.1.text).isLE) p
  | v => v

/-- The items of a list with sorted fields. -/
def sortItems : List Value → List Value
  | [] => []
  | v :: r => sortFields v :: sortItems r

/-- The fields of an object, their values with sorted fields. -/
def sortMembers : List (Name × Value) → List (Name × Value)
  | [] => []
  | (n, v) :: r => (n, sortFields v) :: sortMembers r

end

/-- Two lists of arguments say the same, in whatever order. -/
def sameArguments (a b : List Argument) : Bool :=
  a.length == b.length && a.all fun x =>
    match b.reverse.find? fun y => y.name.text == x.name.text with
    | some y => (sortFields x.value).print == (sortFields y.value).print
    | none => false

/-- Fields of which one is streamed cannot be merged, however alike they are streamed. -/
def streamConflict? (a b : List Directive) : Option ConflictReason :=
  let stream (ds : List Directive) : Option Directive := ds.find? fun d => d.name.text == "stream"
  match stream a, stream b with
  | none, none => none
  | some x, some y =>
      some (if sameArguments x.arguments y.arguments then .bothStreamed else .oneStreamed)
  | _, _ => some .oneStreamed

/-- Values of the two types differ in form: one is a list or excludes null where the other does not,
    or they are different leaves. -/
def formsDiffer (s : Schema) : TypeRef → TypeRef → Bool
  | .list a, .list b => formsDiffer s a b
  | .list _, _ => true
  | _, .list _ => true
  | .nonNull a, .nonNull b => formsDiffer s a b
  | .nonNull _, _ => true
  | _, .nonNull _ => true
  | .named a, .named b =>
      let leaf (n : String) : Bool := ((s.type? n).map NamedType.isLeaf).getD false
      (leaf a || leaf b) && a != b

/-! ## Fields of a selection set -/

/-- A selection set with the type of which it selects; the place where it begins tells it from all
    others. -/
structure SelectionSet where
  parent : Option NamedType
  opening : Position
  selections : List Selection

/-- A field with the type of which it is selected. -/
structure FieldUse where
  parent : Option NamedType
  head : FieldHead
  field? : Option Field
  selected : Option (Position × List Selection)

/-- A field of a type, those that every type has left out. -/
def ownField? (parent : Option NamedType) (f : FieldHead) : Option Field :=
  parent.bind fun t => t.field? f.name.text

mutual

/-- The fields of a selection, without those of named fragments. -/
def fieldsOfSelection (q : Inquiry) (parent : Option NamedType) : Selection → List FieldUse
  | .leaf f => [⟨parent, f, ownField? parent f, none⟩]
  | .branch f o ss => [⟨parent, f, ownField? parent f, some (o, ss)⟩]
  | .inline c _ _ _ ss =>
      fieldsOfSelections q (match c with
        | some n => q.schema.type? n.text
        | none => parent) ss
  | .spread _ _ _ => []

/-- The fields of selections. -/
def fieldsOfSelections (q : Inquiry) (parent : Option NamedType) : List Selection → List FieldUse
  | [] => []
  | s :: r => fieldsOfSelection q parent s ++ fieldsOfSelections q parent r

end

mutual

/-- The fragments that a selection spreads, those in selection sets of fields left out. -/
def spreadHere : Selection → List String
  | .leaf _ => []
  | .branch _ _ _ => []
  | .inline _ _ _ _ ss => spreadsHere ss
  | .spread n _ _ => [n.text]

/-- The fragments that selections spread at their own level. -/
def spreadsHere : List Selection → List String
  | [] => []
  | s :: r => spreadHere s ++ spreadsHere r

end

/-- Fields grouped by their keys. -/
def groupByKey (fields : List FieldUse) : OrderedMap (List FieldUse) :=
  fields.foldl (fun m f =>
    OrderedMap.put f.head.key ((OrderedMap.get? f.head.key m).getD [] ++ [f]) m) []

/-- The fields of a selection set by key. -/
def SelectionSet.fieldMap (q : Inquiry) (x : SelectionSet) : OrderedMap (List FieldUse) :=
  groupByKey (fieldsOfSelections q x.parent x.selections)

/-- The fragments of a selection set, each once. -/
def SelectionSet.fragments (x : SelectionSet) : List String := (spreadsHere x.selections).eraseDups

/-- The selection set of a fragment. -/
def ofFragment (q : Inquiry) (f : Fragment) : SelectionSet :=
  ⟨q.schema.type? f.condition.text, f.opening, f.selections⟩

/-- What is selected of a field. -/
def FieldUse.selectionSet? (q : Inquiry) (f : FieldUse) : Option SelectionSet :=
  f.selected.map fun (o, ss) => ⟨f.field?.bind fun d => q.schema.baseType? d.type, o, ss⟩

/-! ## Pairs that have been compared -/

/-- Pairs of a selection set and a fragment, and pairs of fragments; the truth value says that they
    were compared as mutually exclusive.  Pairs of fields are counted. -/
structure Compared where
  sets : Std.HashMap (Position × String) Bool
  fragments : Std.HashMap (String × String) Bool
  fields : Nat

/-- The greatest number of pairs of fields that are compared. -/
def comparisonLimit : Nat := 250000

/-- The pair has been compared, under an assumption that is no stronger. -/
def isCompared {α : Type} [BEq α] [Hashable α] (exclusive : Bool) (pair : α)
    (done : Std.HashMap α Bool) : Bool :=
  match done.get? pair with
  | none => false
  | some assumed => exclusive || !assumed

/-- Two names in a fixed order. -/
def unordered (a b : String) : String × String := if a < b then (a, b) else (b, a)

/-- A conflict: the key, the reason, and the place of the first field. -/
structure Conflict where
  key : String
  reason : ConflictReason
  position : Position

/-- Comparing adds to the pairs that have been compared, and stops if they are too many.  It stops as
    well where its fuel does not suffice, so that nothing is left out unnoticed. -/
abbrev Comparing := StateT Compared Option

/-- Counts a pair of fields. -/
def countFields : Comparing Unit := do
  let done ← get
  if comparisonLimit ≤ done.fields then failure
  set { done with fields := done.fields + 1 }

/-- Adds the pair of a selection set and a fragment; false if it had been compared. -/
def claimSet (exclusive : Bool) (opening : Position) (fragment : String) : Comparing Bool :=
  modifyGet fun done =>
    if isCompared exclusive (opening, fragment) done.sets then (false, done)
    else (true, { done with sets := done.sets.insert (opening, fragment) exclusive })

/-- Adds a pair of fragments; false if it had been compared. -/
def claimFragments (exclusive : Bool) (a b : String) : Comparing Bool :=
  modifyGet fun done =>
    if isCompared exclusive (unordered a b) done.fragments then (false, done)
    else (true, { done with fragments := done.fragments.insert (unordered a b) exclusive })

/-- The conflicts of each element in turn. -/
def conflictsOfEach {α : Type} (xs : List α) (f : α → Comparing (List Conflict)) :
    Comparing (List Conflict) := do
  let found ← xs.mapM f
  return found.flatten

/-- The conflicts of each element with each later one. -/
def conflictsOfPairs {α : Type} (f : α → α → Comparing (List Conflict)) :
    List α → Comparing (List Conflict)
  | [] => pure []
  | x :: r => do
      let here ← conflictsOfEach r (f x)
      let rest ← conflictsOfPairs f r
      return here ++ rest

/-! ## Comparing -/

/-- The conflict of two fields apart from what is selected of them. -/
def directConflict? (q : Inquiry) (exclusive : Bool) (a b : FieldUse) : Option ConflictReason :=
  if !exclusive && a.head.name.text != b.head.name.text then
    some (.differentFields a.head.name.text b.head.name.text)
  else if !exclusive && !sameArguments a.head.arguments b.head.arguments then
    some .differentArguments
  else
    match streamConflict? a.head.directives b.head.directives, a.field?, b.field? with
    | some reason, _, _ => some reason
    | none, some x, some y =>
        if formsDiffer q.schema x.type y.type then some (.differentTypes x.type.text y.type.text)
        else none
    | none, _, _ => none

/-- The two fields are selected of different object types, so that no object has both. -/
def neverMeet (a b : FieldUse) : Bool :=
  match a.parent, b.parent with
  | some s, some t => s.name != t.name && s.isObject && t.isObject
  | _, _ => false

mutual

/-- The conflict of two fields with one key. -/
def conflict? (q : Inquiry) (fuel : Nat) (exclusive : Bool) (key : String) (a b : FieldUse) :
    Comparing (List Conflict) :=
  match fuel with
  | 0 => failure
  | fuel + 1 => do
      countFields
      let exclusive := exclusive || neverMeet a b
      match directConflict? q exclusive a b with
      | some reason => return [⟨key, reason, a.head.position⟩]
      | none =>
          match a.selectionSet? q, b.selectionSet? q with
          | some x, some y =>
              let found ← betweenSets q fuel exclusive x y
              if found.isEmpty then return []
              let reason := .subfields (found.map fun c => (c.key, c.reason))
              return [⟨key, reason, a.head.position⟩]
          | _, _ => return []

/-- The conflicts between two groups of fields. -/
def betweenMaps (q : Inquiry) (fuel : Nat) (exclusive : Bool) (a b : OrderedMap (List FieldUse)) :
    Comparing (List Conflict) :=
  match fuel with
  | 0 => failure
  | fuel + 1 =>
      conflictsOfEach a fun (key, xs) =>
        let ys := (OrderedMap.get? key b).getD []
        conflictsOfEach xs fun x => conflictsOfEach ys fun y =>
          conflict? q fuel exclusive key x y

/-- The conflicts between a selection set and a fragment. -/
def withFragment (q : Inquiry) (fuel : Nat) (exclusive : Bool) (x : SelectionSet)
    (fragment : String) : Comparing (List Conflict) :=
  match fuel with
  | 0 => failure
  | fuel + 1 => do
      if !(← claimSet exclusive x.opening fragment) then return []
      match q.fragment? fragment with
      | none => return []
      | some f =>
          let y := ofFragment q f
          if x.opening == y.opening then return []
          let own ← betweenMaps q fuel exclusive (x.fieldMap q) (y.fieldMap q)
          let nested ← conflictsOfEach y.fragments (withFragment q fuel exclusive x)
          return own ++ nested

/-- The conflicts between two fragments. -/
def betweenFragments (q : Inquiry) (fuel : Nat) (exclusive : Bool) (a b : String) :
    Comparing (List Conflict) :=
  match fuel with
  | 0 => failure
  | fuel + 1 => do
      if a == b then return []
      if !(← claimFragments exclusive a b) then return []
      match q.fragment? a, q.fragment? b with
      | some f, some g =>
          let x := ofFragment q f
          let y := ofFragment q g
          let own ← betweenMaps q fuel exclusive (x.fieldMap q) (y.fieldMap q)
          let right ← conflictsOfEach y.fragments fun n => betweenFragments q fuel exclusive a n
          let left ← conflictsOfEach x.fragments fun n => betweenFragments q fuel exclusive n b
          return own ++ right ++ left
      | _, _ => return []

/-- The conflicts between what is selected of two fields. -/
def betweenSets (q : Inquiry) (fuel : Nat) (exclusive : Bool) (x y : SelectionSet) :
    Comparing (List Conflict) :=
  match fuel with
  | 0 => failure
  | fuel + 1 => do
      let own ← betweenMaps q fuel exclusive (x.fieldMap q) (y.fieldMap q)
      let right ← conflictsOfEach y.fragments (withFragment q fuel exclusive x)
      let left ← conflictsOfEach x.fragments (withFragment q fuel exclusive y)
      let fragments ← conflictsOfEach (x.fragments.flatMap fun a => y.fragments.map (a, ·))
        fun (a, b) => betweenFragments q fuel exclusive a b
      return own ++ right ++ left ++ fragments

end

/-- The conflicts inside one selection set: among its fields, between them and each fragment, and
    among the fragments. -/
def withinSet (q : Inquiry) (fuel : Nat) (x : SelectionSet) : Comparing (List Conflict) := do
  let own ← conflictsOfEach (x.fieldMap q) fun (key, fields) =>
    conflictsOfPairs (conflict? q fuel false key) fields
  let rec fragments : List String → Comparing (List Conflict)
    | [] => pure []
    | n :: r => do
        let here ← withFragment q fuel false x n
        let others ← conflictsOfEach r (betweenFragments q fuel false n)
        let rest ← fragments r
        return here ++ others ++ rest
  let more ← fragments x.fragments
  return own ++ more

/-! ## All selection sets -/

mutual

/-- The selection sets of the fields in a selection, outer ones first. -/
def setsInSelection (q : Inquiry) (p : Place) : Selection → List SelectionSet
  | .leaf _ => []
  | .branch f o ss =>
      let inner := p.ofField q f
      ⟨inner.parent, o, ss⟩ :: setsInSelections q inner ss
  | .inline c _ _ _ ss => setsInSelections q (p.ofCondition q c) ss
  | .spread _ _ _ => []

/-- The selection sets of the fields in selections. -/
def setsInSelections (q : Inquiry) (p : Place) : List Selection → List SelectionSet
  | [] => []
  | s :: r => setsInSelection q p s ++ setsInSelections q p r

end

/-- The selection sets of a definition. -/
def setsInDefinition (q : Inquiry) : Definition → List SelectionSet
  | .operation o =>
      let p := Place.ofOperation q o
      ⟨p.parent, o.opening, o.selections⟩ :: setsInSelections q p o.selections
  | .fragment f =>
      let p := Place.ofFragment q f
      ⟨p.parent, f.opening, f.selections⟩ :: setsInSelections q p f.selections
  | _ => []

/-- A bound for the length of a chain of comparisons.  A chain goes down through the selection sets
    until it meets a pair with a fragment; there are so many pairs, each compared twice at most. -/
def comparingFuel (q : Inquiry) (sets : Nat) : Nat :=
  let fragments := q.document.fragments.length
  (2 * fragments * (sets + fragments) + 1) * (4 * sets + 8)

/-- The conflicts of selection sets by the place where the set begins, as far as comparing goes. -/
def conflictsFrom (q : Inquiry) (fuel : Nat) :
    List SelectionSet → Compared → List (Position × List Issue)
  | [], _ => []
  | x :: r, done =>
      match (withinSet q fuel x).run done with
      | none => [(x.opening, [⟨.tooMuchWork, none⟩])]
      | some (conflicts, done) =>
          (x.opening, conflicts.map fun c => ⟨.conflict c.key c.reason, some c.position⟩)
            :: conflictsFrom q fuel r done

/-- The conflicts of all selection sets of the document, by the place where the set begins. -/
def setConflicts (q : Inquiry) : List (Position × List Issue) :=
  let sets := q.document.flatMap (setsInDefinition q)
  conflictsFrom q (comparingFuel q sets.length) sets ⟨∅, ∅, 0⟩

end QueryTypings.Check
