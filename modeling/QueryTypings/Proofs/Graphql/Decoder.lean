/-
  The encoding of a document loses nothing but the places.

  1. **Reading a tree** — the nodes of a tree are read as the pieces that they stand for, by their
     kinds.  What a piece becomes as a tree is read as the piece without its places
     (`Operation.ofTree?_tree`, `Fragment.ofTree?_tree`), by induction on the piece.

  2. **The decoder** — JSON is read as a tree and then as a definition.  The JSON of an operation or
     a fragment gives it back without its places, in whichever order the members of objects stand
     (`decodeDefinition_operation`, `decodeDefinition_fragment`).

  3. **Nothing else is lost** — so definitions with the same JSON differ in places only; and those
     that differ in places only have the same JSON (`encoding_loses_only_places`).
-/
import QueryTypings.Proofs.Graphql.Conversion
import QueryTypings.Proofs.Graphql.Recovery
import QueryTypings.Proofs.Graphql.Unplaced

namespace QueryTypings.Graphql

/-! ## Reading a tree -/

section Parts

variable {α β : Type} {read : Tree → Option β} {tree : α → Tree} {f : α → β}

/-- Reads a part that may be absent. -/
def readMaybe (read : Tree → Option β) : Option Tree → Option (Option β)
  | none => some none
  | some t => (read t).map some

/-- Reads all items of a list, which is absent if it is empty. -/
def readList (read : Tree → Option β) : Option Tree → Option (List β)
  | none => some []
  | some (.list items) => items.mapM read
  | _ => none

theorem readMaybe_map (h : ∀ x, read (tree x) = some (f x)) (a : Option α) :
    readMaybe read (a.map tree) = some (a.map f) := by
  cases a with
  | none => rfl
  | some x => exact congrArg (Option.map some) (h x)

theorem readList_listTree? (h : ∀ x, read (tree x) = some (f x)) (xs : List α) :
    readList read (listTree? (xs.map tree)) = some (xs.map f) := by
  have hitems : (xs.map tree).mapM read = some (xs.map f) := by
    induction xs with
    | nil => rfl
    | cons x r ih =>
        rw [List.map_cons, List.mapM_cons, h, ih]
        rfl
  cases xs with
  | nil => rfl
  | cons x r => exact hitems

end Parts

def Name.ofTree? : Tree → Option Name
  | .node "name" [(_, some (.text s))] => some ⟨s, .first⟩
  | _ => none

def variableOfTree? : Tree → Option Name
  | .node "variable" [(_, some n)] => Name.ofTree? n
  | _ => none

def namedTypeOfTree? : Tree → Option Name
  | .node "named_type" [(_, some n)] => Name.ofTree? n
  | _ => none

mutual

def Value.ofTree? : Tree → Option Value
  | .node "variable" [(_, some n)] => (Name.ofTree? n).map fun n => .variable n .first
  | .node "int_value" [(_, some (.text d))] => some (.int d .first)
  | .node "float_value" [(_, some (.text d))] => some (.float d .first)
  | .node "string_value" [(_, some (.text s)), (_, some (.flag b))] => some (.string s b .first)
  | .node "boolean_value" [(_, some (.flag b))] => some (.boolean b .first)
  | .node "null_value" [] => some (.null .first)
  | .node "enum_value" [(_, some (.text n))] => some (.enum n .first)
  | .node "list_value" [(_, some (.list items))] =>
      (valuesOfTrees? items).map fun vs => .list vs .first
  | .node "object_value" [(_, some (.list fields))] =>
      (objectFieldsOfTrees? fields).map fun fs => .object fs .first
  | _ => none

def valuesOfTrees? : List Tree → Option (List Value)
  | [] => some []
  | t :: r => do return (← Value.ofTree? t) :: (← valuesOfTrees? r)

def objectFieldsOfTrees? : List Tree → Option (List (Name × Value))
  | [] => some []
  | .node "object_field" [(_, some n), (_, some v)] :: r => do
      return (← Name.ofTree? n, ← Value.ofTree? v) :: (← objectFieldsOfTrees? r)
  | _ => none

end

def TypeNode.ofTree? : Tree → Option TypeNode
  | .node "named_type" [(_, some n)] => (Name.ofTree? n).map .named
  | .node "list_type" [(_, some t)] => (TypeNode.ofTree? t).map fun t => .list t .first
  | .node "non_null_type" [(_, some t)] => (TypeNode.ofTree? t).map .nonNull
  | _ => none

def Argument.ofTree? : Tree → Option Argument
  | .node "argument" [(_, some n), (_, some v)] => do
      return ⟨← Name.ofTree? n, ← Value.ofTree? v⟩
  | _ => none

def Directive.ofTree? : Tree → Option Directive
  | .node "directive" [(_, some n), (_, args)] => do
      return ⟨← Name.ofTree? n, ← readList Argument.ofTree? args, .first⟩
  | _ => none

def Description.ofTree? : Tree → Option Description
  | .node "string_value" [(_, some (.text s)), (_, some (.flag b))] => some ⟨s, b⟩
  | _ => none

/-- Reads a field from its parts, but what is selected of it. -/
def fieldOfParts? (directives : Option Tree) (name : Tree) (aliasName arguments : Option Tree) :
    Option FieldHead := do
  return ⟨← readMaybe Name.ofTree? aliasName, ← Name.ofTree? name,
    ← readList Argument.ofTree? arguments, ← readList Directive.ofTree? directives, .first⟩

mutual

def Selection.ofTree? : Tree → Option Selection
  | .node "field" [(_, ds), (_, some n), (_, a), (_, args), (_, none)] => do
      return .leaf (← fieldOfParts? ds n a args)
  | .node "field" [(_, ds), (_, some n), (_, a), (_, args),
      (_, some (.node "selection_set" [(_, some (.list items))]))] => do
      return .branch (← fieldOfParts? ds n a args) .first (← selectionsOfTrees? items)
  | .node "inline_fragment" [(_, ds), (_, some (.node "selection_set" [(_, some (.list items))])),
      (_, c)] => do
      return .inline (← readMaybe namedTypeOfTree? c) (← readList Directive.ofTree? ds) .first .first
        (← selectionsOfTrees? items)
  | .node "fragment_spread" [(_, ds), (_, some n)] => do
      return .spread (← Name.ofTree? n) (← readList Directive.ofTree? ds) .first
  | _ => none

def selectionsOfTrees? : List Tree → Option (List Selection)
  | [] => some []
  | t :: r => do return (← Selection.ofTree? t) :: (← selectionsOfTrees? r)

end

/-- Reads the selections of a selection set. -/
def selectionSetOfTree? : Tree → Option (List Selection)
  | .node "selection_set" [(_, some (.list items))] => selectionsOfTrees? items
  | _ => none

def VariableDefinition.ofTree? : Tree → Option VariableDefinition
  | .node "variable_definition" [(_, d), (_, some n), (_, some t), (_, v), (_, ds)] => do
      return ⟨← readMaybe Description.ofTree? d, ← variableOfTree? n, .first, ← TypeNode.ofTree? t,
        ← readMaybe Value.ofTree? v, ← readList Directive.ofTree? ds, .first⟩
  | _ => none

def OperationKind.ofWord? : String → Option OperationKind
  | "query" => some .query
  | "mutation" => some .mutation
  | "subscription" => some .subscription
  | _ => none

def Operation.ofTree? : Tree → Option Operation
  | .node "operation_definition"
      [(_, some ss), (_, d), (_, n), (_, vs), (_, ds), (_, some (.word kind))] => do
      return ⟨← readMaybe Description.ofTree? d, ← OperationKind.ofWord? kind,
        ← readMaybe Name.ofTree? n, ← readList VariableDefinition.ofTree? vs,
        ← readList Directive.ofTree? ds, ← selectionSetOfTree? ss, .first, .first⟩
  | _ => none

def Fragment.ofTree? : Tree → Option Fragment
  | .node "fragment_definition"
      [(_, some ss), (_, d), (_, some n), (_, some (.list [])), (_, ds), (_, some c)] => do
      return ⟨← readMaybe Description.ofTree? d, ← Name.ofTree? n, ← namedTypeOfTree? c,
        ← readList Directive.ofTree? ds, ← selectionSetOfTree? ss, .first, .first⟩
  | _ => none

theorem Name.ofTree?_tree (n : Name) : Name.ofTree? n.tree = some n.unplaced := rfl

mutual

theorem Value.ofTree?_tree : ∀ v : Value, Value.ofTree? v.tree = some v.unplaced
  | .variable _ _ | .int _ _ | .float _ _ | .string _ _ _ | .boolean _ _ | .null _ | .enum _ _ => rfl
  | .list items _ => by
      show (valuesOfTrees? (valueTrees items)).map _ = _
      rw [valuesOfTrees?_trees items]
      rfl
  | .object fields _ => by
      show (objectFieldsOfTrees? (objectFieldTrees fields)).map _ = _
      rw [objectFieldsOfTrees?_trees fields]
      rfl

theorem valuesOfTrees?_trees : ∀ items : List Value,
    valuesOfTrees? (valueTrees items) = some (valuesUnplaced items)
  | [] => rfl
  | v :: r => by
      rw [valueTrees, valuesOfTrees?, Value.ofTree?_tree v, valuesOfTrees?_trees r]
      rfl

theorem objectFieldsOfTrees?_trees : ∀ fields : List (Name × Value),
    objectFieldsOfTrees? (objectFieldTrees fields) = some (objectFieldsUnplaced fields)
  | [] => rfl
  | (n, v) :: r => by
      rw [objectFieldTrees, objectFieldsOfTrees?, Value.ofTree?_tree v,
        objectFieldsOfTrees?_trees r]
      rfl

end

theorem TypeNode.ofTree?_tree (t : TypeNode) : TypeNode.ofTree? t.tree = some t.unplaced := by
  induction t with
  | named n => rfl
  | list t _ ih =>
      rw [TypeNode.tree, TypeNode.ofTree?, ih]
      rfl
  | nonNull t ih =>
      rw [TypeNode.tree, TypeNode.ofTree?, ih]
      rfl

theorem Argument.ofTree?_tree (a : Argument) : Argument.ofTree? a.tree = some a.unplaced := by
  rw [Argument.tree, Argument.ofTree?, Value.ofTree?_tree]
  rfl

theorem Directive.ofTree?_tree (d : Directive) : Directive.ofTree? d.tree = some d.unplaced := by
  rw [Directive.tree, Directive.ofTree?, readList_listTree? Argument.ofTree?_tree]
  rfl

theorem fieldOfParts?_parts (f : FieldHead) :
    fieldOfParts? (listTree? (f.directives.map Directive.tree)) f.name.tree
        (f.aliasName.map Name.tree) (listTree? (f.arguments.map Argument.tree))
      = some f.unplaced := by
  rw [fieldOfParts?, readMaybe_map Name.ofTree?_tree, readList_listTree? Argument.ofTree?_tree,
    readList_listTree? Directive.ofTree?_tree]
  rfl

theorem namedTypeOfTree?_tree (n : Name) : namedTypeOfTree? (namedTypeTree n) = some n.unplaced :=
  rfl

/-- A description has no places. -/
theorem readMaybe_description (d : Option Description) :
    readMaybe Description.ofTree? (d.map Description.tree) = some d := by
  cases d <;> rfl

mutual

theorem Selection.ofTree?_tree : ∀ s : Selection, Selection.ofTree? s.tree = some s.unplaced
  | .leaf f => by
      rw [Selection.tree, fieldTree, Selection.ofTree?, fieldOfParts?_parts]
      rfl
  | .branch f _ ss => by
      rw [Selection.tree, fieldTree, selectionSetTree, Selection.ofTree?, fieldOfParts?_parts,
        selectionsOfTrees?_trees ss]
      rfl
  | .inline c ds _ _ ss => by
      rw [Selection.tree, selectionSetTree, Selection.ofTree?,
        readMaybe_map namedTypeOfTree?_tree c, readList_listTree? Directive.ofTree?_tree,
        selectionsOfTrees?_trees ss]
      rfl
  | .spread n ds _ => by
      rw [Selection.tree, Selection.ofTree?, readList_listTree? Directive.ofTree?_tree]
      rfl

theorem selectionsOfTrees?_trees : ∀ ss : List Selection,
    selectionsOfTrees? (selectionTrees ss) = some (selectionsUnplaced ss)
  | [] => rfl
  | s :: r => by
      rw [selectionTrees, selectionsOfTrees?, Selection.ofTree?_tree s, selectionsOfTrees?_trees r]
      rfl

end

theorem selectionSetOfTree?_tree (ss : List Selection) :
    selectionSetOfTree? (selectionSetTree (selectionTrees ss)) = some (selectionsUnplaced ss) :=
  selectionsOfTrees?_trees ss

theorem VariableDefinition.ofTree?_tree (v : VariableDefinition) :
    VariableDefinition.ofTree? v.tree = some v.unplaced := by
  rw [VariableDefinition.tree, VariableDefinition.ofTree?, readMaybe_description,
    TypeNode.ofTree?_tree, readMaybe_map Value.ofTree?_tree,
    readList_listTree? Directive.ofTree?_tree]
  rfl

theorem OperationKind.ofWord?_word (k : OperationKind) : OperationKind.ofWord? k.word = some k := by
  cases k <;> rfl

/-- **An operation is read from its tree.** -/
theorem Operation.ofTree?_tree (o : Operation) : Operation.ofTree? o.tree = some o.unplaced := by
  rw [Operation.tree, Operation.ofTree?, readMaybe_description,
    OperationKind.ofWord?_word, readMaybe_map Name.ofTree?_tree,
    readList_listTree? VariableDefinition.ofTree?_tree, readList_listTree? Directive.ofTree?_tree,
    selectionSetOfTree?_tree]
  rfl

/-- **A fragment is read from its tree.** -/
theorem Fragment.ofTree?_tree (f : Fragment) : Fragment.ofTree? f.tree = some f.unplaced := by
  rw [Fragment.tree, Fragment.ofTree?, readMaybe_description,
    readList_listTree? Directive.ofTree?_tree, selectionSetOfTree?_tree]
  rfl

/-! ## The decoder -/

/-- Reads a tree as an operation or a fragment. -/
def Definition.ofTree? (t : Tree) : Option Definition :=
  match Operation.ofTree? t with
  | some o => some (.operation o)
  | none => (Fragment.ofTree? t).map .fragment

/-- Reads JSON as an operation or a fragment. -/
def decodeDefinition (j : Json) : Option Definition := (Tree.ofJson false j).bind Definition.ofTree?

/-- **An operation is decoded**, however the members of objects are ordered. -/
theorem decodeDefinition_operation (o : Operation) {j : Json} (h : Json.Same o.encode j) :
    decodeDefinition j = some (.operation o.unplaced) := by
  have htree : Tree.ofJson false j = some o.tree := by
    rw [← ofJson_same h, Operation.encode_eq]
    exact recovered_operation o
  rw [decodeDefinition, htree, Option.bind_some, Definition.ofTree?, Operation.ofTree?_tree]

/-- **A fragment is decoded**, however the members of objects are ordered. -/
theorem decodeDefinition_fragment (f : Fragment) {j : Json} (h : Json.Same f.encode j) :
    decodeDefinition j = some (.fragment f.unplaced) := by
  have htree : Tree.ofJson false j = some f.tree := by
    rw [← ofJson_same h, Fragment.encode_eq]
    exact recovered_fragment f
  have hother : Operation.ofTree? f.tree = none := rfl
  rw [decodeDefinition, htree, Option.bind_some, Definition.ofTree?, hother, Fragment.ofTree?_tree]
  rfl

/-! ## Nothing else is lost -/

/-- Operations that differ in places only have one encoding. -/
theorem encode_congr_operation {o o' : Operation} (h : o.unplaced = o'.unplaced) :
    o.encode = o'.encode := by
  rw [Operation.encode_eq, Operation.encode_eq, ← o.tree_unplaced, h, o'.tree_unplaced]

/-- Fragments that differ in places only have one encoding. -/
theorem encode_congr_fragment {f f' : Fragment} (h : f.unplaced = f'.unplaced) :
    f.encode = f'.encode := by
  rw [Fragment.encode_eq, Fragment.encode_eq, ← f.tree_unplaced, h, f'.tree_unplaced]

/-- **The encoding loses nothing but places.**  The encoding of an operation or a fragment is the
    one conversion of its tree.  From any JSON that is the same value, the order of the members of
    objects aside, the decoder gives back the operation or the fragment without its places.  So two
    operations have the same JSON exactly if they differ in places only, two fragments likewise, and
    no operation has the JSON of a fragment. -/
theorem encoding_loses_only_places :
    (∀ o : Operation, o.encode = o.tree.toJson
        ∧ ∀ j, Json.Same o.encode j → decodeDefinition j = some (.operation o.unplaced))
      ∧ (∀ f : Fragment, f.encode = f.tree.toJson
        ∧ ∀ j, Json.Same f.encode j → decodeDefinition j = some (.fragment f.unplaced))
      ∧ (∀ o o' : Operation, Json.Same o.encode o'.encode ↔ o.unplaced = o'.unplaced)
      ∧ (∀ f f' : Fragment, Json.Same f.encode f'.encode ↔ f.unplaced = f'.unplaced)
      ∧ ∀ (o : Operation) (f : Fragment), ¬ Json.Same o.encode f.encode := by
  refine ⟨fun o => ⟨o.encode_eq, fun j => decodeDefinition_operation o⟩,
    fun f => ⟨f.encode_eq, fun j => decodeDefinition_fragment f⟩, ?_, ?_, ?_⟩
  · intro o o'
    constructor
    · intro h
      have hdecoded := decodeDefinition_operation o h
      rw [decodeDefinition_operation o' (.refl _)] at hdecoded
      injection hdecoded with hdefinition
      injection hdefinition with hsame
      exact hsame.symm
    · intro h
      rw [encode_congr_operation h]
      exact .refl _
  · intro f f'
    constructor
    · intro h
      have hdecoded := decodeDefinition_fragment f h
      rw [decodeDefinition_fragment f' (.refl _)] at hdecoded
      injection hdecoded with hdefinition
      injection hdefinition with hsame
      exact hsame.symm
    · intro h
      rw [encode_congr_fragment h]
      exact .refl _
  · intro o f h
    have hdecoded := decodeDefinition_operation o h
    rw [decodeDefinition_fragment f (.refl _)] at hdecoded
    cases hdecoded

-- The members of objects stand in another order than in an encoding.
example :
    decodeDefinition (.object [("operation", .string "query"),
        ("selectionSet", .object [("selections", .array []), ("kind", .string "SelectionSet")]),
        ("kind", .string "OperationDefinition")])
      = some (.operation ⟨none, .query, none, [], [], [], .first, .first⟩) := by
  rfl

end QueryTypings.Graphql
