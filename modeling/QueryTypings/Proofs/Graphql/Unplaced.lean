/-
  Pieces of a document without their places.

  1. **Without places** — `unplaced` puts every place in a piece of a document at the start of the
     text, and leaves the rest as it is.

  2. **Places are lost** — a tree holds no places, so a piece and the piece without places are the
     same tree (`Operation.tree_unplaced`, `Fragment.tree_unplaced`).
-/
import QueryTypings.Graphql.Document.Tree

namespace QueryTypings.Graphql

/-! ## Without places -/

def Name.unplaced (n : Name) : Name := ⟨n.text, .first⟩

mutual

def Value.unplaced : Value → Value
  | .variable n _ => .variable n.unplaced .first
  | .int d _ => .int d .first
  | .float d _ => .float d .first
  | .string s b _ => .string s b .first
  | .boolean b _ => .boolean b .first
  | .null _ => .null .first
  | .enum n _ => .enum n .first
  | .list items _ => .list (valuesUnplaced items) .first
  | .object fields _ => .object (objectFieldsUnplaced fields) .first

def valuesUnplaced : List Value → List Value
  | [] => []
  | v :: r => v.unplaced :: valuesUnplaced r

def objectFieldsUnplaced : List (Name × Value) → List (Name × Value)
  | [] => []
  | (n, v) :: r => (n.unplaced, v.unplaced) :: objectFieldsUnplaced r

end

theorem valuesUnplaced_eq (vs : List Value) : valuesUnplaced vs = vs.map Value.unplaced := by
  induction vs with
  | nil => rfl
  | cons v r ih => rw [valuesUnplaced, ih, List.map_cons]

theorem objectFieldsUnplaced_eq (fs : List (Name × Value)) :
    objectFieldsUnplaced fs = fs.map fun f => (f.1.unplaced, f.2.unplaced) := by
  induction fs with
  | nil => rfl
  | cons f r ih => rw [objectFieldsUnplaced, ih, List.map_cons]

def TypeNode.unplaced : TypeNode → TypeNode
  | .named n => .named n.unplaced
  | .list t _ => .list t.unplaced .first
  | .nonNull t => .nonNull t.unplaced

def Argument.unplaced (a : Argument) : Argument := ⟨a.name.unplaced, a.value.unplaced⟩

def Directive.unplaced (d : Directive) : Directive :=
  ⟨d.name.unplaced, d.arguments.map Argument.unplaced, .first⟩

def FieldHead.unplaced (f : FieldHead) : FieldHead :=
  ⟨f.aliasName.map Name.unplaced, f.name.unplaced, f.arguments.map Argument.unplaced,
    f.directives.map Directive.unplaced, .first⟩

mutual

def Selection.unplaced : Selection → Selection
  | .leaf f => .leaf f.unplaced
  | .branch f _ ss => .branch f.unplaced .first (selectionsUnplaced ss)
  | .inline c ds _ _ ss =>
      .inline (c.map Name.unplaced) (ds.map Directive.unplaced) .first .first (selectionsUnplaced ss)
  | .spread n ds _ => .spread n.unplaced (ds.map Directive.unplaced) .first

def selectionsUnplaced : List Selection → List Selection
  | [] => []
  | s :: r => s.unplaced :: selectionsUnplaced r

end

def VariableDefinition.unplaced (v : VariableDefinition) : VariableDefinition :=
  ⟨v.description, v.name.unplaced, .first, v.type.unplaced, v.default?.map Value.unplaced,
    v.directives.map Directive.unplaced, .first⟩

def Operation.unplaced (o : Operation) : Operation :=
  ⟨o.description, o.kind, o.name?.map Name.unplaced,
    o.variableDefinitions.map VariableDefinition.unplaced, o.directives.map Directive.unplaced,
    selectionsUnplaced o.selections, .first, .first⟩

def Fragment.unplaced (f : Fragment) : Fragment :=
  ⟨f.description, f.name.unplaced, f.condition.unplaced, f.directives.map Directive.unplaced,
    selectionsUnplaced f.selections, .first, .first⟩

def InputDefinition.unplaced (i : InputDefinition) : InputDefinition :=
  ⟨i.description, i.name.unplaced, i.type.unplaced, i.default?.map Value.unplaced,
    i.directives.map Directive.unplaced⟩

def FieldDefinition.unplaced (f : FieldDefinition) : FieldDefinition :=
  ⟨f.description, f.name.unplaced, f.arguments.map InputDefinition.unplaced, f.type.unplaced,
    f.directives.map Directive.unplaced⟩

def EnumValueDefinition.unplaced (v : EnumValueDefinition) : EnumValueDefinition :=
  ⟨v.description, v.name.unplaced, v.directives.map Directive.unplaced⟩

def TypeParts.unplaced : TypeParts → TypeParts
  | .scalar => .scalar
  | .object is fs => .object (is.map Name.unplaced) (fs.map FieldDefinition.unplaced)
  | .interface is fs => .interface (is.map Name.unplaced) (fs.map FieldDefinition.unplaced)
  | .union ms => .union (ms.map Name.unplaced)
  | .enum vs => .enum (vs.map EnumValueDefinition.unplaced)
  | .input fs => .input (fs.map InputDefinition.unplaced)

def TypeDefinition.unplaced (t : TypeDefinition) : TypeDefinition :=
  ⟨t.isExtension, t.description, t.name.unplaced, t.directives.map Directive.unplaced,
    t.parts.unplaced, .first⟩

def SchemaDefinition.unplaced (d : SchemaDefinition) : SchemaDefinition :=
  ⟨d.isExtension, d.description, d.directives.map Directive.unplaced,
    d.roots.map fun r => (r.1, r.2.unplaced), .first⟩

def DirectiveDefinition.unplaced (d : DirectiveDefinition) : DirectiveDefinition :=
  ⟨d.description, d.name.unplaced, d.arguments.map InputDefinition.unplaced,
    d.directives.map Directive.unplaced, d.repeatable, d.locations.map Name.unplaced, .first⟩

def DirectiveExtension.unplaced (d : DirectiveExtension) : DirectiveExtension :=
  ⟨d.name.unplaced, d.directives.map Directive.unplaced, .first⟩

def Definition.unplaced : Definition → Definition
  | .operation o => .operation o.unplaced
  | .fragment f => .fragment f.unplaced
  | .schema d => .schema d.unplaced
  | .type t => .type t.unplaced
  | .directive d => .directive d.unplaced
  | .directiveExtension d => .directiveExtension d.unplaced

def Document.unplaced (d : Document) : Document := d.map Definition.unplaced

@[simp] theorem Name.text_unplaced (n : Name) : n.unplaced.text = n.text := rfl

/-! ## Places are lost -/

section Lists

variable {α : Type} {tree : α → Tree} {f : α → α}

theorem map_tree_unplaced (h : ∀ x, tree (f x) = tree x) (xs : List α) :
    (xs.map f).map tree = xs.map tree := by
  rw [List.map_map]
  exact List.map_congr_left fun x _ => h x

theorem option_tree_unplaced (h : ∀ x, tree (f x) = tree x) (a : Option α) :
    (a.map f).map tree = a.map tree := by
  rw [Option.map_map]
  exact Option.map_congr fun x _ => h x

end Lists

theorem Name.tree_unplaced (n : Name) : n.unplaced.tree = n.tree := rfl

theorem variableTree_unplaced (n : Name) : variableTree n.unplaced = variableTree n := rfl

theorem namedTypeTree_unplaced (n : Name) : namedTypeTree n.unplaced = namedTypeTree n := rfl

mutual

theorem Value.tree_unplaced : ∀ v : Value, v.unplaced.tree = v.tree
  | .variable _ _ | .int _ _ | .float _ _ | .string _ _ _ | .boolean _ _ | .null _ | .enum _ _ => rfl
  | .list items _ => by
      rw [Value.unplaced, Value.tree, Value.tree, valueTrees_unplaced items]
  | .object fields _ => by
      rw [Value.unplaced, Value.tree, Value.tree, objectFieldTrees_unplaced fields]

theorem valueTrees_unplaced : ∀ items : List Value,
    valueTrees (valuesUnplaced items) = valueTrees items
  | [] => rfl
  | v :: r => by
      rw [valuesUnplaced, valueTrees, valueTrees, Value.tree_unplaced v, valueTrees_unplaced r]

theorem objectFieldTrees_unplaced : ∀ fields : List (Name × Value),
    objectFieldTrees (objectFieldsUnplaced fields) = objectFieldTrees fields
  | [] => rfl
  | (n, v) :: r => by
      rw [objectFieldsUnplaced, objectFieldTrees, objectFieldTrees, Value.tree_unplaced v,
        objectFieldTrees_unplaced r, Name.tree_unplaced]

end

theorem TypeNode.tree_unplaced (t : TypeNode) : t.unplaced.tree = t.tree := by
  induction t with
  | named n => rfl
  | list t _ ih => rw [TypeNode.unplaced, TypeNode.tree, TypeNode.tree, ih]
  | nonNull t ih => rw [TypeNode.unplaced, TypeNode.tree, TypeNode.tree, ih]

theorem Argument.tree_unplaced (a : Argument) : a.unplaced.tree = a.tree := by
  rw [Argument.unplaced, Argument.tree, Argument.tree, Value.tree_unplaced, Name.tree_unplaced]

theorem Directive.tree_unplaced (d : Directive) : d.unplaced.tree = d.tree := by
  rw [Directive.unplaced, Directive.tree, Directive.tree,
    map_tree_unplaced Argument.tree_unplaced, Name.tree_unplaced]

theorem fieldTree_unplaced (f : FieldHead) (selectionSet : Option Tree) :
    fieldTree f.unplaced selectionSet = fieldTree f selectionSet := by
  rw [FieldHead.unplaced, fieldTree, fieldTree, map_tree_unplaced Directive.tree_unplaced,
    map_tree_unplaced Argument.tree_unplaced, option_tree_unplaced Name.tree_unplaced,
    Name.tree_unplaced]

mutual

theorem Selection.tree_unplaced : ∀ s : Selection, s.unplaced.tree = s.tree
  | .leaf f => fieldTree_unplaced f none
  | .branch f _ ss => by
      rw [Selection.unplaced, Selection.tree, Selection.tree, fieldTree_unplaced,
        selectionTrees_unplaced ss]
  | .inline c ds _ _ ss => by
      rw [Selection.unplaced, Selection.tree, Selection.tree,
        option_tree_unplaced namedTypeTree_unplaced, map_tree_unplaced Directive.tree_unplaced,
        selectionTrees_unplaced ss]
  | .spread n ds _ => by
      rw [Selection.unplaced, Selection.tree, Selection.tree,
        map_tree_unplaced Directive.tree_unplaced, Name.tree_unplaced]

theorem selectionTrees_unplaced : ∀ ss : List Selection,
    selectionTrees (selectionsUnplaced ss) = selectionTrees ss
  | [] => rfl
  | s :: r => by
      rw [selectionsUnplaced, selectionTrees, selectionTrees, Selection.tree_unplaced s,
        selectionTrees_unplaced r]

end

theorem VariableDefinition.tree_unplaced (v : VariableDefinition) : v.unplaced.tree = v.tree := by
  rw [VariableDefinition.unplaced, VariableDefinition.tree, VariableDefinition.tree,
    option_tree_unplaced Value.tree_unplaced, map_tree_unplaced Directive.tree_unplaced,
    TypeNode.tree_unplaced, variableTree_unplaced]

theorem Operation.tree_unplaced (o : Operation) : o.unplaced.tree = o.tree := by
  rw [Operation.unplaced, Operation.tree, Operation.tree, option_tree_unplaced Name.tree_unplaced,
    map_tree_unplaced VariableDefinition.tree_unplaced, map_tree_unplaced Directive.tree_unplaced,
    selectionTrees_unplaced]

theorem Fragment.tree_unplaced (f : Fragment) : f.unplaced.tree = f.tree := by
  rw [Fragment.unplaced, Fragment.tree, Fragment.tree, map_tree_unplaced Directive.tree_unplaced,
    selectionTrees_unplaced, Name.tree_unplaced, namedTypeTree_unplaced]

end QueryTypings.Graphql
