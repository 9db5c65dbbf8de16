/-
  The encoding of a document is one conversion of its tree.

  1. **Parts** — a part of an encoding is the part of the tree under the name of its key, as JSON:
     one that is always there, one that may be absent, and a list that is absent if it is empty
     (`PartEncoded`).  Parts that are absent drop out on both sides (`presentParts_eq`).

  2. **Nodes** — so a node of an encoding is the node of the tree as JSON, if its kind has that name
     and its parts go with those of the tree one by one (`encode_node`).

  3. **Documents** — by induction on the piece, the encoding of each piece of a document is its tree
     as JSON (`Operation.encode_eq`, `Fragment.encode_eq`).  The names of kinds and keys that the
     encoding spells out are those that come of joining words.
-/
import QueryTypings.Graphql.Document.Encode
import QueryTypings.Graphql.Document.Tree
import Mathlib.Data.List.Forall2

namespace QueryTypings.Graphql

/-! ## Parts -/

/-- A part of a node as JSON. -/
def PartEncoded (q : Part) (p : String × Option Tree) : Prop :=
  q = (keyName p.1, p.2.map Tree.toJson)

section Parts

variable {α : Type} {name key : String} {encode : α → Json} {tree : α → Tree}

theorem PartEncoded.there {j : Json} {t : Tree} (hname : name = keyName key) (h : j = t.toJson) :
    PartEncoded (always name j) (key, some t) := by
  rw [PartEncoded, always, hname, h]
  rfl

theorem PartEncoded.maybe (hname : name = keyName key) (h : ∀ x, encode x = (tree x).toJson)
    (a : Option α) : PartEncoded (name, a.map encode) (key, a.map tree) := by
  rw [PartEncoded, hname, Option.map_map]
  exact congrArg (fun f => (keyName key, a.map f)) (funext h)

theorem PartEncoded.list (hname : name = keyName key) (h : ∀ x, encode x = (tree x).toJson)
    (xs : List α) :
    PartEncoded (unlessEmpty name (xs.map encode)) (key, listTree? (xs.map tree)) := by
  have hitems : xs.map encode = jsonOfTrees (xs.map tree) := by
    induction xs with
    | nil => rfl
    | cons x r ih => rw [List.map_cons, List.map_cons, jsonOfTrees, h, ih]
  rw [PartEncoded, hname, hitems]
  cases xs with
  | nil => rfl
  | cons x r => rfl

theorem presentParts_eq {ps : List Part} {parts : List (String × Option Tree)}
    (h : List.Forall₂ PartEncoded ps parts) : presentParts ps = membersOfParts parts := by
  induction h with
  | nil => rfl
  | @cons q p _ _ hq _ ih =>
      obtain ⟨k, x⟩ := p
      rw [PartEncoded] at hq
      cases x with
      | none => rw [hq]; exact ih
      | some t => rw [hq]; exact congrArg (List.cons (keyName k, t.toJson)) ih

/-- **A node of an encoding**, by its kind and its parts. -/
theorem encode_node {kind : String} {ps : List Part} {parts : List (String × Option Tree)}
    (hname : name = kindName kind) (h : List.Forall₂ PartEncoded ps parts) :
    node name ps = (Tree.node kind parts).toJson := by
  rw [node, Tree.toJson, hname, presentParts_eq h]

end Parts

/-! ## Documents -/

theorem encodeName_eq (n : Name) : encodeName n.text = n.tree.toJson := rfl

theorem encodeNamed_eq (n : Name) : encodeNamed n = (namedTypeTree n).toJson := rfl

theorem encodeString_eq (text : String) (block : Bool) :
    encodeString text block = (stringTree text block).toJson := rfl

/-- A node with one part that is always there. -/
theorem encode_single {kind name key word : String} {j : Json} {t : Tree}
    (hkind : word = kindName kind) (hname : name = keyName key) (h : j = t.toJson) :
    node word [always name j] = (Tree.node kind [(key, some t)]).toJson :=
  encode_node hkind (.cons (.there hname h) .nil)

mutual

theorem Value.encode_eq : ∀ v : Value, v.encode = v.tree.toJson
  | .variable _ _ | .int _ _ | .float _ _ | .string _ _ _ | .boolean _ _ | .null _ | .enum _ _ => rfl
  | .list items _ =>
      encode_single (by decide) (by decide) (congrArg Json.array (encodeValues_eq items))
  | .object fields _ =>
      encode_single (by decide) (by decide) (congrArg Json.array (encodeObjectFields_eq fields))

theorem encodeValues_eq : ∀ items : List Value,
    encodeValues items = jsonOfTrees (valueTrees items)
  | [] => rfl
  | v :: r => by
      rw [encodeValues, Value.encode_eq v, encodeValues_eq r]
      rfl

theorem encodeObjectFields_eq : ∀ fields : List (Name × Value),
    encodeObjectFields fields = jsonOfTrees (objectFieldTrees fields)
  | [] => rfl
  | (n, v) :: r => by
      rw [encodeObjectFields, Value.encode_eq v, encodeObjectFields_eq r]
      rfl

end

theorem TypeNode.encode_eq (t : TypeNode) : t.encode = t.tree.toJson := by
  induction t with
  | named n => exact encodeNamed_eq n
  | list t _ ih => exact encode_single (by decide) (by decide) ih
  | nonNull t ih => exact encode_single (by decide) (by decide) ih

theorem Argument.encode_eq (a : Argument) : a.encode = a.tree.toJson :=
  encode_node (by decide) <|
    .cons (.there (by decide) (encodeName_eq a.name)) <|
    .cons (.there (by decide) a.value.encode_eq) .nil

theorem argumentsPart_encoded (args : List Argument) :
    PartEncoded (argumentsPart args) ("arguments", listTree? (args.map Argument.tree)) :=
  .list (by decide) Argument.encode_eq args

theorem Directive.encode_eq (d : Directive) : d.encode = d.tree.toJson :=
  encode_node (by decide) <|
    .cons (.there (by decide) (encodeName_eq d.name)) <|
    .cons (argumentsPart_encoded d.arguments) .nil

theorem directivesPart_encoded (ds : List Directive) :
    PartEncoded (directivesPart ds) ("directives", listTree? (ds.map Directive.tree)) :=
  .list (by decide) Directive.encode_eq ds

theorem descriptionPart_encoded (d : Option Description) :
    PartEncoded (descriptionPart d) ("description", d.map Description.tree) :=
  .maybe (by decide) (fun d => encodeString_eq d.text d.block) d

theorem selectionSetNode_eq {nodes : List Json} {trees : List Tree} (h : nodes = jsonOfTrees trees) :
    selectionSetNode nodes = (selectionSetTree trees).toJson :=
  encode_single (by decide) (by decide) (congrArg Json.array h)

theorem encodeField_eq (f : FieldHead) {selectionSet : Option Json} {tree : Option Tree}
    (h : PartEncoded ("selectionSet", selectionSet) ("selection_set", tree)) :
    encodeField f selectionSet = (fieldTree f tree).toJson :=
  encode_node (by decide) <|
    .cons (directivesPart_encoded f.directives) <|
    .cons (.there (by decide) (encodeName_eq f.name)) <|
    .cons (.maybe (by decide) encodeName_eq f.aliasName) <|
    .cons (argumentsPart_encoded f.arguments) <|
    .cons h .nil

mutual

theorem Selection.encode_eq : ∀ s : Selection, s.encode = s.tree.toJson
  | .leaf f => encodeField_eq f rfl
  | .branch f _ ss =>
      encodeField_eq f (.there (by decide) (selectionSetNode_eq (encodeSelections_eq ss)))
  | .inline c ds _ _ ss =>
      encode_node (by decide) <|
        .cons (directivesPart_encoded ds) <|
        .cons (.there (by decide) (selectionSetNode_eq (encodeSelections_eq ss))) <|
        .cons (.maybe (by decide) encodeNamed_eq c) .nil
  | .spread n ds _ =>
      encode_node (by decide) <|
        .cons (directivesPart_encoded ds) <|
        .cons (.there (by decide) (encodeName_eq n)) .nil

theorem encodeSelections_eq : ∀ ss : List Selection,
    encodeSelections ss = jsonOfTrees (selectionTrees ss)
  | [] => rfl
  | s :: r => by
      rw [encodeSelections, Selection.encode_eq s, encodeSelections_eq r]
      rfl

end

theorem VariableDefinition.encode_eq (v : VariableDefinition) : v.encode = v.tree.toJson :=
  encode_node (by decide) <|
    .cons (descriptionPart_encoded v.description) <|
    .cons (.there (by decide) rfl) <|
    .cons (.there (by decide) v.type.encode_eq) <|
    .cons (.maybe (by decide) Value.encode_eq v.default?) <|
    .cons (directivesPart_encoded v.directives) .nil

/-- **The encoding of an operation is its tree as JSON.** -/
theorem Operation.encode_eq (o : Operation) : o.encode = o.tree.toJson :=
  encode_node (by decide) <|
    .cons (.there (by decide) (selectionSetNode_eq (encodeSelections_eq o.selections))) <|
    .cons (descriptionPart_encoded o.description) <|
    .cons (.maybe (by decide) encodeName_eq o.name?) <|
    .cons (.list (by decide) VariableDefinition.encode_eq o.variableDefinitions) <|
    .cons (directivesPart_encoded o.directives) <|
    .cons (.there (by decide) rfl) .nil

/-- **The encoding of a fragment is its tree as JSON.** -/
theorem Fragment.encode_eq (f : Fragment) : f.encode = f.tree.toJson :=
  encode_node (by decide) <|
    .cons (.there (by decide) (selectionSetNode_eq (encodeSelections_eq f.selections))) <|
    .cons (descriptionPart_encoded f.description) <|
    .cons (.there (by decide) (encodeName_eq f.name)) <|
    .cons (.there (by decide) rfl) <|
    .cons (directivesPart_encoded f.directives) <|
    .cons (.there (by decide) (encodeNamed_eq f.condition)) .nil

end QueryTypings.Graphql
