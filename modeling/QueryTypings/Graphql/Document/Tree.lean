/-
  Documents as uniform trees, and how a tree becomes JSON.

  A node has a kind and parts under keys.  Kinds and keys are words in small letters with underscores
  between them, and a part may be absent.  One conversion serves all kinds of nodes.  It joins the
  words, those of a kind and those of a key but the first with capitals; it leaves out parts that
  are absent; and a member of an enumeration becomes a string like any other text.

  Places are no part of a tree.
-/
import QueryTypings.Graphql.Document
import QueryTypings.Json.Basic
import QueryTypings.Text.Lines

namespace QueryTypings.Graphql

open QueryTypings.Text

/-- A node, or what may stand in one. -/
inductive Tree
  | node (kind : String) (parts : List (String × Option Tree))
  | list (items : List Tree)
  | text (s : String)
  /-- A member of an enumeration, by its word. -/
  | word (s : String)
  | flag (b : Bool)
deriving Repr, BEq, Inhabited

/-! ## Conversion -/

/-- A word with a capital in front and small letters behind it. -/
def capitalized : List Char → List Char
  | [] => []
  | c :: r => c.toUpper :: r.map Char.toLower

/-- The name of a kind: all its words have capitals. -/
def kindName (kind : String) : String :=
  String.ofList ((splitAt '_' kind.toList).flatMap capitalized)

/-- The name of a key: all its words but the first have capitals. -/
def keyName (key : String) : String :=
  match splitAt '_' key.toList with
  | [] => ""
  | first :: rest => String.ofList (first ++ rest.flatMap capitalized)

mutual

/-- A tree as JSON. -/
def Tree.toJson : Tree → Json
  | .node kind parts => .object (("kind", .string (kindName kind)) :: membersOfParts parts)
  | .list items => .array (jsonOfTrees items)
  | .text s => .string s
  | .word s => .string s
  | .flag b => .bool b

/-- The parts that are there. -/
def membersOfParts : List (String × Option Tree) → List (String × Json)
  | [] => []
  | (k, some t) :: r => (keyName k, t.toJson) :: membersOfParts r
  | (_, none) :: r => membersOfParts r

def jsonOfTrees : List Tree → List Json
  | [] => []
  | t :: r => t.toJson :: jsonOfTrees r

end

/-! ## Documents as trees -/

/-- A list that is absent if the text does not have it. -/
def listTree? (items : List Tree) : Option Tree :=
  if items.isEmpty then none else some (.list items)

/-- A name as a tree. -/
def Name.tree (n : Name) : Tree := .node "name" [("value", some (.text n.text))]

/-- A variable as a tree. -/
def variableTree (n : Name) : Tree := .node "variable" [("name", some n.tree)]

/-- A type that has a name as a tree. -/
def namedTypeTree (n : Name) : Tree := .node "named_type" [("name", some n.tree)]

/-- A string as a tree. -/
def stringTree (text : String) (block : Bool) : Tree :=
  .node "string_value" [("value", some (.text text)), ("block", some (.flag block))]

mutual

/-- A value as a tree. -/
def Value.tree : Value → Tree
  | .variable n _ => variableTree n
  | .int d _ => .node "int_value" [("value", some (.text d))]
  | .float d _ => .node "float_value" [("value", some (.text d))]
  | .string s b _ => stringTree s b
  | .boolean b _ => .node "boolean_value" [("value", some (.flag b))]
  | .null _ => .node "null_value" []
  | .enum n _ => .node "enum_value" [("value", some (.text n))]
  | .list items _ => .node "list_value" [("values", some (.list (valueTrees items)))]
  | .object fields _ => .node "object_value" [("fields", some (.list (objectFieldTrees fields)))]

def valueTrees : List Value → List Tree
  | [] => []
  | v :: r => v.tree :: valueTrees r

def objectFieldTrees : List (Name × Value) → List Tree
  | [] => []
  | (n, v) :: r =>
      .node "object_field" [("name", some n.tree), ("value", some v.tree)] :: objectFieldTrees r

end

/-- A type as a tree. -/
def TypeNode.tree : TypeNode → Tree
  | .named n => namedTypeTree n
  | .list t _ => .node "list_type" [("type", some t.tree)]
  | .nonNull t => .node "non_null_type" [("type", some t.tree)]

/-- An argument as a tree. -/
def Argument.tree (a : Argument) : Tree :=
  .node "argument" [("name", some a.name.tree), ("value", some a.value.tree)]

/-- A directive as a tree. -/
def Directive.tree (d : Directive) : Tree :=
  .node "directive"
    [("name", some d.name.tree), ("arguments", listTree? (d.arguments.map Argument.tree))]

/-- A description as a tree. -/
def Description.tree (d : Description) : Tree := stringTree d.text d.block

/-- A selection set as a tree. -/
def selectionSetTree (selections : List Tree) : Tree :=
  .node "selection_set" [("selections", some (.list selections))]

/-- A field as a tree, given that of its selection set. -/
def fieldTree (f : FieldHead) (selectionSet : Option Tree) : Tree :=
  .node "field"
    [("directives", listTree? (f.directives.map Directive.tree)), ("name", some f.name.tree),
      ("alias", f.aliasName.map Name.tree),
      ("arguments", listTree? (f.arguments.map Argument.tree)), ("selection_set", selectionSet)]

mutual

/-- A selection as a tree. -/
def Selection.tree : Selection → Tree
  | .leaf f => fieldTree f none
  | .branch f _ ss => fieldTree f (some (selectionSetTree (selectionTrees ss)))
  | .inline c ds _ _ ss =>
      .node "inline_fragment"
        [("directives", listTree? (ds.map Directive.tree)),
          ("selection_set", some (selectionSetTree (selectionTrees ss))),
          ("type_condition", c.map namedTypeTree)]
  | .spread n ds _ =>
      .node "fragment_spread"
        [("directives", listTree? (ds.map Directive.tree)), ("name", some n.tree)]

def selectionTrees : List Selection → List Tree
  | [] => []
  | s :: r => s.tree :: selectionTrees r

end

/-- The declaration of a variable as a tree. -/
def VariableDefinition.tree (v : VariableDefinition) : Tree :=
  .node "variable_definition"
    [("description", v.description.map Description.tree), ("variable", some (variableTree v.name)),
      ("type", some v.type.tree), ("default_value", v.default?.map Value.tree),
      ("directives", listTree? (v.directives.map Directive.tree))]

/-- An operation as a tree. -/
def Operation.tree (o : Operation) : Tree :=
  .node "operation_definition"
    [("selection_set", some (selectionSetTree (selectionTrees o.selections))),
      ("description", o.description.map Description.tree), ("name", o.name?.map Name.tree),
      ("variable_definitions",
        listTree? (o.variableDefinitions.map VariableDefinition.tree)),
      ("directives", listTree? (o.directives.map Directive.tree)),
      ("operation", some (.word o.kind.word))]

/-- A fragment as a tree.  A fragment has no variables, but its list of them is there. -/
def Fragment.tree (f : Fragment) : Tree :=
  .node "fragment_definition"
    [("selection_set", some (selectionSetTree (selectionTrees f.selections))),
      ("description", f.description.map Description.tree), ("name", some f.name.tree),
      ("variable_definitions", some (.list [])),
      ("directives", listTree? (f.directives.map Directive.tree)),
      ("type_condition", some (namedTypeTree f.condition))]

end QueryTypings.Graphql
