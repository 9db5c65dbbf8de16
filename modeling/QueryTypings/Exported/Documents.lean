/-
  The documents that a query file exports, one for each operation with a name.

  A document holds the operation and the fragments that it needs, in the order of the file.  As a
  script module it is a constant with the tree of the document as JSON.
-/
import QueryTypings.Graphql.Document.Encode
import QueryTypings.Graphql.Document.Spreads
import QueryTypings.Json.Printer

namespace QueryTypings.Exported

open QueryTypings.Graphql QueryTypings.Text

/-- The definitions that an operation is exported with. -/
def exportedDefinitions (fragments : OrderedMap Fragment) (o : Operation) : List Definition :=
  let needed := usedFragments fragments o.selections
  .operation o
    :: (fragments.filter fun p => needed.contains p.1).map fun p => .fragment p.2

/-- The document that holds given definitions, as JSON. -/
def documentObject (definitions : Document) : Json := encodeDocument definitions

/-- The exported documents by the names of their operations. -/
def documentObjects (d : Document) : OrderedMap Json :=
  let fragments := d.fragmentMap
  OrderedMap.ofPairs (d.namedOperations.map fun (n, o) =>
    (n.text, documentObject (exportedDefinitions fragments o)))

/-- The line that exports a document. -/
def exportLine (name : String) (value : Json) : String :=
  "export const " ++ name ++ " = " ++ value.toText ++ ";"

/-- The script module of a document; without any operation it is an empty module. -/
def scriptModule (d : Document) : String :=
  match documentObjects d with
  | [] => "export \x7b\x7d;\n"
  | objects => joinWith "\n" (objects.map fun (name, value) => exportLine name value) ++ "\n"

end QueryTypings.Exported
