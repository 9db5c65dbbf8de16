/-
  Which fragments a definition needs.

  `spreads` lists the names that selections spread, at any depth of fields and inline fragments.
  `usedFragments` follows them through the fragments of a document: a list of names is worked off
  from its end, a name met for the first time adds the spreads of its fragment.  Every fragment is
  opened once, so the number of all spreads bounds the steps, also where fragments spread one
  another in a circle.
-/
import QueryTypings.Graphql.Document
import QueryTypings.OrderedMap

namespace QueryTypings.Graphql

mutual

/-- The names that a selection spreads. -/
def Selection.spreads : Selection → List String
  | .leaf _ => []
  | .branch _ _ ss => spreads ss
  | .inline _ _ _ _ ss => spreads ss
  | .spread n _ _ => [n.text]

/-- The names that selections spread, in order. -/
def spreads : List Selection → List String
  | [] => []
  | s :: r => s.spreads ++ spreads r

end

/-- The fragments of a document by name; of two with one name the later stands in the place of the
    earlier. -/
def Document.fragmentMap (d : Document) : OrderedMap Fragment :=
  OrderedMap.ofPairs (d.fragments.map fun f => (f.name.text, f))

/-- Works off the names in `pending`, the last of which stands first. -/
def reach (fragments : OrderedMap Fragment) : Nat → List String → List String → List String
  | 0, _, seen => seen
  | _ + 1, [], seen => seen
  | n + 1, name :: pending, seen =>
      if seen.contains name then reach fragments n pending seen
      else match OrderedMap.get? name fragments with
        | none => reach fragments n pending seen
        | some f => reach fragments n ((spreads f.selections).reverse ++ pending) (name :: seen)

/-- The number of spreads in all fragments. -/
def spreadCount (fragments : OrderedMap Fragment) : Nat :=
  (fragments.map fun p => (spreads p.2.selections).length).foldl (· + ·) 0

/-- The names of the fragments that selections spread, directly or through other fragments. -/
def usedFragments (fragments : OrderedMap Fragment) (selections : List Selection) : List String :=
  let first := (spreads selections).reverse
  reach fragments (first.length + spreadCount fragments + 1) first []

/-- Names in the order of their code points. -/
def sortNames (names : List String) : List String := names.mergeSort fun a b => decide (a ≤ b)

/-- For each named operation and then each fragment of a document, the fragments it needs. -/
def Document.fragmentUses (d : Document) : List (String × List String) :=
  let fragments := d.fragmentMap
  d.namedOperations.map (fun (n, o) => (n.text, sortNames (usedFragments fragments o.selections)))
    ++ fragments.map fun (n, f) => (n, sortNames (usedFragments fragments f.selections))

end QueryTypings.Graphql
