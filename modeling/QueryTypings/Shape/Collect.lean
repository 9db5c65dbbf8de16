/-
  Which fields selections contribute to an object of a given type.

  Fields are collected by response key.  An entry holds the fields that share a key, at least one,
  and says whether the key depends on a condition.  Merging two maps keeps the keys of the first in
  their places and appends the new ones of the second; under a common key the fields are joined, and
  the key depends on a condition only if it does in both.

  Inline fragments and spreads contribute if their condition holds for the type.  A selection with
  `@skip` or `@include` is conditional, and so is everything inside it.  A fragment is expanded
  wherever it is spread.
-/
import QueryTypings.Graphql.Document
import QueryTypings.Graphql.Document.Spreads
import QueryTypings.OrderedMap
import QueryTypings.Schema.Basic

namespace QueryTypings.Shape

open QueryTypings.Graphql QueryTypings.Schema

/-! ## Fields by key -/

/-- A field and what is selected of it. -/
structure FieldNode where
  head : FieldHead
  selections : List Selection
deriving Repr, BEq

/-- The fields under one key. -/
structure Entry where
  first : FieldNode
  others : List FieldNode
  conditional : Bool
deriving Repr, BEq

namespace Entry

/-- The fields in order. -/
def nodes (e : Entry) : List FieldNode := e.first :: e.others

/-- Joins the fields; unconditional on either side is unconditional. -/
def join (a b : Entry) : Entry := ⟨a.first, a.others ++ b.nodes, a.conditional && b.conditional⟩

/-- What is selected of all the fields. -/
def selections (e : Entry) : List Selection := e.nodes.flatMap FieldNode.selections

/-- The name of the field. -/
def fieldName (e : Entry) : String := e.first.head.name.text

theorem join_assoc (a b c : Entry) : (a.join b).join c = a.join (b.join c) := by
  simp [join, nodes, Bool.and_assoc]

theorem nodes_join (a b : Entry) : (a.join b).nodes = a.nodes ++ b.nodes := by
  simp [join, nodes]

theorem selections_join (a b : Entry) : (a.join b).selections = a.selections ++ b.selections := by
  simp [selections, nodes_join]

end Entry

/-- Entries by key, in the order in which the keys came. -/
abbrev FieldMap := OrderedMap Entry

namespace FieldMap

/-- An entry joined with what a map has under its key. -/
def joined (m : FieldMap) (key : String) (e : Entry) : Entry :=
  match OrderedMap.get? key m with
  | some x => e.join x
  | none => e

/-- The entries of both maps: those of the first, joined with those of the second that have the
    same key, and then those of the second that have new keys. -/
def merge (a b : FieldMap) : FieldMap :=
  a.map (fun p => (p.1, joined b p.1 p.2)) ++ b.filter fun p => (OrderedMap.get? p.1 a).isNone

@[simp] theorem merge_nil (a : FieldMap) : a.merge [] = a := by
  simp [merge, joined]

@[simp] theorem nil_merge (b : FieldMap) : FieldMap.merge [] b = b := by
  simp [merge]

theorem get?_merge (a b : FieldMap) (key : String) :
    OrderedMap.get? key (a.merge b)
      = match OrderedMap.get? key a with
        | some e => some (joined b key e)
        | none => OrderedMap.get? key b := by
  rw [merge, OrderedMap.get?_append, OrderedMap.get?_mapValues (joined b),
    OrderedMap.get?_filterKeys fun k => (OrderedMap.get? k a).isNone]
  cases OrderedMap.get? key a <;> simp

theorem keys_merge (a b : FieldMap) :
    OrderedMap.keys (a.merge b)
      = OrderedMap.keys a
        ++ (OrderedMap.keys b).filter fun k => (OrderedMap.get? k a).isNone := by
  simp [merge, OrderedMap.keys, List.filter_map, Function.comp_def]

theorem mem_keys_merge {a b : FieldMap} {key : String} :
    key ∈ OrderedMap.keys (a.merge b) ↔ key ∈ OrderedMap.keys a ∨ key ∈ OrderedMap.keys b := by
  rw [keys_merge, List.mem_append, List.mem_filter, Option.isNone_iff_eq_none,
    OrderedMap.get?_eq_none_iff]
  by_cases h : key ∈ OrderedMap.keys a <;> simp [h]

theorem nodup_keys_merge {a b : FieldMap} (ha : (OrderedMap.keys a).Nodup)
    (hb : (OrderedMap.keys b).Nodup) : (OrderedMap.keys (a.merge b)).Nodup := by
  rw [keys_merge, List.nodup_append]
  refine ⟨ha, hb.sublist List.filter_sublist, ?_⟩
  rintro k hk _ hk' rfl
  have hnone := (List.mem_filter.mp hk').2
  rw [Option.isNone_iff_eq_none, OrderedMap.get?_eq_none_iff] at hnone
  exact hnone hk

/-- **Merging is associative**, also in the order of the keys. -/
theorem merge_assoc {a b c : FieldMap} (ha : (OrderedMap.keys a).Nodup)
    (hb : (OrderedMap.keys b).Nodup) (hc : (OrderedMap.keys c).Nodup) :
    (a.merge b).merge c = a.merge (b.merge c) := by
  refine OrderedMap.ext_of_keys (nodup_keys_merge (nodup_keys_merge ha hb) hc) ?_ ?_
  · simp only [keys_merge, List.filter_append, List.append_assoc, List.filter_filter]
    congr 2
    refine List.filter_congr fun k _ => ?_
    rw [get?_merge]
    cases OrderedMap.get? k a <;> simp
  · intro key
    simp only [get?_merge, joined]
    cases OrderedMap.get? key a <;> cases OrderedMap.get? key b <;>
      cases OrderedMap.get? key c <;> simp [Entry.join_assoc]

end FieldMap

/-! ## Collecting -/

/-- The selection carries `@skip` or `@include`. -/
def hasCondition (s : Selection) : Bool :=
  s.directives.any fun d => d.name.text == "skip" || d.name.text == "include"

/-- A type condition holds for every object of a type: it names the type itself or an abstract type
    to which it belongs. -/
def applies (s : Schema) (parent : NamedType) (condition : String) : Bool :=
  match s.type? condition with
  | none => false
  | some t => t.name == parent.name || (t.isAbstract && isPossibleType t parent)

mutual

/-- What a selection contributes; `expand` says what the fragment of a given name does, inside a
    condition or not. -/
def collectSelection (s : Schema) (parent : NamedType) (expand : String → Bool → FieldMap)
    (conditional : Bool) : Selection → FieldMap
  | .leaf f =>
      [(f.key, ⟨⟨f, []⟩, [], conditional || hasCondition (.leaf f)⟩)]
  | .branch f o ss =>
      [(f.key, ⟨⟨f, ss⟩, [], conditional || hasCondition (.branch f o ss)⟩)]
  | .inline c ds p o ss =>
      if (c.map fun n => applies s parent n.text).getD true then
        collectSelections s parent expand (conditional || hasCondition (.inline c ds p o ss)) ss
      else []
  | .spread n ds p => expand n.text (conditional || hasCondition (.spread n ds p))

/-- What selections contribute together. -/
def collectSelections (s : Schema) (parent : NamedType) (expand : String → Bool → FieldMap)
    (conditional : Bool) : List Selection → FieldMap
  | [] => []
  | x :: r =>
      (collectSelection s parent expand conditional x).merge
        (collectSelections s parent expand conditional r)

end

/-- What a fragment contributes.  The fuel bounds the chain of fragments that are spread inside one
    another; unless they go round in a circle, no chain is longer than there are fragments. -/
def collectFragment (s : Schema) (fragments : OrderedMap Fragment) (parent : NamedType) :
    Nat → String → Bool → FieldMap
  | 0, _, _ => []
  | fuel + 1, name, conditional =>
      match OrderedMap.get? name fragments with
      | none => []
      | some f =>
          if applies s parent f.condition.text then
            collectSelections s parent (collectFragment s fragments parent fuel) conditional
              f.selections
          else []

/-- The fields that selections contribute to an object. -/
def collect (s : Schema) (fragments : OrderedMap Fragment) (parent : NamedType) (conditional : Bool)
    (selections : List Selection) : FieldMap :=
  collectSelections s parent (collectFragment s fragments parent fragments.length) conditional
    selections

end QueryTypings.Shape
