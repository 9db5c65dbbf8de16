/-
  A tree is recovered from its JSON.

  1. **Reading back** — `Tree.ofJson` reads JSON as a tree.  It finds the kind of a node in its
     name, looks up each part that nodes of the kind have, wherever it stands, and takes a part that
     is not there for absent.  A string under the one key that holds a word is a word.

  2. **The same value** — JSON values are the same whatever the order of the members of objects
     (`Json.Same`), and the same values are read as the same tree (`ofJson_same`).

  3. **Nothing is lost** — what a node becomes is read as the node again (`Recovered.node`): its
     kind by its name, and each part under its own name, since no two keys of a kind have the same
     name.  So every tree whose nodes have the parts of their kinds is recovered; for documents this
     is `recovered_operation` and `recovered_fragment`.
-/
import QueryTypings.Proofs.Graphql.Mangled

namespace QueryTypings

/-- The same JSON value: the order of the members of an object is of no account. -/
inductive Json.Same : Json → Json → Prop
  | refl (j : Json) : Json.Same j j
  | cons {a b : Json} {r r' : List Json} :
      Json.Same a b → Json.Same (.array r) (.array r') →
      Json.Same (.array (a :: r)) (.array (b :: r'))
  | object {ms ms' : List (String × Json)} :
      (∀ key, key ∈ OrderedMap.keys ms ↔ key ∈ OrderedMap.keys ms') →
      (∀ key a b, OrderedMap.get? key ms = some a → OrderedMap.get? key ms' = some b →
        Json.Same a b) →
      Json.Same (.object ms) (.object ms')

namespace Graphql

/-! ## Reading back -/

/-- The keys of the parts of a node, by its kind. -/
def partKeys : String → List String
  | "name" => ["value"]
  | "variable" => ["name"]
  | "named_type" => ["name"]
  | "list_type" => ["type"]
  | "non_null_type" => ["type"]
  | "int_value" => ["value"]
  | "float_value" => ["value"]
  | "string_value" => ["value", "block"]
  | "boolean_value" => ["value"]
  | "enum_value" => ["value"]
  | "list_value" => ["values"]
  | "object_value" => ["fields"]
  | "object_field" => ["name", "value"]
  | "argument" => ["name", "value"]
  | "directive" => ["name", "arguments"]
  | "selection_set" => ["selections"]
  | "field" => ["directives", "name", "alias", "arguments", "selection_set"]
  | "inline_fragment" => ["directives", "selection_set", "type_condition"]
  | "fragment_spread" => ["directives", "name"]
  | "variable_definition" => ["description", "variable", "type", "default_value", "directives"]
  | "operation_definition" =>
      ["selection_set", "description", "name", "variable_definitions", "directives", "operation"]
  | "fragment_definition" =>
      ["selection_set", "description", "name", "variable_definitions", "directives",
        "type_condition"]
  | _ => []

/-- Under this key, and under its name, a string is the word of a member of an enumeration. -/
def holdsWord (key : String) : Bool := key == "operation"

/-- The node whose members were read as given. -/
def nodeOfMembers (members : OrderedMap (Option Tree)) : Option Tree :=
  match OrderedMap.get? "kind" members with
  | some (some (.text name)) =>
      let kind := snakeKind name
      some (.node kind
        ((partKeys kind).map fun key => (key, (OrderedMap.get? (keyName key) members).join)))
  | _ => none

mutual

/-- Reads JSON as a tree. -/
def Tree.ofJson (asWord : Bool) : Json → Option Tree
  | .object members => nodeOfMembers (readMembers members)
  | .array items => (readItems items).map .list
  | .string s => some (if asWord then .word s else .text s)
  | .bool b => some (.flag b)
  | _ => none

/-- Reads each member of an object by itself. -/
def readMembers : List (String × Json) → OrderedMap (Option Tree)
  | [] => []
  | (name, v) :: r => (name, Tree.ofJson (holdsWord name) v) :: readMembers r

/-- Reads all items. -/
def readItems : List Json → Option (List Tree)
  | [] => some []
  | v :: r => (Tree.ofJson false v).bind fun t => (readItems r).map fun ts => t :: ts

end

/-! ## The same value -/

theorem get?_readMembers (name : String) (ms : List (String × Json)) :
    OrderedMap.get? name (readMembers ms)
      = (OrderedMap.get? name ms).map (Tree.ofJson (holdsWord name)) := by
  induction ms with
  | nil => rfl
  | cons m r ih =>
      obtain ⟨k, v⟩ := m
      rw [readMembers, OrderedMap.get?, OrderedMap.get?, ih]
      split
      case isTrue hk => rw [hk]; rfl
      case isFalse => rfl

/-- A node depends on what is found under each name. -/
theorem nodeOfMembers_congr {ms ms' : OrderedMap (Option Tree)}
    (h : ∀ name, OrderedMap.get? name ms = OrderedMap.get? name ms') :
    nodeOfMembers ms = nodeOfMembers ms' := by
  simp only [nodeOfMembers, h]

/-- **The same values are read as the same tree.** -/
theorem ofJson_same {a b : Json} (h : Json.Same a b) (asWord : Bool) :
    Tree.ofJson asWord a = Tree.ofJson asWord b := by
  induction h generalizing asWord with
  | refl => rfl
  | @cons a b r r' _ _ iha ihr =>
      have hitems : readItems r = readItems r' :=
        Option.map_injective (fun _ _ => Tree.list.inj) (ihr false)
      rw [Tree.ofJson, Tree.ofJson, readItems, readItems, iha false, hitems]
  | @object ms ms' hkeys _ ih =>
      rw [Tree.ofJson, Tree.ofJson]
      refine nodeOfMembers_congr fun name => ?_
      rw [get?_readMembers, get?_readMembers]
      have hthere := hkeys name
      rw [← not_iff_not, ← OrderedMap.get?_eq_none_iff, ← OrderedMap.get?_eq_none_iff] at hthere
      cases ha : OrderedMap.get? name ms with
      | none => rw [hthere.mp ha]
      | some a =>
          cases hb : OrderedMap.get? name ms' with
          | none => rw [hthere.mpr hb] at ha; cases ha
          | some b => exact congrArg some (ih name a b ha hb _)

/-! ## Nothing is lost -/

/-- What the tree becomes is read as the tree again. -/
def Recovered (asWord : Bool) (t : Tree) : Prop := Tree.ofJson asWord t.toJson = some t

variable {asWord : Bool}

theorem recovered_text (s : String) : Recovered false (.text s) := rfl

theorem recovered_word (s : String) : Recovered true (.word s) := rfl

theorem recovered_flag (b : Bool) : Recovered asWord (.flag b) := rfl

theorem recovered_list {items : List Tree} (h : ∀ t ∈ items, Recovered false t) :
    Recovered asWord (.list items) := by
  have hitems : readItems (jsonOfTrees items) = some items := by
    induction items with
    | nil => rfl
    | cons t r ih =>
        obtain ⟨ht, hr⟩ := List.forall_mem_cons.mp h
        rw [jsonOfTrees, readItems, show Tree.ofJson false t.toJson = some t from ht, ih hr]
        rfl
  rw [Recovered, Tree.toJson, Tree.ofJson, hitems]
  rfl

section Parts

variable {parts : List (String × Option Tree)}

theorem get?_membersOfParts_of_not_mem {key : String} (hkey : IsSnake key)
    (hsnake : ∀ p ∈ parts, IsSnake p.1) (hnot : key ∉ parts.map Prod.fst) :
    OrderedMap.get? (keyName key) (membersOfParts parts) = none := by
  induction parts with
  | nil => rfl
  | cons p r ih =>
      obtain ⟨hp, hr⟩ := List.forall_mem_cons.mp hsnake
      obtain ⟨hne, hrest⟩ := List.ne_and_not_mem_of_not_mem_cons hnot
      obtain ⟨k, x⟩ := p
      cases x with
      | none => exact ih hr hrest
      | some t =>
          have hname : keyName k ≠ keyName key := by
            intro heq
            exact hne (keyName_injective hkey hp heq.symm)
          rw [membersOfParts, OrderedMap.get?, if_neg hname]
          exact ih hr hrest

/-- Each part of a node is found under its own name, if it is there. -/
theorem get?_membersOfParts (hsnake : ∀ p ∈ parts, IsSnake p.1)
    (hnodup : (parts.map Prod.fst).Nodup) {key : String} {x : Option Tree}
    (hmem : (key, x) ∈ parts) :
    OrderedMap.get? (keyName key) (membersOfParts parts) = x.map Tree.toJson := by
  induction parts with
  | nil => cases hmem
  | cons p r ih =>
      obtain ⟨hp, hr⟩ := List.forall_mem_cons.mp hsnake
      obtain ⟨hnot, hrest⟩ := List.nodup_cons.mp hnodup
      rcases List.mem_cons.mp hmem with rfl | htail
      · -- the part in front
        cases x with
        | none =>
            rw [membersOfParts]
            exact get?_membersOfParts_of_not_mem hp hr hnot
        | some t =>
            rw [membersOfParts, OrderedMap.get?, if_pos rfl]
            rfl
      · -- a part behind it has another key, and so another name
        obtain ⟨k, y⟩ := p
        cases y with
        | none => exact ih hr hrest htail
        | some t =>
            have hname : keyName k ≠ keyName key := by
              intro heq
              have hkey : k = key := keyName_injective hp (hr _ htail) heq
              exact hnot (hkey ▸ List.mem_map.mpr ⟨_, htail, rfl⟩)
            rw [membersOfParts, OrderedMap.get?, if_neg hname]
            exact ih hr hrest htail

end Parts

/-- The keys of a kind are names of words, different from one another and from the key of the
    kind itself. -/
theorem partKeys_wellNamed (kind : String) :
    ("kind" :: partKeys kind).Nodup ∧ ∀ key ∈ "kind" :: partKeys kind, IsSnake key := by
  unfold partKeys
  split <;> decide

/-- A key and its name hold words alike. -/
theorem holdsWord_keyName {key : String} (h : IsSnake key) :
    holdsWord (keyName key) = holdsWord key := by
  have hword : keyName "operation" = "operation" := by decide
  by_cases hkey : key = "operation"
  · rw [hkey, hword]
  · have hname : keyName key ≠ "operation" := by
      intro heq
      exact hkey (keyName_injective h (by decide) (heq.trans hword.symm))
    rw [holdsWord, holdsWord, beq_false_of_ne hkey, beq_false_of_ne hname]

/-- What there is of a part is recovered. -/
def PartRecovered (p : String × Option Tree) : Prop := ∀ t ∈ p.2, Recovered (holdsWord p.1) t

theorem PartRecovered.there {key : String} {t : Tree} (h : Recovered (holdsWord key) t) :
    PartRecovered (key, some t) :=
  fun _ hu => Option.some.inj hu ▸ h

theorem PartRecovered.maybe {α : Type} {key : String} {tree : α → Tree}
    (h : ∀ x, Recovered (holdsWord key) (tree x)) (a : Option α) :
    PartRecovered (key, a.map tree) := by
  intro t ht
  obtain ⟨x, -, rfl⟩ := Option.map_eq_some_iff.mp ht
  exact h x

theorem PartRecovered.list {α : Type} {key : String} {tree : α → Tree}
    (h : ∀ x, Recovered false (tree x)) (xs : List α) :
    PartRecovered (key, listTree? (xs.map tree)) := by
  intro t ht
  rw [listTree?] at ht
  split at ht
  · cases ht
  · refine Option.some.inj ht ▸ recovered_list ?_
    exact List.forall_mem_map.mpr fun x _ => h x

/-- Among the members of a node, what is found under the name of a key is the part under the key. -/
theorem part_found {kind : String} {parts : List (String × Option Tree)}
    (hkeys : parts.map Prod.fst = partKeys kind) (hparts : List.Forall PartRecovered parts) :
    ∀ p ∈ parts,
      (OrderedMap.get? (keyName p.1)
        (("kind", some (.text (kindName kind))) :: readMembers (membersOfParts parts))).join
          = p.2 := by
  obtain ⟨hdistinct, hsnakes⟩ := partKeys_wellNamed kind
  obtain ⟨hself, hsnake⟩ := List.forall_mem_cons.mp hsnakes
  obtain ⟨hnot, hnodup⟩ := List.nodup_cons.mp hdistinct
  rw [← hkeys] at hsnake hnot hnodup
  have hwords : ∀ p ∈ parts, IsSnake p.1 := by
    intro p hp
    exact hsnake p.1 (List.mem_map.mpr ⟨p, hp, rfl⟩)
  rintro ⟨key, x⟩ hp
  have hname : "kind" ≠ keyName key := by
    intro heq
    have hkey : "kind" = key := keyName_injective hself (hwords _ hp) heq
    exact hnot (hkey ▸ List.mem_map.mpr ⟨_, hp, rfl⟩)
  rw [OrderedMap.get?, if_neg hname, get?_readMembers, get?_membersOfParts hwords hnodup hp]
  cases x with
  | none => rfl
  | some t =>
      have ht : Tree.ofJson (holdsWord key) t.toJson = some t :=
        List.forall_iff_forall_mem.mp hparts _ hp t rfl
      rw [Option.map_some, Option.map_some, holdsWord_keyName (hwords _ hp), ht]
      rfl

/-- **A node is recovered** if it has the parts of its kind, and what is there of them is. -/
theorem Recovered.node {kind : String} {parts : List (String × Option Tree)} (hkind : IsSnake kind)
    (hkeys : parts.map Prod.fst = partKeys kind) (hparts : List.Forall PartRecovered parts) :
    Recovered asWord (.node kind parts) := by
  have hmembers : readMembers (("kind", .string (kindName kind)) :: membersOfParts parts)
      = ("kind", some (.text (kindName kind))) :: readMembers (membersOfParts parts) := rfl
  have hfound := part_found hkeys hparts
  rw [Recovered, Tree.toJson, Tree.ofJson, hmembers, nodeOfMembers, OrderedMap.get?, if_pos rfl]
  dsimp only
  rw [snakeKind_kindName hkind, ← hkeys, List.map_map]
  have hparts' : parts.map ((fun key => (key, (OrderedMap.get? (keyName key)
      (("kind", some (.text (kindName kind)))
        :: readMembers (membersOfParts parts))).join)) ∘ Prod.fst) = parts := by
    refine Eq.trans (List.map_congr_left fun p hp => ?_) (List.map_id' parts)
    exact Prod.ext rfl (hfound p hp)
  rw [hparts']

/-! ## Documents -/

theorem recovered_name (n : Name) : Recovered false n.tree :=
  .node (by decide) rfl (.there (recovered_text n.text))

theorem recovered_variable (n : Name) : Recovered false (variableTree n) :=
  .node (by decide) rfl (.there (recovered_name n))

theorem recovered_namedType (n : Name) : Recovered false (namedTypeTree n) :=
  .node (by decide) rfl (.there (recovered_name n))

theorem recovered_string (text : String) (block : Bool) : Recovered false (stringTree text block) :=
  .node (by decide) rfl ⟨.there (recovered_text text), .there (recovered_flag block)⟩

mutual

theorem recovered_value : ∀ v : Value, Recovered false v.tree
  | .variable n _ => recovered_variable n
  | .int d _ => .node (by decide) rfl (.there (recovered_text d))
  | .float d _ => .node (by decide) rfl (.there (recovered_text d))
  | .string s b _ => recovered_string s b
  | .boolean b _ => .node (by decide) rfl (.there (recovered_flag b))
  | .null _ => .node (by decide) rfl trivial
  | .enum n _ => .node (by decide) rfl (.there (recovered_text n))
  | .list items _ => .node (by decide) rfl (.there (recovered_list (recovered_values items)))
  | .object fields _ =>
      .node (by decide) rfl (.there (recovered_list (recovered_objectFields fields)))

theorem recovered_values : ∀ (items : List Value), ∀ t ∈ valueTrees items, Recovered false t
  | [] => List.forall_mem_nil _
  | v :: r => List.forall_mem_cons.mpr ⟨recovered_value v, recovered_values r⟩

theorem recovered_objectFields :
    ∀ (fields : List (Name × Value)), ∀ t ∈ objectFieldTrees fields, Recovered false t
  | [] => List.forall_mem_nil _
  | (n, v) :: r =>
      List.forall_mem_cons.mpr
        ⟨.node (by decide) rfl ⟨.there (recovered_name n), .there (recovered_value v)⟩,
          recovered_objectFields r⟩

end

theorem recovered_typeNode (t : TypeNode) : Recovered false t.tree := by
  induction t with
  | named n => exact recovered_namedType n
  | list t _ ih => exact .node (by decide) rfl (.there ih)
  | nonNull t ih => exact .node (by decide) rfl (.there ih)

theorem recovered_argument (a : Argument) : Recovered false a.tree :=
  .node (by decide) rfl ⟨.there (recovered_name a.name), .there (recovered_value a.value)⟩

theorem recovered_directive (d : Directive) : Recovered false d.tree :=
  .node (by decide) rfl ⟨.there (recovered_name d.name), .list recovered_argument d.arguments⟩

theorem recovered_description (d : Description) : Recovered false d.tree :=
  recovered_string d.text d.block

theorem recovered_selectionSet {selections : List Tree} (h : ∀ t ∈ selections, Recovered false t) :
    Recovered false (selectionSetTree selections) :=
  .node (by decide) rfl (.there (recovered_list h))

theorem recovered_field (f : FieldHead) {selectionSet : Option Tree}
    (h : PartRecovered ("selection_set", selectionSet)) :
    Recovered false (fieldTree f selectionSet) :=
  .node (by decide) rfl
    ⟨.list recovered_directive f.directives, .there (recovered_name f.name),
      .maybe recovered_name f.aliasName, .list recovered_argument f.arguments, h⟩

mutual

theorem recovered_selection : ∀ s : Selection, Recovered false s.tree
  | .leaf f => recovered_field f fun _ h => by cases h
  | .branch f _ ss => recovered_field f (.there (recovered_selectionSet (recovered_selections ss)))
  | .inline c ds _ _ ss =>
      .node (by decide) rfl
        ⟨.list recovered_directive ds, .there (recovered_selectionSet (recovered_selections ss)),
          .maybe recovered_namedType c⟩
  | .spread n ds _ =>
      .node (by decide) rfl ⟨.list recovered_directive ds, .there (recovered_name n)⟩

theorem recovered_selections : ∀ (ss : List Selection), ∀ t ∈ selectionTrees ss, Recovered false t
  | [] => List.forall_mem_nil _
  | s :: r => List.forall_mem_cons.mpr ⟨recovered_selection s, recovered_selections r⟩

end

theorem recovered_variableDefinition (v : VariableDefinition) : Recovered false v.tree :=
  .node (by decide) rfl
    ⟨.maybe recovered_description v.description, .there (recovered_variable v.name),
      .there (recovered_typeNode v.type), .maybe recovered_value v.default?,
      .list recovered_directive v.directives⟩

/-- **An operation is recovered.** -/
theorem recovered_operation (o : Operation) : Recovered false o.tree :=
  .node (by decide) rfl
    ⟨.there (recovered_selectionSet (recovered_selections o.selections)),
      .maybe recovered_description o.description, .maybe recovered_name o.name?,
      .list recovered_variableDefinition o.variableDefinitions,
      .list recovered_directive o.directives, .there (recovered_word o.kind.word)⟩

/-- **A fragment is recovered.** -/
theorem recovered_fragment (f : Fragment) : Recovered false f.tree :=
  .node (by decide) rfl
    ⟨.there (recovered_selectionSet (recovered_selections f.selections)),
      .maybe recovered_description f.description, .there (recovered_name f.name),
      .there (recovered_list (List.forall_mem_nil _)), .list recovered_directive f.directives,
      .there (recovered_namedType f.condition)⟩

end Graphql

end QueryTypings
