/-
  Schemas without places.

   1. **Lists** — what is not found in a list is not found in the list without places, in any order
      (`flatMap_map_eq_nil_iff`, `flatMap_perm_eq_nil_iff`, `find?_name_of_perm`).

   2. **Parts** — the only places that are left in a schema are those in default values.  `unplaced`
      takes them out; a definition without places describes the part without places
      (`NamedType.ofDefinition_unplaced`, `DirectiveInfo.ofDefinition_unplaced`), and built-in parts
      have none (`builtinType?_unplaced`).
-/
import QueryTypings.Schema.Build
import QueryTypings.Proofs.Graphql.Unplaced
import Mathlib.Data.List.Find
import Mathlib.Data.List.Nodup

namespace QueryTypings.Schema

open QueryTypings.Graphql

/-! ## Lists -/

section Lists

variable {α β γ : Type} {g : β → List γ} {h : α → List γ}

/-- Going through a changed list finds nothing where going through the list does not. -/
theorem flatMap_map_eq_nil_iff (f : α → β) (hf : ∀ x, g (f x) = [] ↔ h x = []) (xs : List α) :
    (xs.map f).flatMap g = [] ↔ xs.flatMap h = [] := by
  simp only [List.flatMap_eq_nil_iff, List.forall_mem_map, hf]

/-- The same if the list is rearranged, too. -/
theorem flatMap_perm_eq_nil_iff (f : α → β) (hf : ∀ x, g (f x) = [] ↔ h x = []) {xs : List α}
    {ys : List β} (hys : ys.Perm (xs.map f)) : ys.flatMap g = [] ↔ xs.flatMap h = [] := by
  rw [← flatMap_map_eq_nil_iff f hf xs, ← List.length_eq_zero_iff,
    (hys.flatMap_right g).length_eq, List.length_eq_zero_iff]

theorem option_map_eq_nil_iff (f : α → β) (hf : ∀ x, g (f x) = [] ↔ h x = []) (a : Option α) :
    ((a.map f).map g).getD [] = [] ↔ (a.map h).getD [] = [] := by
  cases a with
  | none => exact Iff.rfl
  | some x => exact hf x

/-- What is found by its name does not depend on the order, if names are different. -/
theorem find?_name_of_perm (name : α → String) {xs ys : List α} (h : xs.Perm ys)
    (hdistinct : (ys.map name).Nodup) (n : String) :
    xs.find? (fun x => name x == n) = ys.find? fun x => name x == n := by
  refine List.find?_eq_find?_of_perm h ?_
  intro x hx y hy
  obtain ⟨hx, hxn⟩ := hx
  obtain ⟨hy, hyn⟩ := hy
  exact List.inj_on_of_nodup_map hdistinct (h.mem_iff.mp hx) (h.mem_iff.mp hy)
    ((eq_of_beq hxn).trans (eq_of_beq hyn).symm)

end Lists

/-! ## Parts -/

def Input.unplaced (i : Input) : Input := { i with default? := i.default?.map Value.unplaced }

def Field.unplaced (f : Field) : Field := { f with arguments := f.arguments.map Input.unplaced }

def Parts.unplaced : Parts → Parts
  | .object is fs => .object is (fs.map Field.unplaced)
  | .interface is fs => .interface is (fs.map Field.unplaced)
  | .input fs oneOf => .input (fs.map Input.unplaced) oneOf
  | p => p

def NamedType.unplaced (t : NamedType) : NamedType := { t with parts := t.parts.unplaced }

def DirectiveInfo.unplaced (d : DirectiveInfo) : DirectiveInfo :=
  { d with arguments := d.arguments.map Input.unplaced }

/-- What hangs on names and types alone does not change. -/
@[simp] theorem Input.isRequired_unplaced (i : Input) : i.unplaced.isRequired = i.isRequired := by
  rw [Input.isRequired, Input.unplaced, Option.isNone_map]
  rfl

section Kinds

variable (t : NamedType)

@[simp] theorem NamedType.name_unplaced : t.unplaced.name = t.name := rfl

@[simp] theorem NamedType.isScalar_unplaced : t.unplaced.isScalar = t.isScalar := by
  unfold NamedType.isScalar NamedType.unplaced
  cases t.parts <;> rfl

@[simp] theorem NamedType.isObject_unplaced : t.unplaced.isObject = t.isObject := by
  unfold NamedType.isObject NamedType.unplaced
  cases t.parts <;> rfl

@[simp] theorem NamedType.isInterface_unplaced : t.unplaced.isInterface = t.isInterface := by
  unfold NamedType.isInterface NamedType.unplaced
  cases t.parts <;> rfl

@[simp] theorem NamedType.isUnion_unplaced : t.unplaced.isUnion = t.isUnion := by
  unfold NamedType.isUnion NamedType.unplaced
  cases t.parts <;> rfl

@[simp] theorem NamedType.isEnum_unplaced : t.unplaced.isEnum = t.isEnum := by
  unfold NamedType.isEnum NamedType.unplaced
  cases t.parts <;> rfl

@[simp] theorem NamedType.isInputObject_unplaced : t.unplaced.isInputObject = t.isInputObject := by
  unfold NamedType.isInputObject NamedType.unplaced
  cases t.parts <;> rfl

@[simp] theorem NamedType.isAbstract_unplaced : t.unplaced.isAbstract = t.isAbstract := by
  rw [NamedType.isAbstract, isInterface_unplaced, isUnion_unplaced, ← NamedType.isAbstract]

@[simp] theorem NamedType.isInput_unplaced : t.unplaced.isInput = t.isInput := by
  simp only [NamedType.isInput, NamedType.isLeaf, isScalar_unplaced, isEnum_unplaced,
    isInputObject_unplaced]

@[simp] theorem NamedType.isOutput_unplaced : t.unplaced.isOutput = t.isOutput := by
  simp only [NamedType.isOutput, NamedType.isLeaf, NamedType.isComposite, isScalar_unplaced,
    isEnum_unplaced, isObject_unplaced, isAbstract_unplaced]

@[simp] theorem NamedType.interfaces_unplaced : t.unplaced.interfaces = t.interfaces := by
  unfold NamedType.interfaces NamedType.unplaced
  cases t.parts <;> rfl

@[simp] theorem NamedType.fields_unplaced : t.unplaced.fields = t.fields.map Field.unplaced := by
  unfold NamedType.fields NamedType.unplaced
  cases t.parts <;> rfl

@[simp] theorem NamedType.inputFields_unplaced :
    t.unplaced.inputFields = t.inputFields.map Input.unplaced := by
  unfold NamedType.inputFields NamedType.unplaced
  cases t.parts <;> rfl

theorem NamedType.field?_unplaced (name : String) :
    t.unplaced.field? name = (t.field? name).map Field.unplaced := by
  rw [NamedType.field?, fields_unplaced, List.find?_map]
  rfl

end Kinds

theorem Field.argument?_unplaced (f : Field) (name : String) :
    f.unplaced.argument? name = (f.argument? name).map Input.unplaced := by
  rw [Field.argument?, Field.unplaced, List.find?_map]
  rfl

/-! ## Definitions -/

theorem TypeRef.ofNode_unplaced (t : TypeNode) : TypeRef.ofNode t.unplaced = .ofNode t := by
  induction t with
  | named n => rfl
  | list t _ ih => rw [TypeNode.unplaced, TypeRef.ofNode, TypeRef.ofNode, ih]
  | nonNull t ih => rw [TypeNode.unplaced, TypeRef.ofNode, TypeRef.ofNode, ih]

theorem hasDirective_unplaced (name : String) (ds : List Directive) :
    hasDirective name (ds.map Directive.unplaced) = hasDirective name ds := by
  rw [hasDirective, List.any_map]
  rfl

theorem Input.ofDefinition_unplaced (d : InputDefinition) :
    Input.ofDefinition d.unplaced = (Input.ofDefinition d).unplaced := by
  simp only [Input.ofDefinition, Input.unplaced, InputDefinition.unplaced, Name.text_unplaced,
    TypeRef.ofNode_unplaced, hasDirective_unplaced]

theorem inputs_ofDefinition_unplaced (ds : List InputDefinition) :
    (ds.map InputDefinition.unplaced).map Input.ofDefinition
      = (ds.map Input.ofDefinition).map Input.unplaced := by
  rw [List.map_map, List.map_map]
  exact List.map_congr_left fun d _ => Input.ofDefinition_unplaced d

theorem Field.ofDefinition_unplaced (d : FieldDefinition) :
    Field.ofDefinition d.unplaced = (Field.ofDefinition d).unplaced := by
  simp only [Field.ofDefinition, Field.unplaced, FieldDefinition.unplaced, Name.text_unplaced,
    TypeRef.ofNode_unplaced, hasDirective_unplaced, inputs_ofDefinition_unplaced]

theorem fields_ofDefinition_unplaced (ds : List FieldDefinition) :
    (ds.map FieldDefinition.unplaced).map Field.ofDefinition
      = (ds.map Field.ofDefinition).map Field.unplaced := by
  rw [List.map_map, List.map_map]
  exact List.map_congr_left fun d _ => Field.ofDefinition_unplaced d

theorem nameTexts_unplaced (ns : List Name) : nameTexts (ns.map Name.unplaced) = nameTexts ns := by
  rw [nameTexts, List.map_map]
  rfl

theorem Parts.ofDefinition_unplaced (d : TypeDefinition) :
    Parts.ofDefinition d.unplaced = (Parts.ofDefinition d).unplaced := by
  simp only [Parts.ofDefinition, TypeDefinition.unplaced]
  cases d.parts with
  | scalar => rfl
  | object is fs | interface is fs =>
      simp only [TypeParts.unplaced, Parts.unplaced, nameTexts_unplaced,
        fields_ofDefinition_unplaced]
  | union ms => simp only [TypeParts.unplaced, Parts.unplaced, nameTexts_unplaced]
  | enum vs =>
      simp only [TypeParts.unplaced, Parts.unplaced, List.map_map]
      rfl
  | input fs =>
      simp only [TypeParts.unplaced, Parts.unplaced, inputs_ofDefinition_unplaced,
        hasDirective_unplaced]

/-- A type without extensions. -/
theorem NamedType.ofDefinition_unplaced (d : TypeDefinition) :
    NamedType.ofDefinition [] d.unplaced = (NamedType.ofDefinition [] d).unplaced := by
  have hparts := Parts.ofDefinition_unplaced d
  simp only [NamedType.ofDefinition, NamedType.unplaced, List.filter_nil, List.foldl_nil, hparts]
  rfl

theorem DirectiveInfo.ofDefinition_unplaced (d : DirectiveDefinition) :
    DirectiveInfo.ofDefinition d.unplaced = (DirectiveInfo.ofDefinition d).unplaced := by
  simp only [DirectiveInfo.ofDefinition, DirectiveInfo.unplaced, DirectiveDefinition.unplaced,
    Name.text_unplaced, inputs_ofDefinition_unplaced, nameTexts_unplaced]

/-! ## Built-in parts -/

theorem standardDirectives_unplaced :
    standardDirectives.map DirectiveInfo.unplaced = standardDirectives := rfl

theorem builtinType?_unplaced (name : String) :
    (builtinType? name).map NamedType.unplaced = builtinType? name := by
  have hintrospection : introspectionTypes.map NamedType.unplaced = introspectionTypes := rfl
  rw [builtinType?]
  split
  · rfl
  · calc (introspectionTypes.find? fun t => t.name == name).map NamedType.unplaced
        = (introspectionTypes.map NamedType.unplaced).find? fun t => t.name == name := by
          rw [List.find?_map]
          rfl
      _ = introspectionTypes.find? fun t => t.name == name := by rw [hintrospection]

end QueryTypings.Schema
