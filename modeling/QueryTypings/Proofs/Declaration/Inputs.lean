/-
  Which inputs the declaration of a schema marks as optional.

  A caller may leave out an argument or an input field that may be null, and also one for which the
  schema text gives a default value.

  1. **Definitions** — every input of a type that is declared stands in the text, in a definition or
     an extension, and is what the text says (`exists_inputDefinition`).

  2. **Records** — the arguments of a field stand in a record of the declaration, and so do the
     fields of an input object, each as a member (`argumentsStatement_mem`, `inputStatement_mem`).

  3. **Marks** — a member is marked if and only if null is allowed (`marked_iff_nullable`).  So an
     input is marked as its text has it, unless it excludes null and has a default value: then it
     may be left out, and has no mark.
-/
import QueryTypings.Proofs.Declaration.Notations
import QueryTypings.Proofs.Result

namespace QueryTypings.Schema

open QueryTypings.Graphql

/-! ## Definitions -/

/-- The arguments and the input fields that a definition or an extension lists. -/
def definedInputs (d : TypeDefinition) : List InputDefinition :=
  match d.parts with
  | .object _ fs | .interface _ fs => fs.flatMap FieldDefinition.arguments
  | .input fs => fs
  | .scalar | .union _ | .enum _ => []

/-- The arguments and the input fields in a document. -/
def documentInputs (d : Document) : List InputDefinition :=
  (typeDefinitions d ++ typeExtensions d).flatMap definedInputs

/-- The arguments and the input fields among the parts of a type. -/
def Parts.inputs : Parts → List Input
  | .object _ fs | .interface _ fs => fs.flatMap Field.arguments
  | .input fs _ => fs
  | .scalar | .union _ | .enum _ => []

theorem inputs_ofDefinition (d : TypeDefinition) :
    (Parts.ofDefinition d).inputs = (definedInputs d).map Input.ofDefinition := by
  have harguments (fs : List FieldDefinition) : (fs.map Field.ofDefinition).flatMap Field.arguments
      = (fs.flatMap FieldDefinition.arguments).map Input.ofDefinition := by
    rw [List.flatMap_map, List.map_flatMap]
    rfl
  rw [Parts.ofDefinition, definedInputs]
  cases d.parts with
  | object is fs | interface is fs => exact harguments fs
  | scalar | union | enum | input => rfl

theorem inputs_extend {p e : Parts} {i : Input} (h : i ∈ (p.extend e).inputs) :
    i ∈ p.inputs ∨ i ∈ e.inputs := by
  unfold Parts.extend at h
  split at h
  · exact List.mem_append.mp (List.flatMap_append ▸ h)
  · exact List.mem_append.mp (List.flatMap_append ▸ h)
  · exact Or.inl h
  · exact Or.inl h
  · exact List.mem_append.mp h
  · exact Or.inl h

/-- **The inputs of a type that is declared stand in the text** of the schema. -/
theorem exists_inputDefinition {d : Document} {t : NamedType} (ht : t ∈ (ofDefinitions d).types)
    (hname : isIntrospectionName t.name = false) :
    ∀ i ∈ t.parts.inputs, ∃ x ∈ documentInputs d, i = .ofDefinition x := by
  rcases mem_types_ofDefinitions ht with hb | ⟨-, x, hx, rfl⟩
  · -- the other built-in types are scalars, and have no inputs
    unfold builtinType? at hb
    split at hb
    · rw [← Option.some.inj hb]
      exact nofun
    · have hmem : t.name ∈ introspectionNames :=
        List.mem_map_of_mem (List.mem_of_find?_eq_some hb)
      rw [isIntrospectionName, List.contains_iff_mem.mpr hmem] at hname
      cases hname
  · have hlisted : ∀ y ∈ typeDefinitions d ++ typeExtensions d,
        ∀ i ∈ (Parts.ofDefinition y).inputs, ∃ x ∈ documentInputs d, i = .ofDefinition x := by
      intro y hy i hi
      rw [inputs_ofDefinition] at hi
      obtain ⟨z, hz, rfl⟩ := List.mem_map.mp hi
      exact ⟨z, List.mem_flatMap.mpr ⟨y, hy, hz⟩, rfl⟩
    refine parts_ofDefinition (P := fun p => ∀ i ∈ p.inputs, ∃ x ∈ documentInputs d,
      i = .ofDefinition x) ?extend (hlisted x (List.mem_append_left _ hx))
      fun e he => hlisted e (List.mem_append_right _ he)
    case extend =>
      intro p e hp he i hi
      exact (inputs_extend hi).elim (hp i) (he i)

theorem mem_inputs_of_argument {t : NamedType} {f : Field} {i : Input} (hf : f ∈ t.fields)
    (hi : i ∈ f.arguments) : i ∈ t.parts.inputs := by
  rw [NamedType.fields] at hf
  cases hparts : t.parts with
  | object is fs | interface is fs =>
      rw [hparts] at hf
      exact List.mem_flatMap.mpr ⟨f, hf, hi⟩
  | scalar | union | enum | input =>
      rw [hparts] at hf
      cases hf

theorem mem_inputs_of_inputField {t : NamedType} {i : Input} (hi : i ∈ t.inputFields) :
    i ∈ t.parts.inputs := by
  rw [NamedType.inputFields] at hi
  cases hparts : t.parts with
  | input fs oneOf =>
      rw [hparts] at hi
      exact hi
  | object | interface | scalar | union | enum =>
      rw [hparts] at hi
      cases hi

end QueryTypings.Schema

namespace QueryTypings.Declaration

open QueryTypings.Graphql QueryTypings.Schema QueryTypings.Typescript

variable {s : Schema} {scalars : ScalarTypes} {t : NamedType} {d : Document}

/-! ## Records -/

theorem mem_schemaStatements_of_mem {st : Statement} (ht : t ∈ declaredTypes s)
    (hst : st ∈ typeStatements s t) : st ∈ (schemaStatements s scalars).flatten :=
  mem_schemaStatements_iff.mpr (Or.inr (Or.inr ⟨t, ht, hst⟩))

/-- The arguments of a field stand in a record of their own. -/
theorem argumentsStatement_mem {f : Field} (hf : f ∈ t.fields) (harguments : f.arguments ≠ []) :
    .exportType none (argumentsName t.name f.name)
      (.record (f.arguments.map fun i => inputMember s none i)) ∈ typeStatements s t := by
  have hstatement : argumentsStatement? s t.name f
      = some (.exportType none (argumentsName t.name f.name)
        (.record (f.arguments.map fun i => inputMember s none i))) := by
    rw [argumentsStatement?, if_neg (by simpa using harguments)]
  rw [NamedType.fields] at hf
  rw [typeStatements]
  cases hparts : t.parts with
  | object is fs | interface is fs =>
      rw [hparts] at hf
      exact List.mem_cons_of_mem _ (List.mem_filterMap.mpr ⟨f, hf, hstatement⟩)
  | scalar | union | enum | input =>
      rw [hparts] at hf
      cases hf

/-- The fields of an input object stand in its record. -/
theorem inputStatement_mem (ht : t.isInputObject = true) :
    .exportType t.description t.name
        (.record (t.inputFields.map fun i => inputMember s i.description i))
      ∈ typeStatements s t := by
  rw [NamedType.isInputObject] at ht
  rw [typeStatements, NamedType.inputFields]
  cases hparts : t.parts with
  | input fs oneOf => exact List.mem_cons_self
  | object | interface | scalar | union | enum =>
      rw [hparts] at ht
      cases ht

/-! ## Marks -/

/-- How a member of a record shows an input that a document defines. -/
structure Printed (d : Document) (i : Input) (m : RecordMember) : Prop where
  name : m.name = i.name
  defined : ∃ x ∈ documentInputs d, i = .ofDefinition x
  /-- The member is marked if null is allowed. -/
  marked : m.optional = true ↔ i.type.isNonNull = false
  /-- It is marked if a caller may leave it out, unless it is one of those that exclude null and
      have a default value. -/
  faithful : (m.optional = true ↔ i.isRequired = false)
    ↔ ¬ (i.type.isNonNull = true ∧ i.default?.isSome = true)

theorem printed_inputMember {i : Input} (h : ∃ x ∈ documentInputs d, i = .ofDefinition x)
    (description : Option String) : Printed d i (inputMember s description i) := by
  obtain ⟨x, hx, rfl⟩ := h
  have hoptional : (inputMember s description (.ofDefinition x)).optional
      = !(Input.ofDefinition x).type.isNonNull := optional_member s .input description _ _
  refine ⟨?name, ⟨x, hx, rfl⟩, ?marked, ?faithful⟩
  case name =>
    rw [inputMember, member]
    split <;> rfl
  case marked => rw [hoptional, Bool.not_eq_true']
  case faithful =>
    rw [hoptional, Input.isRequired]
    cases (Input.ofDefinition x).type.isNonNull <;> cases (Input.ofDefinition x).default? <;> simp

/-- **An input is marked as optional if and only if it may be null.**  The declaration has a record
    for the arguments of each field, and one for each input object; no default value of the schema
    text shows in them. -/
theorem marked_iff_nullable {text : String} (h : Schema.ofText text = .ok s)
    (scalars : ScalarTypes) :
    ∃ d, Document.ofText text = .ok d ∧ ∀ t ∈ declaredTypes s,
      (∀ f ∈ t.fields, f.arguments ≠ [] → ∃ members,
        .exportType none (argumentsName t.name f.name) (.record members)
          ∈ (schemaStatements s scalars).flatten
        ∧ List.Forall₂ (Printed d) f.arguments members)
      ∧ (t.isInputObject = true → ∃ members,
        .exportType t.description t.name (.record members) ∈ (schemaStatements s scalars).flatten
        ∧ List.Forall₂ (Printed d) t.inputFields members) := by
  obtain ⟨d, hd, rfl, -⟩ := read_of_ofText h
  refine ⟨d, hd, fun t ht => ?_⟩
  obtain ⟨hmem, hname⟩ := mem_declaredTypes_iff.mp ht
  have hdefined := exists_inputDefinition hmem hname
  constructor
  · intro f hf harguments
    refine ⟨_, mem_schemaStatements_of_mem ht (argumentsStatement_mem hf harguments), ?_⟩
    rw [List.forall₂_map_right_iff, List.forall₂_same]
    intro i hi
    exact printed_inputMember (hdefined i (mem_inputs_of_argument hf hi)) none
  · intro hobject
    refine ⟨_, mem_schemaStatements_of_mem ht (inputStatement_mem hobject), ?_⟩
    rw [List.forall₂_map_right_iff, List.forall₂_same]
    intro i hi
    exact printed_inputMember (hdefined i (mem_inputs_of_inputField hi)) i.description

/-- A schema with an argument that excludes null and has a default value. -/
def defaultedText : String := "type Query\x7ba(x:Boolean!=true):String\x7d"

theorem defaulted_facts : (Schema.ofText defaultedText).toOption.bind (fun s =>
      (s.type? "Query").bind fun t => (t.field? "a").map fun f =>
        (isIntrospectionName t.name, argumentsName t.name f.name,
          f.arguments.map fun i => (i.name, i.type.isNonNull, i.isRequired)))
    = some (false, "QueryAArgs", [("x", true, false)]) := by
  decide +kernel

/-- Such an argument may be left out, and has no mark. -/
theorem marked_iff_nullable_default :
    ∃ s t f i m, Schema.ofText defaultedText = .ok s ∧ s.type? "Query" = some t
      ∧ t.field? "a" = some f ∧ Field.arguments f = [i] ∧ i.isRequired = false
      ∧ Statement.exportType none "QueryAArgs" (.record [m]) ∈ (schemaStatements s []).flatten
      ∧ m.name = "x" ∧ m.optional = false := by
  obtain ⟨s, hread, hfacts⟩ := Option.bind_eq_some_iff.mp defaulted_facts
  obtain ⟨t, ht, hfacts⟩ := Option.bind_eq_some_iff.mp hfacts
  obtain ⟨f, hf, hfacts⟩ := Option.map_eq_some_iff.mp hfacts
  obtain ⟨hplain, hrecord, harguments⟩ : _ ∧ _ ∧ _ := by simpa only [Prod.mk.injEq] using hfacts
  obtain ⟨i, hi, hinput⟩ := List.map_eq_singleton_iff.mp harguments
  obtain ⟨hname, hnonNull, hrequired⟩ : _ ∧ _ ∧ _ := by simpa only [Prod.mk.injEq] using hinput
  have hs : Schema.ofText defaultedText = .ok s := ok_of_toOption hread
  have hdeclared : t ∈ declaredTypes s :=
    mem_declaredTypes_iff.mpr ⟨(mem_types_of_type? ht).1, hplain⟩
  obtain ⟨d, -, hall⟩ := marked_iff_nullable hs []
  obtain ⟨members, hmem, hprinted⟩ :=
    (hall t hdeclared).1 f (mem_fields_of_field? hf).1 (by simp [hi])
  rw [hrecord] at hmem
  rw [hi] at hprinted
  obtain ⟨m, rest, hm, hrest, rfl⟩ := List.forall₂_cons_left_iff.mp hprinted
  rw [List.forall₂_nil_left_iff] at hrest
  subst hrest
  refine ⟨s, t, f, i, m, hs, ht, hf, hi, hrequired, hmem, hm.name.trans hname, ?_⟩
  have hmark := hm.marked
  rw [hnonNull] at hmark
  simpa using hmark

end QueryTypings.Declaration
