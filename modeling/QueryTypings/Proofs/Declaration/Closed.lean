/-
  The declaration of a schema is closed: what it names, it declares.

  References to types are written by one recursion over wrapped types, declarations by another
  function that looks at the kinds of types.  They agree on every type of the schema.

  1. **Leaves** — a type that stands in a statement is built from names, members of the record of
     scalars and literals (`Ty.leaves`).

  2. **References** — a reference ends in a member of the record of scalars if its type is a scalar,
     else in the name of its type; around that there are wrappers only (`leaves_memberType`).  All
     types in the statements of a type end so (`leaves_typeStatements`).

  3. **Declarations** — a scalar has its line in the record of scalars (`scalarRow_of_mem`), any
     other type is exported, and so are the wrappers.  So nothing is left dangling
     (`schemaDeclaration_closed`), as long as what the types use is there and is no type of
     introspection; in a schema that was read, it is there (`resolved_iff_of_ofText`).
-/
import QueryTypings.Proofs.Declaration.SchemaExports
import QueryTypings.Proofs.Schema.Consistency

namespace QueryTypings.Typescript

/-! ## Leaves -/

mutual

/-- The names, the members of the record of scalars and the literals of which a type is built. -/
def Ty.leaves : Ty → List Ty
  | .name n => [.name n]
  | .scalar n => [.scalar n]
  | .literal x => [.literal x]
  | .array t => t.leaves
  | .orNull t => t.leaves
  | .generic wrapper t => .name wrapper :: t.leaves
  | .object ms => memberLeaves ms
  | .union ts => typeLeaves ts
  | .alternatives ts => typeLeaves ts

/-- The leaves of the type of a member. -/
def Member.leaves : Member → List Ty
  | .mk _ _ t => t.leaves

/-- The leaves of several types. -/
def typeLeaves : List Ty → List Ty
  | [] => []
  | t :: r => t.leaves ++ typeLeaves r

/-- The leaves of the types of members. -/
def memberLeaves : List Member → List Ty
  | [] => []
  | m :: r => m.leaves ++ memberLeaves r

end

theorem typeLeaves_names (ns : List String) : typeLeaves (ns.map Ty.name) = ns.map Ty.name := by
  induction ns with
  | nil => rfl
  | cons n r ih =>
      rw [List.map_cons, typeLeaves, ih]
      rfl

/-- The types that stand in what an exported type is. -/
def Body.types : Body → List Ty
  | .inline t => [t]
  | .record ms => ms.map RecordMember.type
  | .choice _ => []
  | .emptyRecord => []

/-- The types that stand in a statement. -/
def Statement.types : Statement → List Ty
  | .exportType _ _ b => b.types
  | .declareConst _ t => [t]
  | _ => []

end QueryTypings.Typescript

namespace QueryTypings.Schema

/-! ## References -/

/-- The members of a union. -/
def NamedType.members (t : NamedType) : List String :=
  match t.parts with
  | .union ms => ms
  | _ => []

/-- The names of the types of a type's fields and their arguments, or of its input fields, or of its
    members. -/
def NamedType.uses (t : NamedType) : List String :=
  (t.fields.flatMap fun f => f.type.base :: f.arguments.map fun a => a.type.base)
    ++ (t.inputFields.map fun i => i.type.base) ++ t.members

/-- What a schema's types use is there, and it is no type of introspection, unless these types use
    one another.  The members of unions are objects. -/
structure Resolved (s : Schema) : Prop where
  there : ∀ t ∈ s.types, ∀ n ∈ t.uses, (s.type? n).isSome
  plain : ∀ t ∈ s.types, isIntrospectionName t.name = false →
    ∀ n ∈ t.uses, isIntrospectionName n = false
  members : ∀ t ∈ s.types, ∀ m ∈ t.members, ∀ o ∈ s.type? m, o.isObject = true

/-- The members of a union without faults are objects that are there. -/
theorem Faultless.exists_member {s : Schema} {t : NamedType} (h : Faultless s t) {m : String}
    (hm : m ∈ t.members) : ∃ o, s.type? m = some o ∧ o.isObject = true := by
  unfold NamedType.members at hm
  split at hm
  · rename_i ms hms
    exact h.members ms hms m hm
  · cases hm

/-- What a type without faults uses is there. -/
theorem Faultless.exists_use {s : Schema} {t : NamedType} (h : Faultless s t) {n : String}
    (hn : n ∈ t.uses) : ∃ u, s.type? n = some u := by
  rcases List.mem_append.mp hn with hn | hn
  · rcases List.mem_append.mp hn with hn | hn
    · obtain ⟨f, hf, hn⟩ := List.mem_flatMap.mp hn
      rcases List.mem_cons.mp hn with rfl | hn
      · obtain ⟨u, hu, -⟩ := h.fields f hf
        exact ⟨u, hu⟩
      · obtain ⟨a, ha, rfl⟩ := List.mem_map.mp hn
        obtain ⟨u, hu, -⟩ := h.arguments f hf a ha
        exact ⟨u, hu⟩
    · obtain ⟨i, hi, rfl⟩ := List.mem_map.mp hn
      obtain ⟨u, hu, -⟩ := h.inputFields i hi
      exact ⟨u, hu⟩
  · obtain ⟨o, ho, -⟩ := h.exists_member hn
    exact ⟨o, ho⟩

/-- **What the types of a schema that was read use is there**, and the members of its unions are
    objects.  So the schema is resolved if and only if no type that it declares uses a type of
    introspection. -/
theorem resolved_iff_of_ofText {text : String} {s : Schema} (h : Schema.ofText text = .ok s) :
    s.Resolved ↔ ∀ t ∈ s.types, isIntrospectionName t.name = false →
      ∀ n ∈ t.uses, isIntrospectionName n = false := by
  have hfaultless := faultless_ofText h
  refine ⟨fun hs => hs.plain, fun hplain => ⟨fun t ht n hn => ?_, hplain, fun t ht m hm o ho => ?_⟩⟩
  · exact Option.isSome_iff_exists.mpr ((hfaultless t ht).exists_use hn)
  · obtain ⟨o', ho', hobject⟩ := (hfaultless t ht).exists_member hm
    obtain rfl := Option.some.inj (ho.symm.trans ho')
    exact hobject

end QueryTypings.Schema

namespace QueryTypings.Declaration

open QueryTypings.Schema QueryTypings.Text QueryTypings.Typescript

variable {s : Schema} {scalars : ScalarTypes} {t : NamedType} {leaf : Ty}

/-- How the type of a given name is written where it is used. -/
def useOf (s : Schema) (n : String) : Ty :=
  if ((s.type? n).map NamedType.isScalar).getD false then .scalar n else .name n

theorem leaves_useOf (s : Schema) (n : String) : (useOf s n).leaves = [useOf s n] := by
  unfold useOf
  split <;> rfl

theorem leaves_memberType {side : Side} {r : TypeRef}
    (h : leaf ∈ (memberType s side r).leaves) :
    leaf = useOf s r.base ∨ leaf = .name side.wrapper := by
  induction r with
  | named n =>
      have hnamed : memberType s side (.named n) = useOf s n := rfl
      rw [hnamed, leaves_useOf] at h
      exact Or.inl (List.mem_singleton.mp h)
  | list r ih =>
      rw [memberType] at h
      split at h
      · exact ih h
      · rcases List.mem_cons.mp h with rfl | h
        · exact Or.inr rfl
        · exact ih h
  | nonNull r ih => exact ih h

theorem leaves_member {side : Side} {d : Option String} {name : String} {optional : Bool}
    {r : TypeRef} (h : leaf ∈ (member s side d name optional r).type.leaves) :
    leaf = useOf s r.base ∨ leaf = .name side.wrapper := by
  rw [member] at h
  split at h
  · exact leaves_memberType h
  · rcases List.mem_cons.mp h with rfl | h
    · exact Or.inr rfl
    · exact leaves_memberType h

/-- What a leaf of the statements for a type can be. -/
inductive LeafOf (s : Schema) (t : NamedType) : Ty → Prop
  | use {n : String} (mem : n ∈ t.uses) : LeafOf s t (useOf s n)
  | wrapper (side : Side) : LeafOf s t (.name side.wrapper)
  /-- The type of the member that names the type of an object. -/
  | typename : LeafOf s t (.literal t.name)

theorem LeafOf.of_member {side : Side} {d : Option String} {name : String} {optional : Bool}
    {r : TypeRef} (hr : r.base ∈ t.uses)
    (h : leaf ∈ (member s side d name optional r).type.leaves) : LeafOf s t leaf := by
  rcases leaves_member h with rfl | rfl
  · exact .use hr
  · exact .wrapper side

theorem leaves_fields {fields : List Field} (hfields : t.fields = fields) {st : Statement}
    (hst : st ∈ (.exportType t.description t.name (.record (typenameMember t.name
      :: fields.map fun f => member s .output f.description f.name false f.type)) : Statement)
      :: fields.filterMap (argumentsStatement? s t.name)) {ty : Ty} (hty : ty ∈ st.types)
    (hleaf : leaf ∈ ty.leaves) : LeafOf s t leaf := by
  have huse {f : Field} (hf : f ∈ fields) {n : String}
      (hn : n ∈ f.type.base :: f.arguments.map fun a => a.type.base) : n ∈ t.uses := by
    refine List.mem_append_left _ (List.mem_append_left _ ?_)
    exact List.mem_flatMap.mpr ⟨f, hfields ▸ hf, hn⟩
  rcases List.mem_cons.mp hst with rfl | hst
  · obtain ⟨m, hm, rfl⟩ := List.mem_map.mp hty
    rcases List.mem_cons.mp hm with rfl | hm
    · obtain rfl := List.mem_singleton.mp hleaf
      exact .typename
    · obtain ⟨f, hf, rfl⟩ := List.mem_map.mp hm
      exact .of_member (huse hf List.mem_cons_self) hleaf
  · obtain ⟨f, hf, hst⟩ := List.mem_filterMap.mp hst
    unfold argumentsStatement? at hst
    split at hst
    · cases hst
    · obtain rfl := Option.some.inj hst
      obtain ⟨m, hm, rfl⟩ := List.mem_map.mp hty
      obtain ⟨a, ha, rfl⟩ := List.mem_map.mp hm
      exact .of_member (huse hf (List.mem_cons_of_mem _ (List.mem_map_of_mem ha))) hleaf

/-- **The types in the statements for a type end in what it uses**, where a member of a union is no
    scalar. -/
theorem leaves_typeStatements
    (hmembers : ∀ m ∈ t.members, ∀ o ∈ s.type? m, o.isObject = true) {st : Statement}
    (hst : st ∈ typeStatements s t) {ty : Ty} (hty : ty ∈ st.types) (hleaf : leaf ∈ ty.leaves) :
    LeafOf s t leaf := by
  unfold typeStatements at hst
  cases hp : t.parts with
  | scalar =>
      rw [hp] at hst
      cases hst
  | object is fields | interface is fields =>
      rw [hp] at hst
      exact leaves_fields (by rw [NamedType.fields, hp]) hst hty hleaf
  | input fields oneOf =>
      rw [hp] at hst
      obtain rfl := List.mem_singleton.mp hst
      obtain ⟨m, hm, rfl⟩ := List.mem_map.mp hty
      obtain ⟨i, hi, rfl⟩ := List.mem_map.mp hm
      have hinputs : t.inputFields = fields := by rw [NamedType.inputFields, hp]
      have huse : i.type.base ∈ t.uses := by
        refine List.mem_append_left _ (List.mem_append_right _ ?_)
        exact List.mem_map_of_mem (hinputs ▸ hi)
      exact .of_member huse hleaf
  | union ms =>
      rw [hp] at hst
      obtain rfl := List.mem_singleton.mp hst
      obtain rfl := List.mem_singleton.mp hty
      rw [Ty.leaves, typeLeaves_names] at hleaf
      obtain ⟨m, hm, rfl⟩ := List.mem_map.mp hleaf
      have hmember : m ∈ t.members := by rwa [NamedType.members, hp]
      -- the name of a member is written as it is, and this is how an object is written
      have hname : useOf s m = .name m := by
        rw [useOf]
        cases ho : s.type? m with
        | none => rfl
        | some o =>
            have hscalar := (kind_of_isObject (hmembers m hmember o ho)).2
            rw [Option.map_some, Option.getD_some, hscalar]
            rfl
      rw [← hname]
      exact .use (List.mem_append_right _ hmember)
  | «enum» values =>
      rw [hp] at hst
      obtain rfl := List.mem_singleton.mp hst
      cases hty

/-! ## Declarations -/

/-- The line for a scalar in the record of scalars. -/
def scalarRow (scalars : ScalarTypes) (n : String) : String :=
  "  " ++ n ++ ": " ++ scalarType scalars n ++ ";"

/-- The text has a record of scalars with a line for the scalar. -/
def HasScalarRow (text : String) (scalars : ScalarTypes) (n : String) : Prop :=
  ∃ front rows back,
    text = front ++ ("export type Scalars = \x7b\n" ++ joinWith "\n" rows ++ "\n\x7d;") ++ back
      ∧ scalarRow scalars n ∈ rows

theorem text_record (d : Option String) (n : String) (ms : List RecordMember) :
    (Statement.exportType d n (.record ms)).text = comment "" d ++ ("export type " ++ n ++ " ="
      ++ (" \x7b\n" ++ joinWith "\n" (ms.map RecordMember.text) ++ "\n\x7d") ++ ";") := by
  have hunfold : (Statement.exportType d n (.record ms)).text
      = comment "" d ++ "export type " ++ n ++ " ="
        ++ (" \x7b\n" ++ joinWith "\n" (ms.map RecordMember.text) ++ "\n\x7d") ++ ";" := rfl
  rw [hunfold]
  simp only [String.append_assoc]

theorem text_scalarMember (scalars : ScalarTypes) (t : NamedType) :
    RecordMember.text ⟨none, t.name, false, .name (scalarType scalars t.name)⟩
      = scalarRow scalars t.name := by
  rw [RecordMember.text, scalarRow, comment, optionalMark, if_neg Bool.false_ne_true, Ty.text,
    String.append_empty, String.empty_append]

theorem scalars_frame (rows : String) :
    "export type " ++ "Scalars" ++ " =" ++ (" \x7b\n" ++ rows ++ "\n\x7d") ++ ";"
      = "export type Scalars = \x7b\n" ++ rows ++ "\n\x7d;" := by
  refine String.toList_inj.mp ?_
  simp only [String.toList_append, List.append_assoc]
  rfl

/-- The record of scalars as text, behind its comment. -/
theorem exists_scalarsStatement_text (scalars : ScalarTypes) (types : List NamedType) :
    ∃ front, (scalarsStatement scalars types).text = front ++ ("export type Scalars = \x7b\n"
      ++ joinWith "\n" ((types.filter NamedType.isScalar).map fun t => scalarRow scalars t.name)
      ++ "\n\x7d;") := by
  have hrows : ((types.filter NamedType.isScalar).map fun t =>
      RecordMember.mk none t.name false (.name (scalarType scalars t.name))).map RecordMember.text
        = (types.filter NamedType.isScalar).map fun t => scalarRow scalars t.name := by
    rw [List.map_map]
    exact List.map_congr_left fun t _ => text_scalarMember scalars t
  refine ⟨comment ""
    (some "All built-in and custom scalars, mapped to their actual values"), ?_⟩
  rw [scalarsStatement, text_record, hrows, scalars_frame]

/-- The record of scalars stands in the text. -/
theorem exists_scalars_block (s : Schema) (scalars : ScalarTypes) :
    ∃ front back, schemaDeclaration s scalars
      = front ++ (scalarsStatement scalars (declaredTypes s)).text ++ back := by
  have hjoin (text : String) (texts : List String) :
      ∃ back, joinWith "\n\n" (text :: texts) = text ++ back := by
    cases texts with
    | nil => exact ⟨"", (String.append_empty).symm⟩
    | cons u r => exact ⟨_, by rw [joinWith, String.append_assoc]⟩
  rw [schemaDeclaration, schemaStatements]
  simp only [List.map_cons, List.map_nil]
  obtain ⟨back, hback⟩ := hjoin (joinWith "\n" [(scalarsStatement scalars (declaredTypes s)).text])
    ((((declaredTypes s).flatMap (typeStatements s)).map fun t => [t]).map
      fun g => joinWith "\n" (g.map Statement.text))
  rw [joinWith_cons _ _ (List.cons_ne_nil _ _), hback, joinWith]
  refine ⟨joinWith "\n" (helperStatements.map Statement.text) ++ "\n\n", back ++ "\n", ?_⟩
  simp only [String.append_assoc]

/-- **A scalar has its line in the record of scalars.** -/
theorem scalarRow_of_mem {u : NamedType} (hu : u ∈ s.types)
    (hplain : isIntrospectionName u.name = false) (hscalar : u.isScalar = true) :
    HasScalarRow (schemaDeclaration s scalars) scalars u.name := by
  obtain ⟨front, back, htext⟩ := exists_scalars_block s scalars
  obtain ⟨described, hblock⟩ := exists_scalarsStatement_text scalars (declaredTypes s)
  rw [hblock, ← String.append_assoc] at htext
  refine ⟨_, _, _, htext, ?_⟩
  exact List.mem_map.mpr ⟨u, List.mem_filter.mpr ⟨mem_declaredTypes_iff.mpr ⟨hu, hplain⟩, hscalar⟩,
    rfl⟩

/-- The wrappers are exported. -/
theorem wrapper_mem_exportedTypes (side : Side) :
    side.wrapper ∈ exportedTypes (schemaDeclaration s scalars) := by
  have hhelper : ∃ st ∈ helperStatements, side.wrapper ∈ exportedTypes st.text := by
    cases side <;> decide
  obtain ⟨st, hst, hmem⟩ := hhelper
  rw [exportedTypes_statements]
  exact List.mem_flatMap.mpr ⟨st, mem_schemaStatements_iff.mpr (Or.inl hst), hmem⟩

/-- **The declaration of a schema is closed.**  Whatever stands in the statements for a type, under
    any arrays and wrappers, is a name that the text exports, or a member of the record of scalars
    for which the record has a line, or the literal that names the type itself. -/
theorem schemaDeclaration_closed (hs : s.Spelled) (h : s.Resolved) (ht : t ∈ declaredTypes s)
    {st : Statement} (hst : st ∈ typeStatements s t) {ty : Ty} (hty : ty ∈ st.types)
    (hleaf : leaf ∈ ty.leaves) :
    (∃ n, leaf = .name n ∧ n ∈ exportedTypes (schemaDeclaration s scalars))
    ∨ (∃ n, leaf = .scalar n ∧ HasScalarRow (schemaDeclaration s scalars) scalars n)
    ∨ leaf = .literal t.name := by
  obtain ⟨htmem, htplain⟩ := mem_declaredTypes_iff.mp ht
  cases leaves_typeStatements (h.members t htmem) hst hty hleaf with
  | wrapper side => exact Or.inl ⟨_, rfl, wrapper_mem_exportedTypes side⟩
  | typename => exact Or.inr (Or.inr rfl)
  | @use n hn =>
      obtain ⟨u, hu⟩ := Option.isSome_iff_exists.mp (h.there t htmem n hn)
      obtain ⟨humem, rfl⟩ := mem_types_of_type? hu
      have hplain := h.plain t htmem htplain _ hn
      rw [useOf, hu, Option.map_some, Option.getD_some]
      cases hscalar : u.isScalar with
      | true =>
          have hrow : HasScalarRow (schemaDeclaration s scalars) scalars u.name :=
            scalarRow_of_mem humem hplain hscalar
          exact Or.inr (Or.inl ⟨_, rfl, hrow⟩)
      | false =>
          have hexported : u.name ∈ exportedTypes (schemaDeclaration s scalars) :=
            mem_exportedTypes_of_declared humem (hs u humem).1 hplain hscalar
          exact Or.inl ⟨_, rfl, hexported⟩

/-- A type with a field of several dates. -/
def calendarType : NamedType :=
  ⟨"Calendar", none, .object [] [⟨"days", none, [plainInput "unit" (.named "Unit")],
    .list (required "Date"), false⟩]⟩

/-- A schema with each kind of type that can stand for a field or an argument. -/
def calendarSchema : Schema where
  types := [⟨"Query", none, .object [] [plainField "find" (.named "Found")]⟩, calendarType,
    ⟨"Found", none, .union ["Calendar", "Query"]⟩, ⟨"Unit", none, .enum ["DAY"]⟩,
    scalarNamed "Date", scalarNamed "String",
    ⟨"__Type", none, .object [] [plainField "kind" (.named "__TypeKind")]⟩,
    ⟨"__TypeKind", none, .enum ["SCALAR"]⟩]
  query := some "Query"
  mutation := none
  subscription := none
  directives := []

/-- The dates stand in an array in a wrapper, and have their line. -/
theorem schemaDeclaration_closed_calendar :
    calendarSchema.Spelled ∧ calendarSchema.Resolved
      ∧ HasScalarRow (schemaDeclaration calendarSchema [("Date", "string")]) [("Date", "string")]
        "Date" := by
  have hspelled : calendarSchema.Spelled := by decide
  have hresolved : calendarSchema.Resolved := ⟨by decide, by decide, by decide⟩
  have ht : calendarType ∈ declaredTypes calendarSchema :=
    mem_declaredTypes_iff.mpr ⟨List.mem_cons_of_mem _ List.mem_cons_self, by decide⟩
  have hst := @List.mem_cons_self _ (Statement.exportType none "Calendar" (.record
      [typenameMember "Calendar", ⟨none, "days", true, .generic "Maybe" (.array (.scalar "Date"))⟩]))
    [.exportType none "CalendarDaysArgs"
      (.record [⟨none, "unit", true, .generic "InputMaybe" (.name "Unit")⟩])]
  rcases @schemaDeclaration_closed calendarSchema [("Date", "string")] calendarType
      (.scalar "Date") hspelled hresolved ht _ hst (.generic "Maybe" (.array (.scalar "Date")))
      (List.mem_cons_of_mem _ List.mem_cons_self)
      (List.mem_cons_of_mem _ List.mem_cons_self) with ⟨n, hn, -⟩ | ⟨n, hn, hrow⟩ | hliteral
  · cases hn
  · obtain rfl := Ty.scalar.inj hn
    exact ⟨hspelled, hresolved, hrow⟩
  · cases hliteral

end QueryTypings.Declaration
