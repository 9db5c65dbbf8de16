/-
  What the declaration of a schema exports.

  The names that it exports are found by searching its text line by line, not by asking the
  statements.  Both come to the same.

  1. **Names** — the names in a schema are identifiers (`Schema.Spelled`): no other ones can be
     written in a schema.

  2. **Statements** — so all that the lines of a statement are made of stays in its line, unless the
     text that stands for a scalar holds a line feed (`flat_of_typeStatements`, `flat_scalars`).

  3. **The file** — a type that is declared is found in the text in any case
     (`mem_exportedTypes_of_declared`); if no text for a scalar holds a line feed, the statements'
     names are found and no others, in their order (`exportedTypes_schemaDeclaration`), and none of
     the types of introspection is among them (`not_introspection_of_exported`).
-/
import QueryTypings.Declaration.SchemaFile
import QueryTypings.Proofs.Typescript.Exports

namespace QueryTypings.Schema

open QueryTypings.Text

/-! ## Names -/

/-- The names in an argument or an input field. -/
def Input.names (i : Input) : List String := [i.name, i.type.base]

/-- The names in a field. -/
def Field.names (f : Field) : List String :=
  f.name :: f.type.base :: f.arguments.flatMap Input.names

/-- The names in what makes up a type. -/
def Parts.names : Parts → List String
  | .scalar => []
  | .object _ fields => fields.flatMap Field.names
  | .interface _ fields => fields.flatMap Field.names
  | .union members => members
  | .enum values => values
  | .input fields _ => fields.flatMap Input.names

/-- All names in the types of a schema are identifiers. -/
def Spelled (s : Schema) : Prop :=
  ∀ t ∈ s.types, IsIdentifier t.name ∧ ∀ n ∈ t.parts.names, IsIdentifier n

instance (s : Schema) : Decidable s.Spelled := inferInstanceAs (Decidable (∀ _ ∈ _, _))

end QueryTypings.Schema

namespace QueryTypings.Declaration

open QueryTypings.Schema QueryTypings.Text QueryTypings.Typescript

/-! ## Statements -/

theorem IsIdentifier.break_not_mem {n : String} (h : IsIdentifier n) : '\n' ∉ n.toList :=
  fun hmem => absurd (h.2 _ hmem) (by decide)

variable {s : Schema}

theorem break_not_mem_append {a b : String} (ha : '\n' ∉ a.toList) (hb : '\n' ∉ b.toList) :
    '\n' ∉ (a ++ b).toList := by
  rw [String.toList_append, List.mem_append, not_or]
  exact ⟨ha, hb⟩

theorem break_not_mem_between {a b text : String} (ha : '\n' ∉ a.toList)
    (h : '\n' ∉ text.toList) (hb : '\n' ∉ b.toList) : '\n' ∉ (a ++ text ++ b).toList :=
  break_not_mem_append (break_not_mem_append ha h) hb

theorem break_not_mem_generic (side : Side) {t : Ty} (h : '\n' ∉ t.text.toList) :
    '\n' ∉ (Ty.generic side.wrapper t).text.toList := by
  have hwrapper : '\n' ∉ (side.wrapper ++ "<").toList := by cases side <;> decide
  exact break_not_mem_between hwrapper h (by decide)

theorem break_not_mem_memberType (side : Side) {t : TypeRef} (h : '\n' ∉ t.base.toList) :
    '\n' ∉ (memberType s side t).text.toList := by
  induction t with
  | nonNull t ih => exact ih h
  | list t ih =>
      rw [memberType]
      split
      · exact break_not_mem_between (by decide) (ih h) (by decide)
      · exact break_not_mem_between (by decide) (break_not_mem_generic side (ih h)) (by decide)
  | named n =>
      rw [memberType]
      split
      · exact break_not_mem_between (by decide) h (by decide)
      · exact h

theorem flat_member {side : Side} {d : Option String} {name : String} {optional : Bool}
    {t : TypeRef} (hname : IsIdentifier name) (ht : IsIdentifier t.base) :
    '\n' ∉ (member s side d name optional t).name.toList
      ∧ '\n' ∉ (member s side d name optional t).type.text.toList := by
  have htype := break_not_mem_memberType (s := s) side (IsIdentifier.break_not_mem ht)
  rw [member]
  split
  · exact ⟨IsIdentifier.break_not_mem hname, htype⟩
  · exact ⟨IsIdentifier.break_not_mem hname, break_not_mem_generic side htype⟩

/-- A statement exports a type in lines of its own. -/
def Flat (st : Statement) : Prop :=
  ∃ d n b, st = .exportType d n b ∧ IsIdentifier n ∧ b.Flat

theorem Flat.exportedTypes {st : Statement} (h : Flat st) :
    exportedTypes st.text = st.exported?.toList := by
  obtain ⟨d, n, b, rfl, hn, hb⟩ := h
  exact exportedTypes_of_flat d hn hb

theorem isWord_toUpper {c : Char} (h : isWord c = true) : isWord c.toUpper = true := by
  -- only the small letters change, and they are few
  by_cases hlower : 97 ≤ c.toNat ∧ c.toNat ≤ 122
  · have hall : ∀ k : Fin 26, isWord (Char.ofNat (97 + k)).toUpper = true := by decide
    have hk := hall ⟨c.toNat - 97, by omega⟩
    have hc : 97 + (c.toNat - 97) = c.toNat := by omega
    simp only [hc, Char.ofNat_toNat] at hk
    exact hk
  · have hsame : c.toUpper = c := by
      refine dif_neg fun hle => hlower ?_
      exact ⟨UInt32.le_iff_toNat_le.mp hle.1, UInt32.le_iff_toNat_le.mp hle.2⟩
    rw [hsame]
    exact h

theorem isIdentifier_argumentsName {type field : String} (ht : IsIdentifier type)
    (hf : IsIdentifier field) : IsIdentifier (argumentsName type field) := by
  have hargs : ∀ c ∈ "Args".toList, isWord c = true := List.all_eq_true.mp (by decide)
  unfold argumentsName
  split
  · rename_i hnil
    exact absurd hnil hf.1
  · rename_i c r hcons
    have hword : ∀ d ∈ c.toUpper :: r, isWord d = true := by
      have hfield := hf.2
      rw [hcons] at hfield
      obtain ⟨hc, hr⟩ := List.forall_mem_cons.mp hfield
      exact List.forall_mem_cons.mpr ⟨isWord_toUpper hc, hr⟩
    refine ⟨by simp, ?_⟩
    rw [String.toList_append, String.toList_append, @String.toList_ofList (c.toUpper :: r)]
    exact List.forall_mem_append.mpr ⟨List.forall_mem_append.mpr ⟨ht.2, hword⟩, hargs⟩

theorem flat_inputMember {d : Option String} {i : Input} (h : ∀ n ∈ i.names, IsIdentifier n) :
    '\n' ∉ (inputMember s d i).name.toList ∧ '\n' ∉ (inputMember s d i).type.text.toList :=
  flat_member (h _ (by simp [Input.names])) (h _ (by simp [Input.names]))

theorem flat_fields {type : String} (ht : IsIdentifier type) {d : Option String}
    {fields : List Field} (h : ∀ n ∈ fields.flatMap Field.names, IsIdentifier n) :
    ∀ st ∈ (.exportType d type (.record (typenameMember type
      :: fields.map fun f => member s .output f.description f.name false f.type)) : Statement)
      :: fields.filterMap (argumentsStatement? s type), Flat st := by
  have hfield : ∀ f ∈ fields, ∀ n ∈ f.names, IsIdentifier n := fun f hf n hn =>
    h n (List.mem_flatMap.mpr ⟨f, hf, hn⟩)
  refine List.forall_mem_cons.mpr ⟨⟨d, type, _, rfl, ht, ?_⟩, fun st hst => ?_⟩
  · refine List.forall_mem_cons.mpr ⟨⟨show '\n' ∉ "__typename".toList by decide, ?_⟩,
      List.forall_mem_map.mpr fun f hf => ?_⟩
    · exact break_not_mem_between (by decide) (IsIdentifier.break_not_mem ht) (by decide)
    · exact flat_member (hfield f hf _ (by simp [Field.names]))
        (hfield f hf _ (by simp [Field.names]))
  · obtain ⟨f, hf, hst⟩ := List.mem_filterMap.mp hst
    unfold argumentsStatement? at hst
    split at hst
    · cases hst
    · obtain rfl := Option.some.inj hst
      refine ⟨none, _, _, rfl, isIdentifier_argumentsName ht
        (hfield f hf _ (by simp [Field.names])), List.forall_mem_map.mpr fun i hi => ?_⟩
      refine flat_inputMember fun n hn => hfield f hf n ?_
      exact List.mem_cons_of_mem _ (List.mem_cons_of_mem _ (List.mem_flatMap.mpr ⟨i, hi, hn⟩))

theorem break_not_mem_union {members : List String} (h : ∀ n ∈ members, IsIdentifier n) :
    '\n' ∉ (Ty.union (members.map Ty.name)).text.toList := by
  have htexts : typeTexts (members.map Ty.name) = members := by
    rw [typeTexts_eq_map, List.map_map]
    exact List.map_id members
  rw [Ty.text, htexts]
  cases members with
  | nil => decide
  | cons n r =>
      show '\n' ∉ (joinWith " | " (n :: r)).toList
      rw [toList_joinWith]
      exact not_mem_intercal (by decide)
        (List.forall_mem_map.mpr fun m hm => IsIdentifier.break_not_mem (h m hm))

/-- The statements for a type of the schema. -/
theorem flat_of_typeStatements {t : NamedType} (hname : IsIdentifier t.name)
    (hparts : ∀ n ∈ t.parts.names, IsIdentifier n) : ∀ st ∈ typeStatements s t, Flat st := by
  unfold typeStatements
  split
  · exact fun _ h => (by cases h)
  · rename_i fields heq
    rw [heq] at hparts
    exact flat_fields hname hparts
  · rename_i fields heq
    rw [heq] at hparts
    exact flat_fields hname hparts
  · rename_i fields _ heq
    rw [heq] at hparts
    refine List.forall_mem_singleton.mpr ⟨_, _, _, rfl, hname,
      List.forall_mem_map.mpr fun i hi => flat_inputMember fun n hn => ?_⟩
    exact hparts n (List.mem_flatMap.mpr ⟨i, hi, hn⟩)
  · rename_i members heq
    rw [heq] at hparts
    exact List.forall_mem_singleton.mpr ⟨_, _, _, rfl, hname, break_not_mem_union hparts⟩
  · rename_i values heq
    rw [heq] at hparts
    exact List.forall_mem_singleton.mpr ⟨_, _, _, rfl, hname,
      fun v hv => IsIdentifier.break_not_mem (hparts v hv)⟩

/-- No text that stands for a scalar holds a line feed. -/
def OneLine (scalars : ScalarTypes) : Prop := ∀ p ∈ scalars, '\n' ∉ p.2.toList

instance (scalars : ScalarTypes) : Decidable (OneLine scalars) :=
  inferInstanceAs (Decidable (∀ _ ∈ _, _))

variable {scalars : ScalarTypes}

theorem break_not_mem_scalarType (h : OneLine scalars) (n : String) :
    '\n' ∉ (scalarType scalars n).toList := by
  have hstandard : OneLine standardScalarTypes := by decide
  rw [scalarType]
  cases hcustom : OrderedMap.get? n scalars with
  | some t => exact h _ (OrderedMap.mem_of_get? hcustom)
  | none =>
      cases hbuiltin : OrderedMap.get? n standardScalarTypes with
      | some t => exact hstandard _ (OrderedMap.mem_of_get? hbuiltin)
      | none =>
          show '\n' ∉ unknownScalarType.toList
          decide

theorem flat_scalars (h : OneLine scalars) {types : List NamedType}
    (hs : ∀ t ∈ types, IsIdentifier t.name) : Flat (scalarsStatement scalars types) := by
  refine ⟨_, _, _, rfl, by decide, List.forall_mem_map.mpr fun t ht => ?_⟩
  exact ⟨IsIdentifier.break_not_mem (hs t (List.mem_filter.mp ht).1),
    break_not_mem_scalarType h t.name⟩

/-! ## The file -/

theorem mem_declaredTypes_iff {t : NamedType} :
    t ∈ declaredTypes s ↔ t ∈ s.types ∧ isIntrospectionName t.name = false := by
  rw [declaredTypes, List.mem_mergeSort, List.mem_filter, Bool.not_eq_true']

/-- The file exports what its statements export. -/
theorem exportedTypes_statements (s : Schema) (scalars : ScalarTypes) :
    exportedTypes (schemaDeclaration s scalars)
      = (schemaStatements s scalars).flatten.flatMap fun st => exportedTypes st.text := by
  have hend (text : String) : exportedTypes (text ++ "\n") = exportedTypes text := by
    have h := exportedTypes_append text ""
    rwa [String.append_empty, exportedTypes_empty, List.append_nil] at h
  rw [schemaDeclaration, hend, exportedTypes_joinWith_blank, List.flatMap_map]
  simp only [exportedTypes_joinWith, List.flatMap_map]
  rw [← List.flatMap_id, List.flatMap_assoc]
  rfl

/-- The statements are helpers, that for scalars, and those for the types that are declared. -/
theorem mem_schemaStatements_iff {st : Statement} :
    st ∈ (schemaStatements s scalars).flatten ↔
      st ∈ helperStatements ∨ st = scalarsStatement scalars (declaredTypes s)
        ∨ ∃ t ∈ declaredTypes s, st ∈ typeStatements s t := by
  have hsingle (ss : List Statement) : (ss.map fun t => [t]).flatten = ss := by
    rw [← List.flatMap_def, List.flatMap_singleton']
  rw [schemaStatements, List.flatten_cons, List.flatten_cons, hsingle, List.mem_append,
    List.mem_append, List.mem_singleton, List.mem_flatMap]

/-- **A type that is declared is found**, whatever the descriptions and the texts for scalars
    hold. -/
theorem mem_exportedTypes_of_declared {t : NamedType} (ht : t ∈ s.types)
    (hname : IsIdentifier t.name) (hdeclared : isIntrospectionName t.name = false)
    (hkind : t.isScalar = false) : t.name ∈ exportedTypes (schemaDeclaration s scalars) := by
  obtain ⟨d, b, hst⟩ : ∃ d b, .exportType d t.name b ∈ typeStatements s t := by
    unfold typeStatements
    split
    · rename_i heq
      rw [NamedType.isScalar, heq] at hkind
      cases hkind
    · exact ⟨_, _, List.mem_cons_self⟩
    · exact ⟨_, _, List.mem_cons_self⟩
    · exact ⟨_, _, List.mem_cons_self⟩
    · exact ⟨_, _, List.mem_cons_self⟩
    · exact ⟨_, _, List.mem_cons_self⟩
  rw [exportedTypes_statements]
  refine List.mem_flatMap.mpr ⟨_, mem_schemaStatements_iff.mpr (Or.inr (Or.inr
    ⟨t, mem_declaredTypes_iff.mpr ⟨ht, hdeclared⟩, hst⟩)), ?_⟩
  rw [exportedTypes_exportType d hname]
  exact List.mem_cons_self

/-- **The search finds the names of the statements**, in their order and no others. -/
theorem exportedTypes_schemaDeclaration (hs : s.Spelled) (hscalars : OneLine scalars) :
    exportedTypes (schemaDeclaration s scalars)
      = (schemaStatements s scalars).flatten.filterMap Statement.exported? := by
  have hdeclared : ∀ t ∈ declaredTypes s, IsIdentifier t.name
      ∧ ∀ n ∈ t.parts.names, IsIdentifier n := fun t ht => hs t (mem_declaredTypes_iff.mp ht).1
  have hall : ∀ st ∈ (schemaStatements s scalars).flatten,
      exportedTypes st.text = st.exported?.toList := by
    intro st hst
    rcases mem_schemaStatements_iff.mp hst with hst | rfl | ⟨t, ht, hst⟩
    · have hhelpers : ∀ st ∈ helperStatements, exportedTypes st.text = st.exported?.toList := by
        decide
      exact hhelpers st hst
    · exact (flat_scalars hscalars fun t ht => (hdeclared t ht).1).exportedTypes
    · exact (flat_of_typeStatements (hdeclared t ht).1 (hdeclared t ht).2 st hst).exportedTypes
  rw [exportedTypes_statements]
  generalize (schemaStatements s scalars).flatten = ss at hall
  induction ss with
  | nil => rfl
  | cons st r ih =>
      obtain ⟨hst, hr⟩ := List.forall_mem_cons.mp hall
      rw [List.flatMap_cons, hst, ih hr, List.filterMap_cons]
      cases st.exported? <;> rfl

/-- The statements for a type export its name, or that of a record of arguments. -/
theorem exported_of_typeStatements {t : NamedType} {st : Statement} {n : String}
    (hst : st ∈ typeStatements s t) (hn : st.exported? = some n) :
    n = t.name ∨ ∃ field, n = argumentsName t.name field := by
  have hrecord {x : Statement} {fields : List Field} (hx : x.exported? = some t.name)
      (h : st ∈ x :: fields.filterMap (argumentsStatement? s t.name)) :
      n = t.name ∨ ∃ field, n = argumentsName t.name field := by
    rcases List.mem_cons.mp h with rfl | h
    · exact Or.inl (Option.some.inj (hn.symm.trans hx))
    · obtain ⟨f, _, hst⟩ := List.mem_filterMap.mp h
      unfold argumentsStatement? at hst
      split at hst
      · cases hst
      · obtain rfl := Option.some.inj hst
        exact Or.inr ⟨f.name, (Option.some.inj hn).symm⟩
  have hsingle {x : Statement} (hx : x.exported? = some t.name) (h : st ∈ [x]) :
      n = t.name ∨ ∃ field, n = argumentsName t.name field :=
    @hrecord x [] hx h
  unfold typeStatements at hst
  split at hst
  · cases hst
  · exact hrecord rfl hst
  · exact hrecord rfl hst
  · exact hsingle rfl hst
  · exact hsingle rfl hst
  · exact hsingle rfl hst

/-- No type of introspection has a name like a record of arguments. -/
theorem not_introspection_argumentsName (type field : String) :
    isIntrospectionName (argumentsName type field) = false := by
  -- all that counts is that none of these names ends like this one
  have hnames : ∀ n ∈ introspectionNames, ¬ "sgrA".toList <+: n.toList.reverse := by decide
  obtain ⟨front, hfront⟩ : ∃ front, argumentsName type field = front ++ "Args" := by
    unfold argumentsName
    split
    · exact ⟨_, rfl⟩
    · exact ⟨_, rfl⟩
  rw [isIntrospectionName, Bool.eq_false_iff]
  intro hmem
  refine hnames _ (List.contains_iff_mem.mp hmem) ?_
  rw [hfront, String.toList_append, List.reverse_append]
  exact List.prefix_append _ _

/-- **No type of introspection is exported.** -/
theorem not_introspection_of_exported {n : String}
    (h : n ∈ (schemaStatements s scalars).flatten.filterMap Statement.exported?) :
    isIntrospectionName n = false := by
  obtain ⟨st, hst, hn⟩ := List.mem_filterMap.mp h
  rcases mem_schemaStatements_iff.mp hst with hst | rfl | ⟨t, ht, hst⟩
  · have hhelpers : ∀ st ∈ helperStatements, ∀ n ∈ st.exported?,
        isIntrospectionName n = false := by decide
    exact hhelpers st hst n hn
  · rw [← Option.some.inj hn]
    decide
  · rcases exported_of_typeStatements hst hn with rfl | ⟨field, rfl⟩
    · exact (mem_declaredTypes_iff.mp ht).2
    · exact not_introspection_argumentsName t.name field

end QueryTypings.Declaration
