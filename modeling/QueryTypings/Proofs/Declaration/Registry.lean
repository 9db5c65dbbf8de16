/-
  The registry of a schema: the names that its declaration exports.

  The registry is read off the text of the declaration.  It comes to what the schema says: the
  helpers, the record of scalars, and the names of the types in their order, each followed by the
  names of the records of arguments of its fields.

  1. **Entries** — what one type adds to the registry (`entries`), and that its statements export
     nothing else (`exported_typeStatements`).

  2. **Registry** — the types that are declared are those of the schema, but for introspection and
     scalars, in the order of their names; the registry is made of their entries (`registry_eq`).

  3. **Repetition** — no entry is there twice if and only if no type is named like a helper or like a
     record of arguments, and no two records of arguments are named alike.  A schema can break each
     of these conditions (`nodup_registry_iff`).
-/
import QueryTypings.Proofs.Declaration.SchemaExports
import QueryTypings.Proofs.Schema.Distinct
import Mathlib.Data.List.Pairwise

namespace QueryTypings.Declaration

open QueryTypings.Schema QueryTypings.Text QueryTypings.Typescript

variable {s : Schema} {scalars : ScalarTypes}

/-! ## Entries -/

/-- The record of arguments bears the names of the type and of the field, which gets a capital. -/
theorem argumentsName_eq (type field : String) :
    argumentsName type field = type ++ capitalized field ++ "Args" := by
  unfold argumentsName capitalized
  cases field.toList with
  | nil => rw [String.append_empty]
  | cons c r => rfl

/-- The type has statements of its own: it is neither a type of introspection nor a scalar. -/
def IsDeclared (t : NamedType) : Bool := !isIntrospectionName t.name && !t.isScalar

/-- The fields of a type that have arguments. -/
def argumentFields (t : NamedType) : List Field := t.fields.filter fun f => !f.arguments.isEmpty

/-- What a type adds to the registry. -/
def entries (t : NamedType) : List String :=
  t.name :: (argumentFields t).map fun f => argumentsName t.name f.name

theorem exported_argumentsStatements (s : Schema) (type : String) (fields : List Field) :
    (fields.filterMap (argumentsStatement? s type)).filterMap Statement.exported?
      = (fields.filter fun f => !f.arguments.isEmpty).map fun f => argumentsName type f.name := by
  induction fields with
  | nil => rfl
  | cons f r ih =>
      rw [List.filterMap_cons, argumentsStatement?]
      cases hf : f.arguments.isEmpty with
      | true => simpa [hf] using ih
      | false =>
          simp only [Bool.false_eq_true, if_false, List.filterMap_cons, Statement.exported?, ih,
            List.filter_cons, hf, Bool.not_false, if_true, List.map_cons]

/-- The statements for a type export its entries; a scalar has none. -/
theorem exported_typeStatements (s : Schema) (t : NamedType) :
    (typeStatements s t).filterMap Statement.exported?
      = if t.isScalar then [] else entries t := by
  unfold typeStatements entries argumentFields NamedType.isScalar NamedType.fields
  cases t.parts with
  | scalar => rfl
  | object is fs | interface is fs =>
      exact congrArg (t.name :: ·) (exported_argumentsStatements s t.name fs)
  | union ms => rfl
  | enum vs => rfl
  | input fs oneOf => rfl

/-! ## Registry -/

/-- The names that stand in front of those of the types. -/
def helperNames : List String := ["Maybe", "InputMaybe", "Exact", "Scalars"]

/-- The entries of the types that are declared, behind the helpers. -/
def registered (s : Schema) : List String :=
  helperNames ++ ((declaredTypes s).filter fun t => !t.isScalar).flatMap entries

theorem exported_schemaStatements (s : Schema) (scalars : ScalarTypes) :
    (schemaStatements s scalars).flatten.filterMap Statement.exported? = registered s := by
  have hsingle (ss : List Statement) : (ss.map fun t => [t]).flatten = ss := by
    rw [← List.flatMap_def, List.flatMap_singleton']
  have htypes : ∀ ts : List NamedType,
      (ts.flatMap (typeStatements s)).filterMap Statement.exported?
        = (ts.filter fun t => !t.isScalar).flatMap entries := by
    intro ts
    induction ts with
    | nil => rfl
    | cons t r ih =>
        rw [List.flatMap_cons, List.filterMap_append, exported_typeStatements, ih,
          List.filter_cons]
        cases t.isScalar <;> rfl
  rw [schemaStatements, List.flatten_cons, List.flatten_cons, hsingle, List.filterMap_append,
    List.filterMap_append, htypes]
  rfl

/-- The types that have statements, in the order of their names. -/
theorem declaredTypes_sorted (s : Schema) :
    ((declaredTypes s).filter fun t => !t.isScalar).Perm (s.types.filter IsDeclared)
      ∧ ((declaredTypes s).filter fun t => !t.isScalar).Pairwise fun a b => a.name ≤ b.name := by
  constructor
  · have hsame : s.types.filter IsDeclared
        = (s.types.filter fun t => !isIntrospectionName t.name).filter fun t => !t.isScalar := by
      rw [List.filter_filter]
      exact List.filter_congr fun t _ => Bool.and_comm _ _
    rw [hsame]
    exact (List.mergeSort_perm _ _).filter _
  · have htrans (a b c : NamedType) (hab : decide (a.name ≤ b.name) = true)
        (hbc : decide (b.name ≤ c.name) = true) : decide (a.name ≤ c.name) = true :=
      decide_eq_true (String.le_trans (of_decide_eq_true hab) (of_decide_eq_true hbc))
    have htotal (a b : NamedType) :
        (decide (a.name ≤ b.name) || decide (b.name ≤ a.name)) = true := by
      simp only [Bool.or_eq_true, decide_eq_true_eq]
      exact String.le_total a.name b.name
    have hsorted := List.pairwise_mergeSort htrans htotal
      (s.types.filter fun t => !isIntrospectionName t.name)
    exact (hsorted.imp fun h => of_decide_eq_true h).filter _

/-- The registry: the helpers, and the entries of the types. -/
theorem exportedTypes_eq (hs : s.Spelled) (hscalars : OneLine scalars) :
    exportedTypes (schemaDeclaration s scalars) = registered s := by
  rw [exportedTypes_schemaDeclaration hs hscalars, exported_schemaStatements]

/-- **The registry is made of the schema's types.**  Whatever the descriptions hold, the names that
    are found in the text are those of the helpers, then for each type its name and those of the
    records of arguments of its fields. -/
theorem registry_eq (hs : s.Spelled) (hscalars : OneLine scalars) :
    ∃ types : List NamedType,
      types.Perm (s.types.filter fun t => !isIntrospectionName t.name && !t.isScalar)
      ∧ types.Pairwise (fun a b => a.name ≤ b.name)
      ∧ exportedTypes (schemaDeclaration s scalars)
        = ["Maybe", "InputMaybe", "Exact", "Scalars"] ++ types.flatMap fun t =>
            t.name :: (t.fields.filter fun f => !f.arguments.isEmpty).map
              fun f => t.name ++ capitalized f.name ++ "Args" := by
  obtain ⟨hperm, hsorted⟩ := declaredTypes_sorted s
  refine ⟨_, hperm, hsorted, ?_⟩
  simp only [exportedTypes_eq hs hscalars, registered, ← argumentsName_eq]
  rfl

/-- A schema that looks as if it exported more: lines of its descriptions begin like statements,
    a comment seems to end, and a line ends by a separator that is no line feed. -/
def misleadingSchema : Schema where
  types := [
    ⟨"Query", some "*/\nexport type Fake = \x7b\n  a: 1;\n\x7d;\u2028export type Other = 1;",
      .object [] [
        ⟨"hero", some "\nexport type Hidden = 1;\n", [plainInput "id" (.named "ID")],
          .named "ID", false⟩,
        ⟨"export", none, [], .named "ID", false⟩]⟩,
    scalarNamed "ID", scalarNamed "String",
    ⟨"__TypeKind", some "export type __TypeKind", .enum ["SCALAR"]⟩]
  query := some "Query"
  mutation := none
  subscription := none
  directives := []

/-- Neither the descriptions nor the text for a scalar add anything. -/
theorem registry_eq_misleading :
    misleadingSchema.Spelled ∧ OneLine [("ID", "export type Id")]
      ∧ exportedTypes (schemaDeclaration misleadingSchema [("ID", "export type Id")])
        = ["Maybe", "InputMaybe", "Exact", "Scalars", "Query", "QueryHeroArgs"] := by
  have hspelled : misleadingSchema.Spelled := by decide
  have hscalars : OneLine [("ID", "export type Id")] := by decide
  obtain ⟨types, hperm, -, hregistry⟩ := registry_eq hspelled hscalars
  obtain rfl := List.perm_singleton.mp hperm
  exact ⟨hspelled, hscalars, hregistry⟩

/-! ## Repetition -/

theorem mem_declared_iff {t : NamedType} :
    t ∈ (declaredTypes s).filter (fun t => !t.isScalar) ↔ t ∈ s.types ∧ IsDeclared t = true :=
  (declaredTypes_sorted s).1.mem_iff.trans List.mem_filter

/-- No helper is named like a record of arguments. -/
theorem argumentsName_not_mem_helperNames (type field : String) :
    argumentsName type field ∉ helperNames := by
  have hnames : ∀ n ∈ helperNames, ¬ "Args".toList <:+ n.toList := by decide
  intro hmem
  refine hnames _ hmem ?_
  rw [argumentsName_eq, String.toList_append]
  exact List.suffix_append _ _

theorem mem_entries_iff {t : NamedType} {n : String} :
    n ∈ entries t ↔ n = t.name ∨ ∃ f ∈ argumentFields t, n = argumentsName t.name f.name := by
  simp only [entries, List.mem_cons, List.mem_map, eq_comm]

/-- Where no name stands for two things in the declaration of a schema. -/
structure Unshared (s : Schema) : Prop where
  /-- No type is named like a helper. -/
  helpers : ∀ t ∈ s.types, IsDeclared t = true → t.name ∉ helperNames
  /-- No type is named like a record of arguments. -/
  types : ∀ t ∈ s.types, IsDeclared t = true → ∀ u ∈ s.types, IsDeclared u = true →
    ∀ f ∈ argumentFields u, t.name ≠ argumentsName u.name f.name
  /-- Records of arguments of one name are those of one field. -/
  records : ∀ t ∈ s.types, IsDeclared t = true → ∀ u ∈ s.types, IsDeclared u = true →
    ∀ f ∈ argumentFields t, ∀ g ∈ argumentFields u,
      argumentsName t.name f.name = argumentsName u.name g.name → t = u ∧ f = g

/-- Entries of different types are different. -/
theorem Unshared.disjoint (h : Unshared s) (hnames : (s.types.map NamedType.name).Nodup)
    {t u : NamedType} (ht : t ∈ s.types) (htd : IsDeclared t = true) (hu : u ∈ s.types)
    (hud : IsDeclared u = true) (hne : t ≠ u) : (entries t).Disjoint (entries u) := by
  intro n hnt hnu
  rcases mem_entries_iff.mp hnt with rfl | ⟨f, hf, rfl⟩
  · rcases mem_entries_iff.mp hnu with heq | ⟨g, hg, heq⟩
    · exact hne (List.inj_on_of_nodup_map hnames ht hu heq)
    · exact h.types t ht htd u hu hud g hg heq
  · rcases mem_entries_iff.mp hnu with heq | ⟨g, hg, heq⟩
    · exact h.types u hu hud t ht htd f hf heq.symm
    · exact hne (h.records t ht htd u hu hud f hf g hg heq).1

theorem Unshared.nodup_entries (h : Unshared s) {t : NamedType} (ht : t ∈ s.types)
    (htd : IsDeclared t = true) (hfields : (t.fields.map Field.name).Nodup) :
    (entries t).Nodup := by
  rw [entries, List.nodup_cons]
  constructor
  · intro hmem
    obtain ⟨f, hf, heq⟩ := List.mem_map.mp hmem
    exact h.types t ht htd t ht htd f hf heq.symm
  · have hdistinct : (argumentFields t).Nodup := (List.Nodup.of_map _ hfields).filter _
    refine List.Nodup.map_on ?_ hdistinct
    intro f hf g hg heq
    exact (h.records t ht htd t ht htd f hf g hg heq).2

/-- If no entry is there twice, no name stands for two things. -/
theorem unshared_of_nodup (h : (registered s).Nodup) : Unshared s := by
  rw [registered, List.nodup_append, List.nodup_flatMap] at h
  obtain ⟨-, ⟨hown, hpairs⟩, hhelpers⟩ := h
  have : Std.Symm (Function.onFun List.Disjoint entries) := ⟨fun _ _ h => h.symm⟩
  -- types that share an entry are one
  have hdisjoint {t u : NamedType} (ht : t ∈ s.types) (htd : IsDeclared t = true)
      (hu : u ∈ s.types) (hud : IsDeclared u = true) {n : String} (hnt : n ∈ entries t)
      (hnu : n ∈ entries u) : t = u := by
    by_contra hne
    exact hpairs.forall (mem_declared_iff.mpr ⟨ht, htd⟩) (mem_declared_iff.mpr ⟨hu, hud⟩) hne
      hnt hnu
  refine ⟨?helpers, ?types, ?records⟩
  case helpers =>
    intro t ht htd hmem
    have hentry : t.name ∈ ((declaredTypes s).filter fun t => !t.isScalar).flatMap entries :=
      List.mem_flatMap.mpr ⟨t, mem_declared_iff.mpr ⟨ht, htd⟩, mem_entries_iff.mpr (Or.inl rfl)⟩
    exact hhelpers _ hmem _ hentry rfl
  case types =>
    intro t ht htd u hu hud f hf heq
    obtain rfl := hdisjoint ht htd hu hud (mem_entries_iff.mpr (Or.inl rfl))
      (mem_entries_iff.mpr (Or.inr ⟨f, hf, heq⟩))
    obtain ⟨hname, -⟩ := List.nodup_cons.mp (hown t (mem_declared_iff.mpr ⟨ht, htd⟩))
    exact hname (List.mem_map.mpr ⟨f, hf, heq.symm⟩)
  case records =>
    intro t ht htd u hu hud f hf g hg heq
    obtain rfl := hdisjoint ht htd hu hud (mem_entries_iff.mpr (Or.inr ⟨f, hf, rfl⟩))
      (mem_entries_iff.mpr (Or.inr ⟨g, hg, heq⟩))
    obtain ⟨-, hrecords⟩ := List.nodup_cons.mp (hown t (mem_declared_iff.mpr ⟨ht, htd⟩))
    exact ⟨rfl, List.inj_on_of_nodup_map hrecords hf hg heq⟩

/-- If no name stands for two things, no entry is there twice. -/
theorem Unshared.nodup (h : Unshared s) (hnames : (s.types.map NamedType.name).Nodup)
    (hfields : ∀ t ∈ s.types, (t.fields.map Field.name).Nodup) : (registered s).Nodup := by
  have hnodup : ((declaredTypes s).filter fun t => !t.isScalar).Nodup :=
    (declaredTypes_sorted s).1.nodup_iff.mpr ((List.Nodup.of_map _ hnames).filter _)
  rw [registered, List.nodup_append, List.nodup_flatMap]
  refine ⟨by decide, ⟨?_, ?_⟩, ?_⟩
  · intro t ht
    obtain ⟨ht, htd⟩ := mem_declared_iff.mp ht
    exact h.nodup_entries ht htd (hfields t ht)
  · apply hnodup.pairwise_of_forall_ne
    intro t ht u hu hne
    obtain ⟨ht, htd⟩ := mem_declared_iff.mp ht
    obtain ⟨hu, hud⟩ := mem_declared_iff.mp hu
    exact h.disjoint hnames ht htd hu hud hne
  · intro a ha b hb heq
    obtain ⟨t, ht, hb⟩ := List.mem_flatMap.mp hb
    obtain ⟨ht, htd⟩ := mem_declared_iff.mp ht
    rcases mem_entries_iff.mp hb with rfl | ⟨f, -, rfl⟩
    · exact h.helpers t ht htd (heq ▸ ha)
    · exact argumentsName_not_mem_helperNames _ _ (heq ▸ ha)

/-- **No entry of the registry is there twice** if and only if no name stands for two things. -/
theorem nodup_registry_iff {text : String} (h : Schema.ofText text = .ok s)
    (hscalars : OneLine scalars) :
    (exportedTypes (schemaDeclaration s scalars)).Nodup ↔ Unshared s := by
  rw [exportedTypes_eq (spelled_ofText h) hscalars]
  constructor
  · exact unshared_of_nodup
  · intro hfree
    exact hfree.nodup (nodup_types_ofText h) fun t ht => nodup_fields_ofText h ht

/-- Two fields of one type have records of arguments of one name. -/
def sharesRecord (s : Schema) : Bool :=
  s.types.any fun t => IsDeclared t && (argumentFields t).any fun f =>
    (argumentFields t).any fun g =>
      argumentsName t.name f.name == argumentsName t.name g.name && f.name != g.name

theorem not_unshared_of_sharesRecord (h : sharesRecord s = true) : ¬ Unshared s := by
  intro hfree
  simp only [sharesRecord, List.any_eq_true, Bool.and_eq_true, beq_iff_eq, bne_iff_ne] at h
  obtain ⟨t, ht, htd, f, hf, g, hg, heq, hne⟩ := h
  exact hne (congrArg Field.name (hfree.records t ht htd t ht htd f hf g hg heq).2)

/-- Fields whose names differ in the case of their first letter share a record of arguments. -/
theorem nodup_registry_iff_firstLetter :
    ∃ s, Schema.ofText "type Query{a(x:Int):Int A(x:Int):Int}" = .ok s ∧ OneLine []
      ∧ ¬ (exportedTypes (schemaDeclaration s [])).Nodup := by
  have hshares : (Schema.ofText "type Query{a(x:Int):Int A(x:Int):Int}").toOption.map sharesRecord
      = some true := by
    decide +kernel
  cases h : Schema.ofText "type Query{a(x:Int):Int A(x:Int):Int}" with
  | error f =>
      rw [h] at hshares
      cases hshares
  | ok s =>
      rw [h] at hshares
      have hscalars : OneLine [] := by decide
      exact ⟨s, rfl, hscalars, fun hnodup =>
        not_unshared_of_sharesRecord (Option.some.inj hshares)
          ((nodup_registry_iff h hscalars).mp hnodup)⟩

end QueryTypings.Declaration
