/-
  What bears a name of its own in a schema that was read.

  1. **Types** — a built-in type is added only where its name is free, so the types in their order
     bear different names if those of the definitions do (`nodup_orderTypes`).

  2. **Fields** — a definition or an extension without issues names no field that another one of the
     same type has named (`DistinctFields.concat`).  The fields of a type are listed by its
     definition and extensions, so they bear different names (`nodup_fields_ofDefinition`).

  3. **Schemas** — a schema that was read has no two types, and no type two fields, of one name
     (`nodup_types_ofText`, `nodup_fields_ofText`).
-/
import QueryTypings.Proofs.Schema.Consistency
import Mathlib.Data.List.Nodup

namespace QueryTypings.Schema

open QueryTypings.Graphql

variable {s : Schema} {t : NamedType}

/-! ## Types -/

/-- No name is there twice, in a list of types and those that are still to be put there. -/
def NoNameTwice (types rest : List NamedType) : Prop := ((types ++ rest).map NamedType.name).Nodup

/-- Built-in types take free names only, also if some types are still to be put into the list. -/
theorem NoNameTwice.addBuiltins {taken : List String} {rest : List NamedType}
    (hrest : ∀ u ∈ rest, u.name ∈ taken) (n : Nat) (names : List String) {types : List NamedType}
    (h : NoNameTwice types rest) : NoNameTwice (addBuiltins taken n names types) rest := by
  induction n generalizing names types with
  | zero => exact h
  | succ n ih =>
      rw [Schema.addBuiltins]
      induction names generalizing types with
      | nil => exact h
      | cons name r ihr =>
          rw [List.foldl_cons]
          refine ihr ?_
          split
          · exact h
          · rename_i hfree
            split
            · exact h
            · rename_i b hb
              refine ih _ ?_
              have hperm : (types ++ [b] ++ rest).Perm (b :: (types ++ rest)) := by
                rw [List.append_assoc]
                exact List.perm_middle
              refine (hperm.map NamedType.name).nodup_iff.mpr (List.nodup_cons.mpr ⟨?_, h⟩)
              rw [Bool.or_eq_true, not_or, List.contains_iff_mem, List.any_eq_true] at hfree
              rintro hmem
              obtain ⟨u, hu, hname⟩ := List.mem_map.mp hmem
              rw [name_of_builtinType? hb] at hname
              rcases List.mem_append.mp hu with hu | hu
              · exact hfree.2 ⟨u, hu, beq_iff_eq.mpr hname⟩
              · exact hfree.1 (hname ▸ hrest u hu)

/-- **The types in their order bear different names** if those of the definitions do. -/
theorem nodup_orderTypes {defined : List NamedType} {roots : List String}
    {directives : List DirectiveInfo} (h : (defined.map NamedType.name).Nodup) :
    ((orderTypes defined roots directives).map NamedType.name).Nodup := by
  have htaken : ∀ u ∈ defined, u.name ∈ defined.map NamedType.name := fun u hu =>
    List.mem_map_of_mem hu
  -- a definition moves from those that are still to come into the list
  have hdefined : ∀ (rest types : List NamedType) (depth : Nat), (∀ u ∈ rest, u ∈ defined) →
      NoNameTwice types rest →
      NoNameTwice (rest.foldl (fun types u =>
        addBuiltins (defined.map NamedType.name) depth u.references (types ++ [u])) types) [] := by
    intro rest
    induction rest with
    | nil => exact fun types _ _ h => h
    | cons u r ih =>
        intro types depth hsub h
        have hr : ∀ v ∈ r, v ∈ defined := by
          intro v hv
          exact hsub v (List.mem_cons_of_mem _ hv)
        have hmoved : NoNameTwice (types ++ [u]) r := by
          rwa [NoNameTwice, List.append_assoc, List.singleton_append]
        exact ih _ depth hr (hmoved.addBuiltins (fun v hv => htaken v (hr v hv)) _ _)
  have hnone : ∀ u ∈ ([] : List NamedType), u.name ∈ defined.map NamedType.name :=
    fun u hu => absurd hu List.not_mem_nil
  have hdirectives : ∀ (rest : List DirectiveInfo) (types : List NamedType) (depth : Nat),
      NoNameTwice types [] →
      NoNameTwice (rest.foldl (fun types d => addBuiltins (defined.map NamedType.name) depth
        (d.arguments.map fun a => a.type.base) types) types) [] := by
    intro rest
    induction rest with
    | nil => exact fun types _ h => h
    | cons d r ih => exact fun types depth h => ih _ depth (.addBuiltins hnone _ _ h)
  have hall : NoNameTwice (orderTypes defined roots directives) [] := by
    rw [orderTypes]
    exact .addBuiltins hnone _ _ (hdirectives _ _ _ (.addBuiltins hnone _ _
      (hdefined defined [] _ (fun _ hu => hu) h)))
  rwa [NoNameTwice, List.append_nil] at hall

/-! ## Fields -/

/-- Where no name occurs later, the names are different, and others than those seen. -/
theorem nodup_of_laterOccurrences {seen names : List String}
    (h : Check.laterOccurrences seen names = []) :
    names.Nodup ∧ ∀ n ∈ names, n ∉ seen := by
  induction names generalizing seen with
  | nil => exact ⟨List.nodup_nil, fun n hn => absurd hn List.not_mem_nil⟩
  | cons n r ih =>
      rw [Check.laterOccurrences] at h
      split at h
      · cases h
      · rename_i hn
        -- from here on the name counts as seen
        obtain ⟨hnodup, hnew⟩ := ih h
        constructor
        · refine List.nodup_cons.mpr ⟨?_, hnodup⟩
          intro hmem
          exact hnew n hmem List.mem_cons_self
        · intro m hm hseen
          rcases List.mem_cons.mp hm with rfl | hm
          · exact hn (List.contains_iff_mem.mpr hseen)
          · exact hnew m hm (List.mem_cons_of_mem _ hseen)

/-- The definition and the extensions of a type name no field twice. -/
def DistinctFields (d : Document) : Prop :=
  ∀ name, ((Check.namesakes d name).flatMap fun t => Check.fieldNames t.parts).Nodup

theorem namesakes_concat (before : Document) (x : Definition) (name : String) :
    (Check.namesakes (before ++ [x]) name).Perm
      (Check.namesakes before name ++ Check.namesakes [x] name) := by
  have hextensions : typeExtensions (before ++ [x]) = typeExtensions before ++ typeExtensions [x] :=
    List.filterMap_append
  simp only [Check.namesakes, typeDefinitions_append, hextensions, List.filter_append,
    List.append_assoc]
  exact (List.perm_append_comm_assoc _ _ _).append_left _

theorem namesakes_type (t : TypeDefinition) (name : String) :
    Check.namesakes [.type t] name = if t.name.text = name then [t] else [] := by
  have hone : typeDefinitions [.type t] ++ typeExtensions [.type t] = [t] := by
    cases hextension : t.isExtension <;> simp [typeDefinitions, typeExtensions, hextension]
  rw [Check.namesakes, hone]
  by_cases hname : t.name.text = name <;> simp [hname]

/-- A definition without issues names no field of its type again. -/
theorem DistinctFields.concat {v : Check.Vocabulary} {all before : Document} {x : Definition}
    (hbefore : DistinctFields before) (h : Check.definitionPart v all before x = []) :
    DistinctFields (before ++ [x]) := by
  intro name
  refine ((namesakes_concat before x name).flatMap_right _).nodup_iff.mpr ?_
  rw [List.flatMap_append]
  have hother (hnone : Check.namesakes [x] name = []) :
      (((Check.namesakes before name).flatMap fun t => Check.fieldNames t.parts)
        ++ (Check.namesakes [x] name).flatMap fun t => Check.fieldNames t.parts).Nodup := by
    rw [hnone, List.flatMap_nil, List.append_nil]
    exact hbefore name
  cases x with
  | type t =>
      by_cases hname : t.name.text = name
      · subst hname
        simp only [Check.definitionPart, Check.typePart, List.append_eq_nil_iff,
          List.map_eq_nil_iff] at h
        obtain ⟨hnodup, hnew⟩ := nodup_of_laterOccurrences h.1.1.1.1.2
        rw [namesakes_type, if_pos rfl, List.flatMap_singleton]
        exact List.nodup_append.mpr ⟨hbefore _, hnodup, fun a ha b hb heq => hnew b hb (heq ▸ ha)⟩
      · exact hother (by rw [namesakes_type, if_neg hname])
  | operation o => exact hother rfl
  | fragment f => exact hother rfl
  | schema x => exact hother rfl
  | directive x => exact hother rfl
  | directiveExtension x => exact hother rfl

/-- The names of the fields among the parts of a type. -/
def Parts.fieldNames : Parts → List String
  | .object _ fs | .interface _ fs => fs.map Field.name
  | _ => []

theorem fieldNames_eq (t : NamedType) : t.fields.map Field.name = t.parts.fieldNames := by
  unfold NamedType.fields Parts.fieldNames
  cases t.parts <;> rfl

theorem fieldNames_ofDefinition (d : TypeDefinition) :
    (Parts.ofDefinition d).fieldNames.Sublist (Check.fieldNames d.parts) := by
  have hnames (fs : List FieldDefinition) :
      (fs.map Field.ofDefinition).map Field.name = fs.map fun f => f.name.text := by
    rw [List.map_map]
    rfl
  rw [Parts.ofDefinition]
  cases d.parts with
  | object is fs | interface is fs =>
      rw [Parts.fieldNames, hnames]
      exact List.Sublist.refl _
  | scalar | union | enum | input => exact List.nil_sublist _

theorem fieldNames_extend (p e : Parts) :
    (p.extend e).fieldNames.Sublist (p.fieldNames ++ e.fieldNames) := by
  unfold Parts.extend
  split
  · simp only [Parts.fieldNames, List.map_append, List.Sublist.refl]
  · simp only [Parts.fieldNames, List.map_append, List.Sublist.refl]
  · exact List.nil_sublist _
  · exact List.nil_sublist _
  · exact List.nil_sublist _
  · exact List.sublist_append_left _ _

/-- The fields of a type stand in its definition and its extensions. -/
theorem fieldNames_foldl (es : List TypeDefinition) (p : Parts) :
    (es.foldl (fun p e => p.extend (.ofDefinition e)) p).fieldNames.Sublist
      (p.fieldNames ++ es.flatMap fun e => Check.fieldNames e.parts) := by
  induction es generalizing p with
  | nil =>
      rw [List.flatMap_nil, List.append_nil]
      exact List.Sublist.refl _
  | cons e r ih =>
      refine (ih _).trans ?_
      rw [List.flatMap_cons, ← List.append_assoc]
      exact ((fieldNames_extend _ _).trans
        ((fieldNames_ofDefinition e).append_left _)).append_right _

/-- **The fields of a type that definitions describe bear different names.** -/
theorem nodup_fields_ofDefinition {d : Document} (hd : DistinctFields d) {x : TypeDefinition}
    (hx : x ∈ typeDefinitions d) :
    ((NamedType.ofDefinition (typeExtensions d) x).fields.map Field.name).Nodup := by
  rw [fieldNames_eq]
  refine ((fieldNames_foldl _ _).trans (((fieldNames_ofDefinition x).append_right _).trans
    ?_)).nodup (hd x.name.text)
  have hself : x ∈ (typeDefinitions d).filter fun t => t.name.text == x.name.text :=
    List.mem_filter.mpr ⟨hx, beq_self_eq_true _⟩
  rw [Check.namesakes, List.filter_append, List.flatMap_append]
  refine List.Sublist.append_right ?_ _
  rw [List.flatMap_def]
  exact List.sublist_flatten_of_mem (List.mem_map_of_mem hself)

/-! ## Schemas -/

/-- No two types bear one name that definitions without issues describe. -/
theorem nodup_types_ofDefinitions {d : Document} (hissues : Check.definitionIssues d = []) :
    ((ofDefinitions d).types.map NamedType.name).Nodup := by
  refine nodup_orderTypes ?_
  have hnames : ((typeDefinitions d).map fun x =>
      (builtinType? x.name.text).getD (.ofDefinition (typeExtensions d) x)).map NamedType.name
        = (typeDefinitions d).map fun x => x.name.text := by
    rw [List.map_map]
    refine List.map_congr_left fun x _ => ?_
    cases hb : builtinType? x.name.text with
    | none => simp only [Function.comp_apply, hb, Option.getD_none, NamedType.ofDefinition]
    | some b =>
        simp only [Function.comp_apply, hb, Option.getD_some]
        exact name_of_builtinType? hb
  rw [hnames]
  exact distinctTypes_of_issues hissues

/-- **No two types of a schema that was read bear one name.** -/
theorem nodup_types_ofText {text : String} (h : Schema.ofText text = .ok s) :
    (s.types.map NamedType.name).Nodup := by
  obtain ⟨d, -, rfl, hissues, -⟩ := read_of_ofText h
  exact nodup_types_ofDefinitions hissues

/-- **No two fields of a type bear one name** in a schema that was read. -/
theorem nodup_fields_ofText {text : String} (h : Schema.ofText text = .ok s) (ht : t ∈ s.types) :
    (t.fields.map Field.name).Nodup := by
  obtain ⟨d, -, rfl, hissues, -⟩ := read_of_ofText h
  have hempty : DistinctFields [] := fun _ => List.nodup_nil
  have hd : DistinctFields d :=
    definitions_induction (fun _ _ => DistinctFields.concat) hempty hissues
  have hintrospection : ∀ t ∈ introspectionTypes, (t.fields.map Field.name).Nodup := by
    decide +kernel
  have hbuiltin {n : String} {b : NamedType} (hb : builtinType? n = some b) :
      (b.fields.map Field.name).Nodup := by
    unfold builtinType? at hb
    split at hb
    · rw [← Option.some.inj hb]
      exact List.nodup_nil
    · exact hintrospection b (List.mem_of_find?_eq_some hb)
  rcases mem_types_ofDefinitions ht with hb | ⟨-, x, hx, rfl⟩
  · exact hbuiltin hb
  · exact nodup_fields_ofDefinition hd hx

end QueryTypings.Schema
