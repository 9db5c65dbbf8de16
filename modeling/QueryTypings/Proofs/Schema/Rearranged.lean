/-
  The schema of rearranged definitions.

  1. **Order of types** — which types stand in a schema does not hang on the order of the
     definitions: they are those of the definitions, and the built-in types of free names for which
     something asks (`mem_orderTypes_iff`).

  2. **Rearranged schemas** — two schemas with the same parts but for their order and for places
     (`Rearranged`).  A type is found by its name in the one if it is found in the other
     (`Rearranged.type?`).

  3. **Rearranged definitions** — the same definitions in any order and at any places describe a
     rearranged schema (`rearranged_ofDefinitions`), if there are no extensions of types.
-/
import QueryTypings.Proofs.Check.Rearranged

namespace QueryTypings.Schema

open QueryTypings.Graphql

/-! ## Order of types -/

/-- The built-in types that every schema has, unless definitions take their names. -/
def constantNames : List String := ["Boolean", "String"] ++ introspectionNames

/-- The names for which something in a schema asks. -/
def demanded (defined : List NamedType) (roots : List String) (directives : List DirectiveInfo) :
    List String :=
  defined.flatMap NamedType.references ++ roots
    ++ directives.flatMap (fun d => d.arguments.map fun a => a.type.base) ++ constantNames

/-- The type is built in, its name is free, and something asks for it. -/
structure IsAdded (taken names : List String) (t : NamedType) : Prop where
  builtin : builtinType? t.name = some t
  free : t.name ∉ taken
  demanded : t.name ∈ names

variable {taken names : List String} {types defined : List NamedType} {roots : List String}
  {directives : List DirectiveInfo} {t : NamedType}

theorem IsAdded.mono {names' : List String} (h : IsAdded taken names t)
    (hsub : ∀ n ∈ names, n ∈ names') : IsAdded taken names' t :=
  ⟨h.builtin, h.free, hsub _ h.demanded⟩

/-- Built-in types ask for such types only as every schema has. -/
theorem references_builtin {name : String} {b : NamedType} (h : builtinType? name = some b) :
    ∀ n ∈ b.references, n ∈ constantNames := by
  have hintrospection : ∀ b ∈ introspectionTypes, ∀ n ∈ b.references, n ∈ constantNames := by
    decide +kernel
  unfold builtinType? at h
  split at h
  · rw [← Option.some.inj h]
    exact fun n hn => absurd hn List.not_mem_nil
  · exact hintrospection b (List.mem_of_find?_eq_some h)

/-- What is added is built in and was asked for. -/
theorem isAdded_of_mem_addBuiltins (n : Nat) (names : List String) (types : List NamedType)
    (h : t ∈ addBuiltins taken n names types) :
    t ∈ types ∨ IsAdded taken (names ++ constantNames) t := by
  induction n generalizing names types with
  | zero => exact Or.inl h
  | succ n ih =>
      rw [addBuiltins] at h
      induction names generalizing types with
      | nil => exact Or.inl h
      | cons name r ihr =>
          rw [List.foldl_cons] at h
          rcases ihr _ h with h | h
          · split at h
            · exact Or.inl h
            · rename_i hfree
              rw [Bool.or_eq_true, not_or, List.contains_iff_mem] at hfree
              split at h
              · exact Or.inl h
              · rename_i b hb
                have hname := name_of_builtinType? hb
                rcases ih _ _ h with h | h
                · rcases List.mem_append.mp h with h | h
                  · exact Or.inl h
                  · obtain rfl := List.mem_singleton.mp h
                    exact Or.inr ⟨hname ▸ hb, hname ▸ hfree.1, hname ▸ List.mem_cons_self⟩
                · refine Or.inr (h.mono fun m hm => ?_)
                  rcases List.mem_append.mp hm with hm | hm
                  · exact List.mem_append_right _ (references_builtin hb m hm)
                  · exact List.mem_append_right _ hm
          · exact Or.inr (h.mono fun m hm => List.mem_cons_of_mem _ hm)

/-- What one step brings about and no step undoes holds in the end. -/
theorem foldl_of_mem {α β : Type} {P : β → Prop} {step : β → α → β} {x : α} {xs : List α}
    (hx : x ∈ xs) (hstep : ∀ st, P (step st x)) (hkeep : ∀ st y, P st → P (step st y)) (st : β) :
    P (xs.foldl step st) := by
  induction xs generalizing st with
  | nil => cases hx
  | cons y r ih =>
      rw [List.foldl_cons]
      rcases List.mem_cons.mp hx with rfl | hx
      · exact List.foldlRecOn r step (hstep st) fun st hst y _ => hkeep st y hst
      · exact ih hx _

/-- A type of this name is there. -/
def Holds (name : String) (types : List NamedType) : Prop := ∃ t ∈ types, t.name = name

theorem Holds.addBuiltins {name : String} (h : Holds name types) (n : Nat) :
    Holds name (addBuiltins taken n names types) := by
  obtain ⟨t, ht, hname⟩ := h
  exact ⟨t, mem_addBuiltins_of_mem _ _ ht, hname⟩

theorem Holds.append {name : String} (h : Holds name types) (us : List NamedType) :
    Holds name (types ++ us) := by
  obtain ⟨t, ht, hname⟩ := h
  exact ⟨t, List.mem_append_left _ ht, hname⟩

/-- Every built-in type is there for which something asks. -/
theorem holds_orderTypes {name : String} {b : NamedType} (hb : builtinType? name = some b)
    (hfree : name ∉ defined.map NamedType.name) (hname : name ∈ demanded defined roots directives) :
    Holds name (orderTypes defined roots directives) := by
  have hadded {names : List String} (types : List NamedType) (hmem : name ∈ names) :
      Holds name (addBuiltins (defined.map NamedType.name) (builtinNames.length + 1) names types) :=
    exists_addBuiltins _ types hmem hfree hb
  have hdirectives {types : List NamedType} (h : Holds name types) :
      Holds name (directives.foldl (fun types d =>
        addBuiltins (defined.map NamedType.name) (builtinNames.length + 1)
          (d.arguments.map fun a => a.type.base) types) types) :=
    List.foldlRecOn directives _ h fun _ h _ _ => h.addBuiltins _
  rw [orderTypes]
  simp only [demanded, List.mem_append] at hname
  rcases hname with ((hname | hname) | hname) | hname
  · obtain ⟨u, hu, hname⟩ := List.mem_flatMap.mp hname
    refine (hdirectives (Holds.addBuiltins ?_ _)).addBuiltins _
    exact foldl_of_mem hu (fun _ => hadded _ hname) (fun _ _ h => (h.append _).addBuiltins _) []
  · exact (hdirectives (hadded _ hname)).addBuiltins _
  · obtain ⟨d, hd, hname⟩ := List.mem_flatMap.mp hname
    refine Holds.addBuiltins ?_ _
    exact foldl_of_mem hd (fun _ => hadded _ hname) (fun _ _ h => h.addBuiltins _) _
  · exact hadded _ hname

/-- **The types of a schema**: those of the definitions, and the built-in types of free names for
    which something asks. -/
theorem mem_orderTypes_iff : t ∈ orderTypes defined roots directives
    ↔ t ∈ defined ∨ IsAdded (defined.map NamedType.name) (demanded defined roots directives) t := by
  constructor
  · intro h
    -- whatever a part of the schema asks for is asked for by the schema
    have hadd {names : List String} {types : List NamedType} (n : Nat)
        (hsub : ∀ m ∈ names, m ∈ demanded defined roots directives)
        (h : t ∈ addBuiltins (defined.map NamedType.name) n names types) : t ∈ types
          ∨ IsAdded (defined.map NamedType.name) (demanded defined roots directives) t := by
      refine (isAdded_of_mem_addBuiltins n names types h).imp id fun h => h.mono fun m hm => ?_
      rcases List.mem_append.mp hm with hm | hm
      · exact hsub m hm
      · exact List.mem_append_right _ hm
    let P (types : List NamedType) : Prop := t ∈ types → t ∈ defined
      ∨ IsAdded (defined.map NamedType.name) (demanded defined roots directives) t
    have hdefined (n : Nat) : P (defined.foldl (fun types u =>
        addBuiltins (defined.map NamedType.name) n u.references (types ++ [u])) []) := by
      refine List.foldlRecOn defined _ (motive := P) (fun h => absurd h List.not_mem_nil) ?_
      intro types htypes u hu h
      refine (hadd n (fun m hm => ?_) h).elim (fun h => ?_) Or.inr
      · simp only [demanded, List.mem_append, List.mem_flatMap]
        exact Or.inl (Or.inl (Or.inl ⟨u, hu, hm⟩))
      · rcases List.mem_append.mp h with h | h
        · exact htypes h
        · exact Or.inl (List.mem_singleton.mp h ▸ hu)
    have hdirectives (n : Nat) {types : List NamedType} (htypes : P types) :
        P (directives.foldl (fun types d => addBuiltins (defined.map NamedType.name) n
          (d.arguments.map fun a => a.type.base) types) types) := by
      refine List.foldlRecOn directives _ (motive := P) htypes ?_
      intro types htypes d hd h
      refine (hadd n (fun m hm => ?_) h).elim htypes Or.inr
      simp only [demanded, List.mem_append, List.mem_flatMap]
      exact Or.inl (Or.inr ⟨d, hd, hm⟩)
    have hroots : ∀ m ∈ roots, m ∈ demanded defined roots directives := by
      intro m hm
      simp only [demanded, List.mem_append]
      exact Or.inl (Or.inl (Or.inr hm))
    rw [orderTypes] at h
    refine (hadd _ (fun m hm => List.mem_append_right _ hm) h).elim ?_ Or.inr
    exact hdirectives _ fun h => (hadd _ hroots h).elim (hdefined _) Or.inr
  · rintro (h | h)
    · exact mem_orderTypes_of_mem h
    · obtain ⟨u, hu, hname⟩ := holds_orderTypes h.builtin h.free h.demanded
      rcases mem_orderTypes hu with hdefined | ⟨n, hn⟩
      · exact absurd (hname ▸ List.mem_map_of_mem hdefined) h.free
      · have hbuiltin := name_of_builtinType? hn ▸ hn
        rw [hname, h.builtin] at hbuiltin
        exact Option.some.inj hbuiltin ▸ hu

/-! ## Rearranged schemas -/

/-- The second schema has the parts of the first one in any order and without places. -/
structure Rearranged (s S : Schema) : Prop where
  types : S.types.Perm (s.types.map NamedType.unplaced)
  directives : S.directives.Perm (s.directives.map DirectiveInfo.unplaced)
  root? : ∀ k, S.root? k = s.root? k
  distinct : (s.types.map NamedType.name).Nodup

/-- Types have the same names. -/
theorem Rearranged.type? {s S : Schema} (h : s.Rearranged S) (n : String) :
    S.type? n = (s.type? n).map NamedType.unplaced := by
  have hdistinct : ((s.types.map NamedType.unplaced).map NamedType.name).Nodup := by
    rw [List.map_map]
    exact h.distinct
  rw [Schema.type?, Schema.type?, find?_name_of_perm NamedType.name h.types hdistinct,
    List.find?_map]
  rfl

theorem Rearranged.baseType? {s S : Schema} (h : s.Rearranged S) (t : TypeRef) :
    S.baseType? t = (s.baseType? t).map NamedType.unplaced :=
  h.type? t.base

/-! ## Rearranged definitions -/

theorem NamedType.references_unplaced (t : NamedType) : t.unplaced.references = t.references := by
  unfold NamedType.references NamedType.unplaced
  cases t.parts with
  | object is fs | interface is fs =>
      simp only [Parts.unplaced, List.flatMap_map, Field.unplaced, List.map_map]
      rfl
  | input fs oneOf =>
      simp only [Parts.unplaced, List.map_map]
      rfl
  | _ => rfl

/-- The types that the definitions of a document describe. -/
def definedTypes (d : Document) : List NamedType :=
  (typeDefinitions d).map fun t =>
    (builtinType? t.name.text).getD (.ofDefinition (typeExtensions d) t)

/-- The directives that a document defines. -/
def ownDirectives (d : Document) : List DirectiveInfo :=
  (directiveDefinitions d).map DirectiveInfo.ofDefinition

/-- The directives of the schema that a document describes. -/
def allDirectives (d : Document) : List DirectiveInfo :=
  ownDirectives d ++ standardDirectives.filter fun s => !(ownDirectives d).any fun d => d.name == s.name

/-- The root types that a document names. -/
def namedRoots (d : Document) : List (OperationKind × Name) :=
  (schemaDefinitions d).flatMap SchemaDefinition.roots

/-- A root of the schema that a document describes, which may be that of a given name. -/
def rootNamed (d : Document) (kind : OperationKind) (name : String) : Option String :=
  if (schemaDefinitions d).all SchemaDefinition.isExtension
      && (definedTypes d).any fun t => t.name == name then some name
  else ((namedRoots d).reverse.find? fun r => r.1 == kind).map fun r => r.2.text

/-- The names of the roots. -/
def rootNames (d : Document) : List String :=
  [rootNamed d .query "Query", rootNamed d .mutation "Mutation",
    rootNamed d .subscription "Subscription"].filterMap id

theorem types_ofDefinitions (d : Document) :
    (ofDefinitions d).types = orderTypes (definedTypes d) (rootNames d) (allDirectives d) := rfl

section Definitions

variable {d D : Document} (h : D.Perm d.unplaced) (hd : typeExtensions d = [])

include h

include hd in
theorem definedTypes_perm : (definedTypes D).Perm ((definedTypes d).map NamedType.unplaced) := by
  rw [definedTypes, definedTypes, hd, (Check.typeExtensions_eq_nil_iff h).mpr hd]
  refine ((Check.typeDefinitions_perm h).map _).trans (.of_eq ?_)
  rw [List.map_map, List.map_map]
  refine List.map_congr_left fun t _ => ?_
  have hname : t.unplaced.name.text = t.name.text := rfl
  have hbuiltin := builtinType?_unplaced t.name.text
  simp only [Function.comp_apply, hname]
  cases hb : builtinType? t.name.text with
  | none => exact NamedType.ofDefinition_unplaced t
  | some b =>
      rw [hb] at hbuiltin
      exact (Option.some.inj hbuiltin).symm

theorem allDirectives_perm :
    (allDirectives D).Perm ((allDirectives d).map DirectiveInfo.unplaced) := by
  have hown : (ownDirectives D).Perm ((ownDirectives d).map DirectiveInfo.unplaced) :=
    Check.directives_perm h
  have htaken (n : String) : ((ownDirectives D).any fun d => d.name == n)
      = (ownDirectives d).any fun d => d.name == n := by
    rw [hown.any_eq, List.any_map]
    rfl
  have hstandard : (standardDirectives.filter fun s =>
        !(ownDirectives d).any fun d => d.name == s.name).map DirectiveInfo.unplaced
      = standardDirectives.filter fun s => !(ownDirectives d).any fun d => d.name == s.name := by
    calc (standardDirectives.filter fun s =>
          !(ownDirectives d).any fun d => d.name == s.name).map DirectiveInfo.unplaced
        = (standardDirectives.map DirectiveInfo.unplaced).filter fun s =>
            !(ownDirectives d).any fun d => d.name == s.name := by
          rw [List.filter_map]
          rfl
      _ = _ := by rw [standardDirectives_unplaced]
  rw [allDirectives, allDirectives, List.map_append, hstandard]
  simp only [htaken]
  exact hown.append_right _

theorem namedRoots_perm :
    (namedRoots D).Perm ((namedRoots d).map fun r => (r.1, r.2.unplaced)) := by
  refine ((Check.schemaDefinitions_perm h).flatMap_right _).trans (.of_eq ?_)
  rw [namedRoots, List.flatMap_map, List.map_flatMap]
  rfl

end Definitions

/-- A document without issues names no root twice. -/
theorem nodup_namedRoots {d : Document} (hd : typeExtensions d = [])
    (hissues : Check.definitionIssues d = []) : ((namedRoots d).map fun r => r.1.word).Nodup := by
  obtain ⟨hparts, hapart⟩ := (Check.definitionIssues_eq_nil_iff hd).mp hissues
  rw [namedRoots, List.map_flatMap, List.nodup_flatMap]
  constructor
  · intro x hx
    have hpart := hparts _ (Check.mem_schemaDefinitions_iff.mp hx)
    simp only [Check.definitionPart, Check.schemaPart, List.append_eq_nil_iff,
      List.map_eq_nil_iff] at hpart
    exact (nodup_of_laterOccurrences hpart.1.2).1
  · rw [schemaDefinitions, List.pairwise_filterMap]
    refine hapart.imp fun {x y} hxy e he f hf w hwe hwf => ?_
    cases x with
    | schema e' =>
        cases y with
        | schema f' =>
            obtain rfl := Option.some.inj he
            obtain rfl := Option.some.inj hf
            exact hxy (.root w) (Check.mem_claims_root.mpr ⟨e', rfl, hwe⟩)
              (Check.mem_claims_root.mpr ⟨f', rfl, hwf⟩)
        | _ => cases hf
    | _ => cases he

section Definitions

variable {d D : Document} (h : D.Perm d.unplaced) (hd : typeExtensions d = [])
  (hissues : Check.definitionIssues d = [])

include h hd hissues

theorem rootNamed_perm (kind : OperationKind) (name : String) :
    rootNamed D kind name = rootNamed d kind name := by
  have himplied : (schemaDefinitions D).all SchemaDefinition.isExtension
      = (schemaDefinitions d).all SchemaDefinition.isExtension := by
    rw [(Check.schemaDefinitions_perm h).all_eq, List.all_map]
    rfl
  have hdefined : ((definedTypes D).any fun t => t.name == name)
      = (definedTypes d).any fun t => t.name == name := by
    rw [(definedTypes_perm h hd).any_eq, List.any_map]
    rfl
  have hnamed : ((namedRoots D).reverse.find? fun r => r.1 == kind).map (fun r => r.2.text)
      = ((namedRoots d).reverse.find? fun r => r.1 == kind).map fun r => r.2.text := by
    have hperm : (namedRoots D).reverse.Perm
        ((namedRoots d).reverse.map fun r => (r.1, r.2.unplaced)) := by
      rw [List.map_reverse]
      exact (List.reverse_perm _).trans ((namedRoots_perm h).trans (List.reverse_perm _).symm)
    have hdistinct : (((namedRoots d).reverse.map fun r => (r.1, r.2.unplaced)).map
        fun r => r.1.word).Nodup := by
      rw [List.map_map, List.map_reverse, List.nodup_reverse]
      exact nodup_namedRoots hd hissues
    have hfind := List.find?_eq_find?_of_perm (p := fun r => r.1 == kind) hperm.symm ?_
    · rw [← hfind, List.find?_map, Option.map_map]
      rfl
    · intro x hx y hy
      obtain ⟨hx, hxk⟩ := hx
      obtain ⟨hy, hyk⟩ := hy
      have hword (k : OperationKind) (hk : (k == kind) = true) : k.word = kind.word := by
        cases k <;> cases kind <;> first | rfl | exact absurd hk (by decide)
      exact List.inj_on_of_nodup_map hdistinct hx hy ((hword _ hxk).trans (hword _ hyk).symm)
  rw [rootNamed, rootNamed, himplied, hdefined, hnamed]

/-- **The same definitions describe a rearranged schema.** -/
theorem rearranged_ofDefinitions : (ofDefinitions d).Rearranged (ofDefinitions D) := by
  have hdefined := definedTypes_perm h hd
  have hdirectives := allDirectives_perm h
  have hroots : rootNames D = rootNames d := by
    simp only [rootNames, rootNamed_perm h hd hissues]
  have hdistinct := nodup_types_ofDefinitions hissues
  have hdistinct' := nodup_types_ofDefinitions ((Check.definitionIssues_rearranged h hd).mpr hissues)
  refine ⟨?_, hdirectives, fun k => ?_, hdistinct⟩
  · have htaken : ((definedTypes D).map NamedType.name).Perm
        ((definedTypes d).map NamedType.name) := by
      have hnames := hdefined.map NamedType.name
      rwa [List.map_map] at hnames
    have hdemanded (n : String) : n ∈ demanded (definedTypes D) (rootNames D) (allDirectives D)
        ↔ n ∈ demanded (definedTypes d) (rootNames d) (allDirectives d) := by
      have htypes : ((definedTypes D).flatMap NamedType.references).Perm
          ((definedTypes d).flatMap NamedType.references) := by
        refine (hdefined.flatMap_right _).trans (.of_eq ?_)
        rw [List.flatMap_map]
        simp only [NamedType.references_unplaced]
      have harguments : ((allDirectives D).flatMap fun d => d.arguments.map fun a => a.type.base).Perm
          ((allDirectives d).flatMap fun d => d.arguments.map fun a => a.type.base) := by
        refine (hdirectives.flatMap_right _).trans (.of_eq ?_)
        rw [List.flatMap_map]
        simp only [DirectiveInfo.unplaced, List.map_map]
        rfl
      rw [hroots, demanded, demanded]
      exact (((htypes.append_right _).append harguments).append_right _).mem_iff
    have hadded (t : NamedType) : IsAdded ((definedTypes D).map NamedType.name)
          (demanded (definedTypes D) (rootNames D) (allDirectives D)) t
        ↔ IsAdded ((definedTypes d).map NamedType.name)
          (demanded (definedTypes d) (rootNames d) (allDirectives d)) t := by
      constructor
      · exact fun ht => ⟨ht.builtin, fun hm => ht.free (htaken.mem_iff.mpr hm),
          (hdemanded _).mp ht.demanded⟩
      · exact fun ht => ⟨ht.builtin, fun hm => ht.free (htaken.mem_iff.mp hm),
          (hdemanded _).mpr ht.demanded⟩
    have hunplaced : ((ofDefinitions d).types.map NamedType.unplaced).Nodup := by
      refine List.Nodup.of_map NamedType.name ?_
      rw [List.map_map]
      exact hdistinct
    refine (List.perm_ext_iff_of_nodup (List.Nodup.of_map _ hdistinct') hunplaced).mpr fun t => ?_
    rw [types_ofDefinitions, types_ofDefinitions, mem_orderTypes_iff, List.mem_map, hadded,
      hdefined.mem_iff, List.mem_map]
    simp only [mem_orderTypes_iff]
    constructor
    · rintro (⟨u, hu, rfl⟩ | ht)
      · exact ⟨u, Or.inl hu, rfl⟩
      · have hb := builtinType?_unplaced t.name
        rw [ht.builtin] at hb
        exact ⟨t, Or.inr ht, Option.some.inj hb⟩
    · rintro ⟨u, hu | hu, rfl⟩
      · exact Or.inl ⟨u, hu, rfl⟩
      · have hb := builtinType?_unplaced u.name
        rw [hu.builtin] at hb
        rw [Option.some.inj hb]
        exact Or.inr hu
  · cases k with
    | query => exact rootNamed_perm h hd hissues .query "Query"
    | mutation => exact rootNamed_perm h hd hissues .mutation "Mutation"
    | subscription => exact rootNamed_perm h hd hissues .subscription "Subscription"

end Definitions

end QueryTypings.Schema
