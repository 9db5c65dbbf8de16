/-
  What a schema that was checked promises about the values of its types.

  1. **Values** — the objects of a type are among the values of another one if that is the same type
     or an abstract type to which the first one belongs (`Belongs`).  This is what the condition of a
     fragment asks for (`applies_iff`).

  2. **Consistency** — every type is found under its name, the types of fields are there, types do
     what their interfaces promise, and the members of unions and the roots are objects
     (`Consistent`).

  3. **Covariance** — so an object has the fields of every type to which it belongs, of types that
     are no wider (`Consistent.field`), and what belongs to a type belongs to every wider one
     (`Consistent.belongs_of_isSubtype`).

  4. **Checked schemas** — the faults of a schema are those of one type after another, so in a
     schema that was read no type has any (`faultless_ofText`), and it is consistent, as no two
     definitions bear one name (`consistent_ofText`).
-/
import QueryTypings.Proofs.Execution.Response
import QueryTypings.Proofs.Schema.Spelling

namespace QueryTypings.Schema

open QueryTypings.Graphql QueryTypings.Shape QueryTypings.Execution

/-! ## Values -/

/-- The objects of the type `T` are among the values of the type `P`. -/
def NamedType.Belongs (T P : NamedType) : Prop :=
  P.name = T.name ∨ (P.isAbstract = true ∧ isPossibleType P T = true)

theorem NamedType.Belongs.refl (T : NamedType) : T.Belongs T := Or.inl rfl

theorem applies_iff {s : Schema} {T : NamedType} {condition : String} :
    applies s T condition = true ↔ ∃ P, s.type? condition = some P ∧ T.Belongs P := by
  rw [applies]
  cases s.type? condition with
  | none => exact ⟨fun h => (by cases h), fun ⟨P, hP, _⟩ => (by cases hP)⟩
  | some P =>
      simp only [Bool.or_eq_true, beq_iff_eq, Bool.and_eq_true, Option.some.injEq, exists_eq_left']
      exact Iff.rfl

variable {s : Schema} {T P U t u : NamedType} {name : String}

theorem mem_types_of_type? (h : s.type? name = some t) : t ∈ s.types ∧ t.name = name := by
  have hname := List.find?_some h
  exact ⟨List.mem_of_find?_eq_some h, eq_of_beq hname⟩

theorem mem_fields_of_field? {f : Field} (h : t.field? name = some f) :
    f ∈ t.fields ∧ f.name = name := by
  have hname := List.find?_some h
  exact ⟨List.mem_of_find?_eq_some h, eq_of_beq hname⟩

/-! ## Consistency -/

/-- A type does what an interface promises. -/
structure Implements (s : Schema) (t i : NamedType) : Prop where
  ancestors : ∀ a ∈ i.interfaces, a ∈ t.interfaces
  fields : ∀ p ∈ i.fields, ∃ f, t.field? p.name = some f ∧ s.isSubtype f.type p.type = true

/-- An object is of no other kind. -/
theorem kind_of_isObject (h : t.isObject = true) : t.isAbstract = false ∧ t.isScalar = false := by
  rw [NamedType.isAbstract, NamedType.isInterface, NamedType.isUnion, NamedType.isScalar]
  rw [NamedType.isObject] at h
  split at h
  · rename_i hparts
    rw [hparts]
    exact ⟨rfl, rfl⟩
  · cases h

/-- What the types of a schema may rely on. -/
structure Consistent (s : Schema) : Prop where
  named : ∀ t ∈ s.types, s.type? t.name = some t
  outputs : ∀ t ∈ s.types, ∀ f ∈ t.fields, ∃ u, s.baseType? f.type = some u ∧ u.isOutput = true
  interfaces : ∀ t ∈ s.types, ∀ n ∈ t.interfaces, ∀ i, s.type? n = some i →
    i.isInterface = true ∧ Implements s t i
  members : ∀ t ∈ s.types, ∀ ms, t.parts = .union ms → ∀ m ∈ ms, ∀ o, s.type? m = some o →
    o.isObject = true
  roots : ∀ k n, s.root? k = some n → ∃ r, s.type? n = some r ∧ r.isObject = true

theorem isSubtype_refl (s : Schema) (a : TypeRef) : s.isSubtype a a = true := by
  induction a with
  | named n => simp [Schema.isSubtype]
  | list a ih => rw [Schema.isSubtype, ih]
  | nonNull a ih => rw [Schema.isSubtype, ih]

/-- Of two references one is narrower if the types inside them are the same, or the one is a
    possible type of the other. -/
theorem base_of_isSubtype {a b : TypeRef} (h : s.isSubtype a b = true) :
    a.base = b.base ∨ ∃ ta tb, s.type? a.base = some ta ∧ s.type? b.base = some tb
      ∧ tb.isAbstract = true ∧ isPossibleType tb ta = true := by
  induction a generalizing b with
  | nonNull a ih =>
      cases b with
      | nonNull b => exact ih (b := b) (by rwa [Schema.isSubtype] at h)
      | list b => exact ih (b := .list b) (by rwa [Schema.isSubtype] at h; nofun)
      | named n => exact ih (b := .named n) (by rwa [Schema.isSubtype] at h; nofun)
  | list a ih =>
      cases b with
      | list b => exact ih (b := b) (by rwa [Schema.isSubtype] at h)
      | nonNull b => simp [Schema.isSubtype] at h
      | named n => simp [Schema.isSubtype] at h
  | named n =>
      cases b with
      | list b => simp [Schema.isSubtype] at h
      | nonNull b => simp [Schema.isSubtype] at h
      | named m =>
          rw [Schema.isSubtype, Bool.or_eq_true, beq_iff_eq] at h
          refine h.imp id fun h => ?_
          cases hn : s.type? n with
          | none => simp [hn] at h
          | some ta =>
              cases hm : s.type? m with
              | none => simp [hn, hm] at h
              | some tb =>
                  simp only [hn, hm, Bool.and_eq_true] at h
                  exact ⟨ta, tb, hn, hm, h.1.1, h.2⟩

/-! ## Covariance -/

/-- A type belongs to an interface that it names, and to a union of which it is a member. -/
theorem isPossibleType_iff : isPossibleType P T = true ↔
    (∃ is fs, P.parts = .interface is fs ∧ (T.isObject || T.isInterface) = true
      ∧ P.name ∈ T.interfaces)
    ∨ ∃ ms, P.parts = .union ms ∧ T.name ∈ ms := by
  rw [isPossibleType]
  cases P.parts <;> simp

/-- What stands at the place of a type is an object of the schema that belongs to it. -/
theorem Consistent.of_objectsOf (hs : Consistent s) (ht : t ∈ s.types) (hU : U ∈ objectsOf s t) :
    U ∈ s.types ∧ U.isObject = true ∧ U.Belongs t := by
  rw [objectsOf] at hU
  cases hp : t.parts with
  | object is fs =>
      simp only [hp] at hU
      obtain rfl := List.mem_singleton.mp hU
      exact ⟨ht, by rw [NamedType.isObject, hp], .refl _⟩
  | interface is fs =>
      simp only [hp, Schema.possibleTypes] at hU
      obtain ⟨hmem, hkeep⟩ := List.mem_filter.mp hU
      obtain ⟨hobject, hin⟩ := Bool.and_eq_true_iff.mp hkeep
      refine ⟨hmem, hobject, Or.inr ⟨by simp [NamedType.isAbstract, NamedType.isInterface, hp], ?_⟩⟩
      refine isPossibleType_iff.mpr (Or.inl ⟨is, fs, hp, ?_, List.contains_iff_mem.mp hin⟩)
      rw [hobject, Bool.true_or]
  | union ms =>
      simp only [hp, Schema.possibleTypes] at hU
      obtain ⟨m, hm, hfound⟩ := List.mem_filterMap.mp hU
      obtain ⟨hmem, rfl⟩ := mem_types_of_type? hfound
      exact ⟨hmem, hs.members t ht ms hp _ hm U hfound,
        Or.inr ⟨by simp [NamedType.isAbstract, NamedType.isUnion, hp],
          isPossibleType_iff.mpr (Or.inr ⟨ms, hp, hm⟩)⟩⟩
  | scalar | enum | input => simp [hp, Schema.possibleTypes] at hU

/-- Types of one name are one type. -/
theorem Consistent.eq_of_name (hs : Consistent s) (ht : t ∈ s.types) (hu : u ∈ s.types)
    (h : t.name = u.name) : t = u :=
  Option.some.inj ((hs.named t ht).symm.trans (h ▸ hs.named u hu))

/-- **An object has the fields of the types to which it belongs**, of types that are no wider. -/
theorem Consistent.field (hs : Consistent s) (hT : T ∈ s.types) (hP : P ∈ s.types)
    (h : T.Belongs P) {p : Field} (hp : P.field? name = some p) :
    ∃ f, T.field? name = some f ∧ s.isSubtype f.type p.type = true := by
  rcases h with heq | ⟨-, hpossible⟩
  · obtain rfl := hs.eq_of_name hP hT heq
    exact ⟨p, hp, isSubtype_refl s _⟩
  · obtain ⟨hmem, rfl⟩ := mem_fields_of_field? hp
    rcases isPossibleType_iff.mp hpossible with ⟨is, fs, -, -, hin⟩ | ⟨ms, hms, -⟩
    · exact (hs.interfaces T hT _ hin P (hs.named P hP)).2.fields p hmem
    · -- a union has no fields
      rw [NamedType.fields, hms] at hmem
      cases hmem

/-- What belongs to a type belongs to every abstract type to which that type belongs. -/
theorem Consistent.belongs_trans (hs : Consistent s) (hU : U ∈ s.types) (ht : t ∈ s.types)
    (hu : u ∈ s.types) (hobject : U.isObject = true) (habstract : u.isAbstract = true)
    (h : U.Belongs t) (hpossible : isPossibleType u t = true) : U.Belongs u := by
  refine Or.inr ⟨habstract, ?_⟩
  rcases h with heq | ⟨-, hUt⟩
  · obtain rfl := hs.eq_of_name ht hU heq
    exact hpossible
  · -- a type with possible types belongs to no union, for the members of unions are objects
    have hnotObject : t.isObject = false := by
      rcases isPossibleType_iff.mp hUt with ⟨_, _, hp, -⟩ | ⟨_, hp, -⟩ <;>
        rw [NamedType.isObject, hp]
    rcases isPossibleType_iff.mp hpossible with ⟨is, fs, hparts, hkind, hin⟩ | ⟨ms, hms, hin⟩
    · rcases isPossibleType_iff.mp hUt with ⟨_, _, _, -, hUin⟩ | ⟨ms, hms, -⟩
      · have himplements := (hs.interfaces U hU _ hUin t (hs.named t ht)).2
        refine isPossibleType_iff.mpr (Or.inl ⟨is, fs, hparts, ?_, himplements.ancestors _ hin⟩)
        rw [hobject, Bool.true_or]
      · rw [NamedType.interfaces, hms] at hin
        cases hin
    · rw [hs.members u hu ms hms t.name hin t (hs.named t ht)] at hnotObject
      cases hnotObject

/-- **What stands at the place of a type belongs to every wider type.** -/
theorem Consistent.belongs_of_isSubtype (hs : Consistent s) {a b : TypeRef}
    (hab : s.isSubtype a b = true) (ht : s.baseType? a = some t) (hu : s.baseType? b = some u)
    (hU : U ∈ objectsOf s t) : U.Belongs u := by
  have htmem := (mem_types_of_type? ht).1
  have humem := (mem_types_of_type? hu).1
  obtain ⟨hUmem, hUobject, hbelongs⟩ := hs.of_objectsOf htmem hU
  rcases base_of_isSubtype hab with heq | ⟨ta, tb, hta, htb, habstract, hpossible⟩
  · rw [Schema.baseType?, heq] at ht
    obtain rfl := Option.some.inj (ht.symm.trans hu)
    exact hbelongs
  · obtain rfl := Option.some.inj (ht.symm.trans hta)
    obtain rfl := Option.some.inj (hu.symm.trans htb)
    exact hs.belongs_trans hUmem htmem humem hUobject habstract hbelongs hpossible

/-! ## Checked schemas -/

/-- What a check asks for holds where it finds no fault. -/
theorem of_check_eq_nil {asked : Bool} {fault : Fault} (h : (if asked then [] else [fault]) = []) :
    asked = true := by
  cases asked with
  | true => rfl
  | false => cases h

/-- A type that is of a kind is there. -/
theorem exists_of_kind {found : Option NamedType} {kind : NamedType → Bool}
    (h : (found.map kind).getD false = true) : ∃ u, found = some u ∧ kind u = true := by
  cases found with
  | none => cases h
  | some u => exact ⟨u, rfl, h⟩

theorem argumentFaults_eq_nil {label : String} {a : Input} (h : argumentFaults s label a = []) :
    ∃ u, s.baseType? a.type = some u ∧ u.isInput = true := by
  simp only [argumentFaults, List.append_eq_nil_iff] at h
  exact exists_of_kind (of_check_eq_nil h.1.1.2)

theorem fieldsFaults_eq_nil (h : fieldsFaults s t = []) {f : Field} (hf : f ∈ t.fields) :
    (∃ u, s.baseType? f.type = some u ∧ u.isOutput = true)
      ∧ ∀ a ∈ f.arguments, ∃ u, s.baseType? a.type = some u ∧ u.isInput = true := by
  obtain ⟨-, hfields⟩ := List.append_eq_nil_iff.mp h
  have hfield := List.flatMap_eq_nil_iff.mp hfields f hf
  simp only [List.append_eq_nil_iff] at hfield
  refine ⟨exists_of_kind (of_check_eq_nil hfield.1.2), fun a ha => ?_⟩
  exact argumentFaults_eq_nil (List.flatMap_eq_nil_iff.mp hfield.2 a ha)

theorem inputFieldsFaults_eq_nil {fields : List Input} {oneOf : Bool}
    (h : inputFieldsFaults s t fields oneOf = []) {i : Input} (hi : i ∈ fields) :
    ∃ u, s.baseType? i.type = some u ∧ u.isInput = true := by
  obtain ⟨-, hfields⟩ := List.append_eq_nil_iff.mp h
  have hfield := List.flatMap_eq_nil_iff.mp hfields i hi
  simp only [List.append_eq_nil_iff] at hfield
  exact exists_of_kind (of_check_eq_nil hfield.1.1.1.1.2)

theorem implements_of_faultless {i : NamedType} (hancestors : ancestorFaults t i = [])
    (hfields : implementationFaults s t i = []) : Implements s t i where
  ancestors := by
    intro a ha
    have hnone := List.filter_eq_nil_iff.mp (List.map_eq_nil_iff.mp hancestors) a ha
    simpa using hnone
  fields := by
    intro p hp
    have hone := List.flatMap_eq_nil_iff.mp hfields p hp
    cases hf : t.field? p.name with
    | none => simp [hf] at hone
    | some f =>
        simp only [hf, promiseFaults, List.append_eq_nil_iff, ite_eq_left_iff] at hone
        refine ⟨f, rfl, ?_⟩
        by_contra hnot
        exact absurd (hone.1.1.1 hnot) (List.cons_ne_nil _ _)

theorem interfaceFaults_eq_nil {names seen : List String}
    (h : interfaceFaults s t names seen = []) {i : NamedType} (hname : name ∈ names)
    (hi : s.type? name = some i) : i.isInterface = true ∧ Implements s t i := by
  induction names generalizing seen with
  | nil => cases hname
  | cons n r ih =>
      rw [interfaceFaults] at h
      cases hn : s.type? n with
      | none =>
          rw [hn] at h
          rcases List.mem_cons.mp hname with rfl | hr
          · rw [hn] at hi
            cases hi
          · exact ih h hr
      | some j =>
          simp only [hn] at h
          split at h
          · cases h
          · rename_i hinterface
            obtain ⟨-, h⟩ := List.append_eq_nil_iff.mp h
            split at h
            · cases h
            · simp only [List.append_eq_nil_iff] at h
              rcases List.mem_cons.mp hname with rfl | hr
              · obtain rfl := Option.some.inj (hn.symm.trans hi)
                exact ⟨by simpa using hinterface, implements_of_faultless h.1.1 h.1.2⟩
              · exact ih h.2 hr

theorem memberFaults_eq_nil {names seen : List String} (h : memberFaults s t names seen = [])
    (hname : name ∈ names) : ∃ o, s.type? name = some o ∧ o.isObject = true := by
  induction names generalizing seen with
  | nil => cases hname
  | cons n r ih =>
      rw [memberFaults] at h
      split at h
      · cases h
      · rename_i hobject
        have hrest : ∃ seen, memberFaults s t r seen = [] := by
          split at h
          · cases h
          · exact ⟨_, h⟩
        rcases List.mem_cons.mp hname with rfl | hr
        · exact exists_of_kind (by simpa using hobject)
        · exact ih hrest.choose_spec hr

/-- What a type without faults relies on: the types that it uses are there, and are of the kinds that
    are asked for. -/
structure Faultless (s : Schema) (t : NamedType) : Prop where
  fields : ∀ f ∈ t.fields, ∃ u, s.baseType? f.type = some u ∧ u.isOutput = true
  arguments : ∀ f ∈ t.fields, ∀ a ∈ f.arguments,
    ∃ u, s.baseType? a.type = some u ∧ u.isInput = true
  inputFields : ∀ i ∈ t.inputFields, ∃ u, s.baseType? i.type = some u ∧ u.isInput = true
  interfaces : ∀ n ∈ t.interfaces, ∀ i, s.type? n = some i →
    i.isInterface = true ∧ Implements s t i
  members : ∀ ms, t.parts = .union ms → ∀ m ∈ ms, ∃ o, s.type? m = some o ∧ o.isObject = true

/-- A type without fields and interfaces relies on its input fields and members. -/
theorem faultless_of_fields_eq_nil (hfields : t.fields = []) (hinterfaces : t.interfaces = [])
    (hinputs : ∀ i ∈ t.inputFields, ∃ u, s.baseType? i.type = some u ∧ u.isInput = true)
    (hmembers : ∀ ms, t.parts = .union ms →
      ∀ m ∈ ms, ∃ o, s.type? m = some o ∧ o.isObject = true) : Faultless s t where
  fields _ hf := absurd (hfields ▸ hf) List.not_mem_nil
  arguments _ hf := absurd (hfields ▸ hf) List.not_mem_nil
  inputFields := hinputs
  interfaces _ hn := absurd (hinterfaces ▸ hn) List.not_mem_nil
  members := hmembers

theorem faultless_of_typeFaults {misused : List (String × Misuse)} {st : TypesState}
    (h : (typeFaults s misused st t).faults = []) : st.faults = [] ∧ Faultless s t := by
  rw [typeFaults] at h
  cases hp : t.parts with
  | object is fs | interface is fs =>
      simp only [hp, List.append_eq_nil_iff] at h
      have hinterfaces : t.interfaces = is := by rw [NamedType.interfaces, hp]
      have hinputs : t.inputFields = [] := by rw [NamedType.inputFields, hp]
      exact ⟨h.1.1, fun f hf => (fieldsFaults_eq_nil h.2.1 hf).1,
        fun f hf => (fieldsFaults_eq_nil h.2.1 hf).2,
        fun i hi => absurd (hinputs ▸ hi) List.not_mem_nil,
        fun n hn i hi => interfaceFaults_eq_nil h.2.2 (hinterfaces ▸ hn) hi,
        fun ms hms => (by cases hp.symm.trans hms)⟩
  | union ms =>
      simp only [hp, List.append_eq_nil_iff] at h
      have hinputs : t.inputFields = [] := by rw [NamedType.inputFields, hp]
      refine ⟨h.1.1, faultless_of_fields_eq_nil (by rw [NamedType.fields, hp])
        (by rw [NamedType.interfaces, hp]) (fun i hi => absurd (hinputs ▸ hi) List.not_mem_nil)
        fun ms' hms m hm => ?_⟩
      obtain rfl := Parts.union.inj (hp.symm.trans hms)
      exact memberFaults_eq_nil h.2.2 hm
  | scalar =>
      simp only [hp, List.append_eq_nil_iff] at h
      have hinputs : t.inputFields = [] := by rw [NamedType.inputFields, hp]
      exact ⟨h.1, faultless_of_fields_eq_nil (by rw [NamedType.fields, hp])
        (by rw [NamedType.interfaces, hp]) (fun i hi => absurd (hinputs ▸ hi) List.not_mem_nil)
        fun ms hms => (by cases hp.symm.trans hms)⟩
  | enum vs =>
      simp only [hp, List.append_eq_nil_iff] at h
      have hinputs : t.inputFields = [] := by rw [NamedType.inputFields, hp]
      exact ⟨h.1.1, faultless_of_fields_eq_nil (by rw [NamedType.fields, hp])
        (by rw [NamedType.interfaces, hp]) (fun i hi => absurd (hinputs ▸ hi) List.not_mem_nil)
        fun ms hms => (by cases hp.symm.trans hms)⟩
  | input fs one =>
      simp only [hp, List.append_eq_nil_iff] at h
      have hinputs : t.inputFields = fs := by rw [NamedType.inputFields, hp]
      exact ⟨h.1.1.1, faultless_of_fields_eq_nil (by rw [NamedType.fields, hp])
        (by rw [NamedType.interfaces, hp])
        (fun i hi => inputFieldsFaults_eq_nil h.1.2 (hinputs ▸ hi))
        fun ms hms => (by cases hp.symm.trans hms)⟩

/-- Where the faults of all types come to none, no type has any. -/
theorem faultless_of_foldl {misused : List (String × Misuse)} {ts : List NamedType}
    {st : TypesState} (h : (ts.foldl (typeFaults s misused) st).faults = []) :
    st.faults = [] ∧ ∀ t ∈ ts, Faultless s t := by
  induction ts generalizing st with
  | nil => exact ⟨h, fun t ht => (by cases ht)⟩
  | cons u r ih =>
      obtain ⟨hfirst, hrest⟩ := ih h
      obtain ⟨hst, hu⟩ := faultless_of_typeFaults hfirst
      exact ⟨hst, List.forall_mem_cons.mpr ⟨hu, hrest⟩⟩

theorem root_of_rootFaults (h : rootFaults s = []) {k : OperationKind} {n : String}
    (hk : s.root? k = some n) : ∃ r, s.type? n = some r ∧ r.isObject = true := by
  simp only [rootFaults, List.append_eq_nil_iff] at h
  have hmem : (k, n) ∈ operationKinds.filterMap fun k => (s.root? k).map (k, ·) :=
    List.mem_filterMap.mpr ⟨k, by cases k <;> simp [operationKinds], by rw [hk]; rfl⟩
  have hone := List.filterMap_eq_nil_iff.mp h.1.2 _ hmem
  cases hr : s.type? n with
  | none => simp [hr] at hone
  | some r => exact ⟨r, rfl, by simpa [hr] using hone⟩

/-- The definitions of types bear different names. -/
def DistinctTypes (d : Document) : Prop := ((typeDefinitions d).map fun t => t.name.text).Nodup

theorem distinctTypes_nil : DistinctTypes [] := List.nodup_nil

theorem typeDefinitions_append (a b : Document) :
    typeDefinitions (a ++ b) = typeDefinitions a ++ typeDefinitions b := List.filterMap_append

/-- A definition without issues bears a new name, if it defines a type. -/
theorem distinctTypes_concat {v : Check.Vocabulary} {all before : Document} {x : Definition}
    (hbefore : DistinctTypes before) (h : Check.definitionPart v all before x = []) :
    DistinctTypes (before ++ [x]) := by
  rw [DistinctTypes, typeDefinitions_append, List.map_append]
  have hother (hnone : typeDefinitions [x] = []) :
      (((typeDefinitions before).map fun t => t.name.text)
        ++ (typeDefinitions [x]).map fun t => t.name.text).Nodup := by
    rw [hnone, List.map_nil, List.append_nil]
    exact hbefore
  cases x with
  | type t =>
      cases hextension : t.isExtension with
      | true => exact hother (by simp [typeDefinitions, hextension])
      | false =>
          have hone : typeDefinitions [.type t] = [t] := by simp [typeDefinitions, hextension]
          rw [hone, List.map_singleton, ← List.concat_eq_append]
          refine .concat (fun hmem => ?_) hbefore
          simp only [Check.definitionPart, Check.typePart, hextension, Bool.not_false,
            Bool.true_and, List.append_eq_nil_iff, ite_eq_right_iff] at h
          obtain ⟨t', ht', hname⟩ := List.mem_map.mp hmem
          exact absurd (h.1.1.1.1.1.1 (List.any_eq_true.mpr ⟨t', ht', beq_iff_eq.mpr hname⟩))
            (List.cons_ne_nil _ _)
  | operation o => exact hother rfl
  | fragment f => exact hother rfl
  | schema x => exact hother rfl
  | directive x => exact hother rfl
  | directiveExtension x => exact hother rfl

/-- What a definition without issues keeps holds for all definitions without issues. -/
theorem definitions_induction {v : Check.Vocabulary} {all : Document} {motive : Document → Prop}
    (step : ∀ before x, motive before → Check.definitionPart v all before x = [] →
      motive (before ++ [x])) :
    ∀ {rest before : Document}, motive before → Check.definitionsFrom v all before rest = [] →
      motive (before ++ rest)
  | [], before, hbefore, _ => by rwa [List.append_nil]
  | x :: rest, before, hbefore, h => by
      obtain ⟨hx, hrest⟩ := List.append_eq_nil_iff.mp h
      have hall := definitions_induction step (step before x hbefore hx) hrest
      rwa [List.append_assoc, List.singleton_append] at hall

/-- The definitions of a text without issues bear different names. -/
theorem distinctTypes_of_issues {d : Document} (h : Check.definitionIssues d = []) :
    DistinctTypes d :=
  definitions_induction (fun _ _ => distinctTypes_concat) distinctTypes_nil h

/-- Types of one name are one type, in the order as in the definitions. -/
theorem eq_of_name_ofDefinitions {d : Document} (hd : DistinctTypes d)
    (ht : t ∈ (ofDefinitions d).types) (hu : u ∈ (ofDefinitions d).types)
    (h : t.name = u.name) : t = u := by
  rcases mem_types_ofDefinitions ht with htb | ⟨htb, x, hx, rfl⟩
  · rcases mem_types_ofDefinitions hu with hub | ⟨hub, -⟩
    · rw [h, hub] at htb
      exact (Option.some.inj htb).symm
    · rw [h, hub] at htb
      cases htb
  · rcases mem_types_ofDefinitions hu with hub | ⟨hub, y, hy, rfl⟩
    · rw [h, hub] at htb
      cases htb
    · have hxy : x = y := List.inj_on_of_nodup_map hd hx hy h
      rw [hxy]

/-- What is in a list stays there when something is added. -/
theorem mem_addBuiltins_of_mem {taken : List String} (n : Nat) (names : List String)
    {types : List NamedType} (h : t ∈ types) : t ∈ addBuiltins taken n names types := by
  induction n generalizing names types with
  | zero => exact h
  | succ n ih =>
      rw [addBuiltins]
      induction names generalizing types with
      | nil => exact h
      | cons name r ihr =>
          rw [List.foldl_cons]
          refine ihr ?_
          split
          · exact h
          · split
            · exact h
            · exact ih _ (List.mem_append_left _ h)

/-- A built-in type that is added is there, unless its name is that of a definition. -/
theorem exists_addBuiltins {taken : List String} (n : Nat) {names : List String}
    (types : List NamedType) {b : NamedType} (hname : name ∈ names) (hfree : name ∉ taken)
    (hb : builtinType? name = some b) :
    ∃ t ∈ addBuiltins taken (n + 1) names types, t.name = name := by
  induction names generalizing types with
  | nil => cases hname
  | cons m r ih =>
      have hstep : ∃ types', addBuiltins taken (n + 1) (m :: r) types
            = addBuiltins taken (n + 1) r types'
          ∧ (m = name → ∃ t ∈ types', t.name = name) := by
        rw [addBuiltins, List.foldl_cons]
        refine ⟨_, rfl, ?_⟩
        rintro rfl
        split
        · rename_i hany
          obtain ⟨t, ht, hname⟩ := List.any_eq_true.mp
            ((Bool.or_eq_true_iff.mp hany).resolve_left fun h => hfree (List.contains_iff_mem.mp h))
          exact ⟨t, ht, eq_of_beq hname⟩
        · rw [hb]
          exact ⟨b, mem_addBuiltins_of_mem _ _ (List.mem_append_right _ List.mem_cons_self),
            name_of_builtinType? hb⟩
      obtain ⟨types', hsame, hfirst⟩ := hstep
      rw [hsame]
      by_cases hm : m = name
      · obtain ⟨t, ht, htname⟩ := hfirst hm
        exact ⟨t, mem_addBuiltins_of_mem _ _ ht, htname⟩
      · exact ih types' ((List.mem_cons.mp hname).resolve_left (Ne.symm hm))

/-- The types of the definitions are there. -/
theorem mem_orderTypes_of_mem {defined : List NamedType} {roots : List String}
    {directives : List DirectiveInfo} (h : t ∈ defined) : t ∈ orderTypes defined roots directives := by
  have hfold : ∀ (rest types : List NamedType) (taken : List String) (depth : Nat),
      t ∈ rest ∨ t ∈ types →
      t ∈ rest.foldl (fun types u => addBuiltins taken depth u.references (types ++ [u]))
        types := by
    intro rest
    induction rest with
    | nil => exact fun types _ _ h => h.resolve_left List.not_mem_nil
    | cons u r ih =>
        intro types taken depth h
        refine ih _ taken depth ?_
        rcases h with h | h
        · rcases List.mem_cons.mp h with rfl | h
          · exact Or.inr (mem_addBuiltins_of_mem _ _ (List.mem_append_right _ List.mem_cons_self))
          · exact Or.inl h
        · exact Or.inr (mem_addBuiltins_of_mem _ _ (List.mem_append_left _ h))
  have hdirectives : ∀ (rest : List DirectiveInfo) (types : List NamedType) (taken : List String)
      (depth : Nat), t ∈ types →
      t ∈ rest.foldl (fun types u =>
        addBuiltins taken depth (u.arguments.map fun a => a.type.base) types) types := by
    intro rest
    induction rest with
    | nil => exact fun types _ _ h => h
    | cons u r ih => exact fun types taken depth h => ih _ taken depth (mem_addBuiltins_of_mem _ _ h)
  rw [orderTypes]
  exact mem_addBuiltins_of_mem _ _ (hdirectives _ _ _ _ (mem_addBuiltins_of_mem _ _
    (hfold _ _ _ _ (Or.inl h))))

/-- The type of names of types is there. -/
theorem string_ofDefinitions (d : Document) : ∃ t ∈ (ofDefinitions d).types, t.name = "String" := by
  obtain ⟨defined, roots, directives, htypes⟩ :
      ∃ defined roots directives, (ofDefinitions d).types = orderTypes defined roots directives :=
    ⟨_, _, _, rfl⟩
  rw [htypes]
  by_cases hdefined : ∃ t ∈ defined, t.name = "String"
  · obtain ⟨t, ht, hname⟩ := hdefined
    exact ⟨t, mem_orderTypes_of_mem ht, hname⟩
  · refine exists_addBuiltins _ _ (by simp) (fun hmem => hdefined ?_)
      (rfl : builtinType? "String" = some (scalarNamed "String"))
    exact List.mem_map.mp hmem

/-- The type of names of types is a leaf. -/
theorem string_ofText {text : String} (h : Schema.ofText text = .ok s) :
    ∃ t, s.type? "String" = some t ∧ t.isLeaf = true := by
  obtain ⟨d, -, rfl, -, -⟩ := read_of_ofText h
  obtain ⟨t, ht, hname⟩ := string_ofDefinitions d
  cases hfound : (ofDefinitions d).type? "String" with
  | none => exact absurd (beq_iff_eq.mpr hname) (List.find?_eq_none.mp hfound t ht)
  | some u =>
      refine ⟨u, rfl, ?_⟩
      obtain ⟨hu, huname⟩ := mem_types_of_type? hfound
      have hbuiltin : builtinType? "String" = some u := by
        rcases mem_types_ofDefinitions hu with hb | ⟨hb, -⟩
        · rwa [huname] at hb
        · rw [huname] at hb
          exact absurd hb (by decide)
      rw [← Option.some.inj hbuiltin]
      rfl

/-- **No type of a schema that was read has faults.** -/
theorem faultless_ofText {text : String} (h : Schema.ofText text = .ok s) :
    ∀ t ∈ s.types, Faultless s t := by
  obtain ⟨d, -, rfl, -, hfaults⟩ := read_of_ofText h
  simp only [Schema.faults, List.append_eq_nil_iff] at hfaults
  exact (faultless_of_foldl hfaults.1.2).2

/-- **A schema that was read is consistent.** -/
theorem consistent_ofText {text : String} (h : Schema.ofText text = .ok s) : Consistent s := by
  have htypes := faultless_ofText h
  obtain ⟨d, -, rfl, hissues, hfaults⟩ := read_of_ofText h
  have hdistinct := distinctTypes_of_issues hissues
  simp only [Schema.faults, List.append_eq_nil_iff] at hfaults
  refine ⟨fun t ht => ?_, fun t ht => (htypes t ht).fields, fun t ht => (htypes t ht).interfaces,
    fun t ht ms hms m hm o ho => ?_, fun k n hk => root_of_rootFaults hfaults.1.1.1 hk⟩
  · cases hfound : (ofDefinitions d).type? t.name with
    | none => exact absurd (beq_self_eq_true t.name) (List.find?_eq_none.mp hfound t ht)
    | some u =>
        obtain ⟨hu, hname⟩ := mem_types_of_type? hfound
        rw [eq_of_name_ofDefinitions hdistinct hu ht hname]
  · obtain ⟨o', ho', hobject⟩ := (htypes t ht).members ms hms m hm
    obtain rfl := Option.some.inj (ho.symm.trans ho')
    exact hobject

end QueryTypings.Schema
