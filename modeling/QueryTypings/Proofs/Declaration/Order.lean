/-
  The declaration of a schema does not depend on the order of definitions.

  1. **Rearranged schemas** — the declaration puts the types in the order of their names, and looks
     at nothing else that an order could change (`schemaDeclaration_rearranged`).

  2. **Rearranged texts** — if a text without extensions of types is a schema, so is every text with
     the same definitions in any order, and the two have one declaration, so one registry
     (`declaration_of_rearranged`).
-/
import QueryTypings.Proofs.Declaration.Registry
import QueryTypings.Proofs.Schema.Order

namespace QueryTypings.Declaration

open QueryTypings.Schema QueryTypings.Text QueryTypings.Typescript

/-! ## Rearranged schemas -/

section Rearranged

variable {s S : Schema} (h : s.Rearranged S)

include h

/-- The types that are declared are the same, in the same order. -/
theorem declaredTypes_rearranged :
    declaredTypes S = (declaredTypes s).map NamedType.unplaced := by
  have htrans (a b c : NamedType) (hab : decide (a.name ≤ b.name) = true)
      (hbc : decide (b.name ≤ c.name) = true) : decide (a.name ≤ c.name) = true :=
    decide_eq_true (String.le_trans (of_decide_eq_true hab) (of_decide_eq_true hbc))
  have htotal (a b : NamedType) :
      (decide (a.name ≤ b.name) || decide (b.name ≤ a.name)) = true := by
    simp only [Bool.or_eq_true, decide_eq_true_eq]
    exact String.le_total a.name b.name
  have hsorted (s : Schema) : (declaredTypes s).Pairwise fun a b => decide (a.name ≤ b.name) = true :=
    List.pairwise_mergeSort htrans htotal _
  have hperm : (declaredTypes S).Perm ((declaredTypes s).map NamedType.unplaced) := by
    have hfilter : (S.types.filter fun t => !isIntrospectionName t.name).Perm
        ((s.types.filter fun t => !isIntrospectionName t.name).map NamedType.unplaced) := by
      refine (h.types.filter _).trans (.of_eq ?_)
      rw [List.filter_map]
      rfl
    exact (List.mergeSort_perm _ _).trans (hfilter.trans
      ((List.mergeSort_perm _ _).symm.map NamedType.unplaced))
  -- two types of which neither comes first bear one name, so they are one type
  refine @List.Perm.eq_of_pairwise _ (fun a b => decide (a.name ≤ b.name) = true) _ _ ?_
    (hsorted S) ?_ hperm
  · intro a b ha hb hab hba
    have hname : a.name = b.name :=
      String.le_antisymm (of_decide_eq_true hab) (of_decide_eq_true hba)
    have hmem {t : NamedType} (ht : t ∈ (declaredTypes s).map NamedType.unplaced) :
        t ∈ s.types.map NamedType.unplaced := by
      obtain ⟨u, hu, rfl⟩ := List.mem_map.mp ht
      have hu := (List.mergeSort_perm _ _).mem_iff.mp hu
      exact List.mem_map_of_mem (List.mem_filter.mp hu).1
    have hdistinct : ((s.types.map NamedType.unplaced).map NamedType.name).Nodup := by
      rw [List.map_map]
      exact h.distinct
    exact List.inj_on_of_nodup_map hdistinct (hmem (hperm.mem_iff.mp ha)) (hmem hb) hname
  · exact List.pairwise_map.mpr (hsorted s)

theorem isScalarName_rearranged (n : String) : ((S.type? n).map NamedType.isScalar).getD false
    = ((s.type? n).map NamedType.isScalar).getD false := by
  rw [h.type?, Option.map_map]
  cases s.type? n with
  | none => rfl
  | some t => exact t.isScalar_unplaced

theorem memberType_rearranged (side : Side) (t : TypeRef) :
    memberType S side t = memberType s side t := by
  induction t with
  | named n => rw [memberType, memberType, isScalarName_rearranged h]
  | list t ih => rw [memberType, memberType, ih]
  | nonNull t ih => rw [memberType, memberType, ih]

theorem member_rearranged (side : Side) (description : Option String) (name : String)
    (markedOptional : Bool) (t : TypeRef) :
    member S side description name markedOptional t
      = member s side description name markedOptional t := by
  rw [member, member, memberType_rearranged h]

theorem inputMembers_rearranged (description : Input → Option String)
    (hdescription : ∀ i, description i.unplaced = description i) (is : List Input) :
    (is.map Input.unplaced).map (fun i => inputMember S (description i) i)
      = is.map fun i => inputMember s (description i) i := by
  rw [List.map_map]
  refine List.map_congr_left fun i _ => ?_
  rw [Function.comp_apply, hdescription]
  exact member_rearranged h .input _ i.name i.markedOptional i.type

theorem argumentsStatement?_rearranged (type : String) (f : Field) :
    argumentsStatement? S type f.unplaced = argumentsStatement? s type f := by
  have hmembers := inputMembers_rearranged h (fun _ => none) (fun _ => rfl) f.arguments
  have hempty : (f.arguments.map Input.unplaced).isEmpty = f.arguments.isEmpty := List.isEmpty_map
  simp only [argumentsStatement?, Field.unplaced, hmembers, hempty]

/-- **The statements for a type** are the same. -/
theorem typeStatements_rearranged (t : NamedType) :
    typeStatements S t.unplaced = typeStatements s t := by
  have hfields (type : String) (fs : List Field) :
      (fs.map Field.unplaced).filterMap (argumentsStatement? S type)
        = fs.filterMap (argumentsStatement? s type) := by
    rw [List.filterMap_map]
    exact List.filterMap_congr fun f _ => argumentsStatement?_rearranged h type f
  have hmembers (fs : List Field) : (fs.map Field.unplaced).map
        (fun f => member S .output f.description f.name false f.type)
      = fs.map fun f => member s .output f.description f.name false f.type := by
    rw [List.map_map]
    exact List.map_congr_left fun f _ => member_rearranged h .output _ f.name false f.type
  unfold typeStatements NamedType.unplaced
  cases t.parts with
  | scalar | union ms | enum vs => rfl
  | object is fs | interface is fs => simp only [Parts.unplaced, hfields, hmembers]
  | input fs oneOf =>
      simp only [Parts.unplaced, inputMembers_rearranged h Input.description (fun _ => rfl)]

/-- **Rearranged schemas have one declaration.** -/
theorem schemaDeclaration_rearranged (scalars : ScalarTypes) :
    schemaDeclaration S scalars = schemaDeclaration s scalars := by
  have hstatements : (declaredTypes S).flatMap (typeStatements S)
      = (declaredTypes s).flatMap (typeStatements s) := by
    rw [declaredTypes_rearranged h, List.flatMap_map]
    simp only [typeStatements_rearranged h]
  have hscalars : scalarsStatement scalars (declaredTypes S)
      = scalarsStatement scalars (declaredTypes s) := by
    rw [scalarsStatement, scalarsStatement, declaredTypes_rearranged h, List.filter_map]
    simp only [Function.comp_def, NamedType.isScalar_unplaced, List.map_map]
    rfl
  rw [schemaDeclaration, schemaDeclaration, schemaStatements, schemaStatements, hstatements,
    hscalars]

end Rearranged

/-! ## Rearranged texts -/

/-- **The declaration does not depend on the order of definitions.**  Take the text of a schema that
    extends no type, and any other text that holds the same definitions, wherever they stand.  Then
    that text is a schema, too, and with every mapping of scalars the two have the same declaration,
    which exports the same names. -/
theorem declaration_of_rearranged {a b : String} {d d' : Graphql.Document} {s : Schema}
    (ha : Graphql.Document.ofText a = .ok d) (hb : Graphql.Document.ofText b = .ok d')
    (hsame : d'.unplaced.Perm d.unplaced) (hplain : typeExtensions d = [])
    (hs : Schema.ofText a = .ok s) :
    ∃ s', Schema.ofText b = .ok s' ∧ ∀ scalars : ScalarTypes,
      schemaDeclaration s' scalars = schemaDeclaration s scalars
        ∧ exportedTypes (schemaDeclaration s' scalars)
          = exportedTypes (schemaDeclaration s scalars) := by
  obtain ⟨s', hs', S, h, h'⟩ := ofText_rearranged ha hb hsame hplain hs
  refine ⟨s', hs', fun scalars => ?_⟩
  have hdeclaration : schemaDeclaration s' scalars = schemaDeclaration s scalars :=
    (schemaDeclaration_rearranged h' scalars).symm.trans (schemaDeclaration_rearranged h scalars)
  exact ⟨hdeclaration, congrArg exportedTypes hdeclaration⟩

/-- A scalar in front of the object that refers to it. -/
def scalarFirst : String := "scalar Day type Query\x7bday:Day\x7d"

/-- The scalar behind the object. -/
def scalarLast : String := "type Query\x7bday:Day\x7d\n\nscalar Day"

/-- A definition of the scalar, and one of the object. -/
def dayKinds : Graphql.Definition → Bool × Bool
  | .type ⟨false, none, ⟨"Day", _⟩, [], .scalar, _⟩ => (true, false)
  | .type ⟨false, none, ⟨"Query", _⟩, [],
      .object [] [⟨none, ⟨"day", _⟩, [], .named ⟨"Day", _⟩, []⟩], _⟩ => (false, true)
  | _ => (false, false)

/-- Definitions of one kind differ in places only. -/
theorem unplaced_of_dayKinds {x y : Graphql.Definition} {kinds : Bool × Bool}
    (hx : dayKinds x = kinds) (hy : dayKinds y = kinds) (h : kinds ≠ (false, false)) :
    x.unplaced = y.unplaced := by
  unfold dayKinds at hx hy
  split at hx
  · split at hy
    · rfl
    · cases hx.trans hy.symm
    · exact absurd hy.symm h
  · split at hy
    · cases hx.trans hy.symm
    · rfl
    · exact absurd hy.symm h
  · exact absurd hx.symm h

theorem scalarFirst_facts : (Schema.ofText scalarFirst).toOption.isSome = true
    ∧ (Graphql.Document.ofText scalarFirst).toOption.map
        (fun d => ((typeExtensions d).isEmpty, d.map dayKinds))
      = some (true, [(true, false), (false, true)])
    ∧ (Graphql.Document.ofText scalarLast).toOption.map (fun d => d.map dayKinds)
      = some [(false, true), (true, false)] := by
  decide +kernel

/-- The scalar may stand behind the object. -/
theorem declaration_of_rearranged_scalar : ∃ d d' s,
    Graphql.Document.ofText scalarFirst = .ok d ∧ Graphql.Document.ofText scalarLast = .ok d'
      ∧ d'.unplaced.Perm d.unplaced ∧ typeExtensions d = [] ∧ Schema.ofText scalarFirst = .ok s
      ∧ ∃ s', Schema.ofText scalarLast = .ok s' ∧ ∀ scalars : ScalarTypes,
        schemaDeclaration s' scalars = schemaDeclaration s scalars
          ∧ exportedTypes (schemaDeclaration s' scalars)
            = exportedTypes (schemaDeclaration s scalars) := by
  obtain ⟨hschema, hfirst, hlast⟩ := scalarFirst_facts
  obtain ⟨s, hs⟩ := Option.isSome_iff_exists.mp hschema
  obtain ⟨d, ha, hkinds⟩ := Option.map_eq_some_iff.mp hfirst
  obtain ⟨d', hb, hkinds'⟩ := Option.map_eq_some_iff.mp hlast
  obtain ⟨hplain, hkinds⟩ := Prod.mk.inj hkinds
  have hs := ok_of_toOption hs
  have ha := ok_of_toOption ha
  have hb := ok_of_toOption hb
  have hplain := List.isEmpty_iff.mp hplain
  have hsame : d'.unplaced.Perm d.unplaced := by
    obtain ⟨x, r, rfl, hx, hr⟩ := List.map_eq_cons_iff.mp hkinds
    obtain ⟨y, r, rfl, hy, hr⟩ := List.map_eq_cons_iff.mp hr
    obtain rfl := List.map_eq_nil_iff.mp hr
    obtain ⟨y', r, rfl, hy', hr⟩ := List.map_eq_cons_iff.mp hkinds'
    obtain ⟨x', r, rfl, hx', hr⟩ := List.map_eq_cons_iff.mp hr
    obtain rfl := List.map_eq_nil_iff.mp hr
    have hscalar : x'.unplaced = x.unplaced :=
      unplaced_of_dayKinds hx' hx nofun
    have hobject : y'.unplaced = y.unplaced :=
      unplaced_of_dayKinds hy' hy nofun
    show [y'.unplaced, x'.unplaced].Perm [x.unplaced, y.unplaced]
    rw [hscalar, hobject]
    exact .swap _ _ []
  exact ⟨d, d', s, ha, hb, hsame, hplain, hs, declaration_of_rearranged ha hb hsame hplain hs⟩

end QueryTypings.Declaration
