/-
  A document that was accepted has a declaration.

  1. **Promises** — a document without issues keeps all that its declaration relies on, if none of
     its fields describes the schema (`guaranteed_of_issues`).  Its selections can be made, since the
     rules know the fields of the type at every place; its fragments do not go round in circles; and
     fields that share a key in an object bear one name, since they were compared.

  2. **Declarations** — so there is a declaration for every document that was accepted against a
     schema that was read (`exists_declaration_of_accepted`).
-/
import QueryTypings.Proofs.Check.Meeting
import QueryTypings.Proofs.Exported.Decoding

namespace QueryTypings.Declaration

open QueryTypings.Graphql QueryTypings.Schema QueryTypings.Shape QueryTypings.Typescript
  QueryTypings.Execution QueryTypings.Check QueryTypings.Exported

variable {s : Schema} {d : Document} {T : NamedType}

/-! ## Promises -/

section Checked

variable (hs : Consistent s) (hstring : ∃ t, s.type? "String" = some t ∧ t.isLeaf = true)
  (hplaces : (d.flatMap Definition.marks).Nodup) (hplain : WithoutIntrospection (fieldNamesOf d))
  (h : (Inquiry.mk s d).issues = [])

include h in
/-- The fragments of a document without issues bear different names, and those that are spread in
    them are there. -/
theorem regular_of_issues :
    Regular (fun k => ((Inquiry.mk s d).fragment? k).isSome) d :=
  regular_of_issuesFrom (Regular.nil _) (issuesFrom_eq_nil h)

include hs hstring h

theorem grounded_of_issues : Grounded ⟨s, d⟩ (.of ⟨s, d⟩) where
  consistent := hs
  string := hstring
  vocabulary := vocabulary_of_issues h

/-- The selections of a set without issues can be made if the fragments of the document are known. -/
theorem selectable_of_issues {p : Place} {P : NamedType} {ss : List Selection}
    (hss : Flawless ⟨s, d⟩ (.of ⟨s, d⟩) p P ss) :
    ∀ x ∈ ss, Selectable s (· ∈ fragmentNames d) P x := by
  have hg := grounded_of_issues hs hstring h
  intro x hx
  refine (selectable_of_flawless hg ss hss x hx).imp ?_
  intro k hk
  exact List.mem_map.mpr (exists_of_fragment? hk)

include hplaces hplain

/-- In a selection set of the document no key is ambiguous for an object that belongs to its
    type. -/
theorem unambiguous_of_issues {x : SelectionSet}
    (hx : x ∈ d.flatMap (setsInDefinition ⟨s, d⟩)) {P : NamedType} (hparent : x.parent = some P)
    (hP : P ∈ s.types) (hT : T ∈ s.types) (hbelongs : T.Belongs P) (scalars : ScalarTypes) :
    Unambiguous (settingOf s scalars d) T x.selections := by
  have hg := grounded_of_issues hs hstring h
  have hsets := setsOf_of_issues hg h hplain hplaces
  obtain ⟨S, hmerged⟩ := exists_merged_of_issues hg h hplain hplaces
  have hparents : ∀ y ∈ d.flatMap (setsInDefinition ⟨s, d⟩), ∃ P, y.parent = some P := by
    intro y hy
    obtain ⟨p, P, hP, -⟩ := (sound_of_mem_sets hg h hplain y hy).place
    exact ⟨P, hP⟩
  -- at first the selections come from this set alone
  have hgathered : Gathered ⟨s, d⟩ S (d.flatMap (setsInDefinition ⟨s, d⟩)) (· = x) T
      x.selections := by
    refine ⟨?_, ?_, ?_⟩
    · rintro y rfl
      exact ⟨hx, P, hP, hbelongs, hparent⟩
    · rintro y z rfl rfl
      exact (hmerged.within _ hx).together
    · intro t ht
      exact ⟨x, rfl, ht⟩
  exact hgathered.unambiguous hsets hmerged (regular_of_issues h).fragments hs hparents hT scalars

theorem unambiguous_of_mem_operations {o : Operation} (ho : o ∈ d.operations) {root : NamedType}
    (hroot : (s.root? o.kind).bind s.type? = some root) (scalars : ScalarTypes) :
    Unambiguous (settingOf s scalars d) root o.selections := by
  have hg := grounded_of_issues hs hstring h
  obtain ⟨root', hroot', hss, -⟩ := flawless_of_mem_operations hg h hplain ho
  obtain rfl := Option.some.inj (hroot.symm.trans hroot')
  obtain ⟨y, hy, hdefinition⟩ := List.mem_filterMap.mp ho
  have hmem : ⟨some root, o.opening, o.selections⟩ ∈ d.flatMap (setsInDefinition ⟨s, d⟩) := by
    refine List.mem_flatMap.mpr ⟨y, hy, ?_⟩
    cases y <;> cases hdefinition
    rw [setsInDefinition, hss.parent]
    exact List.mem_cons_self
  exact unambiguous_of_issues hs hstring hplaces hplain h hmem rfl hss.mem hss.mem (.refl _) scalars

theorem unambiguous_of_mem_fragments {f : Fragment} (hf : f ∈ d.fragments) {t : NamedType}
    (ht : s.type? f.condition.text = some t) (hT : T ∈ objectsOf s t) (scalars : ScalarTypes) :
    Unambiguous (settingOf s scalars d) T f.selections := by
  have hg := grounded_of_issues hs hstring h
  have hmem := (setsOf_of_issues hg h hplain hplaces).fragments f hf
  have htypes := (mem_types_of_type? ht).1
  obtain ⟨hTmem, -, hbelongs⟩ := hs.of_objectsOf htypes hT
  exact unambiguous_of_issues hs hstring hplaces hplain h hmem ht htypes hTmem hbelongs scalars

/-- **A document without issues keeps its promises**, if no field in it describes the schema. -/
theorem guaranteed_of_issues : Guaranteed s d := by
  have hg := grounded_of_issues hs hstring h
  have hregular := regular_of_issues h
  have hoperation : ∀ p ∈ d.namedOperations, p.2 ∈ d.operations := by
    intro p hp
    exact (mem_namedOperations_iff.mp hp).1
  refine ⟨?roots, ?inputs, ?conditions, hregular.fragments, ?acyclic, ?sameInOperations,
    ?sameInFragments⟩
  case roots =>
    intro p hp
    obtain ⟨root, hroot, hss, -⟩ := flawless_of_mem_operations hg h hplain (hoperation p hp)
    exact ⟨root, hroot, selectable_of_issues hs hstring h hss⟩
  case inputs =>
    intro p hp v hv
    obtain ⟨before, hissues⟩ := operation_of_issuesFrom (issuesFrom_eq_nil h) (hoperation p hp)
    exact input_of_operationIssues hg hissues hv
  case conditions =>
    intro f hf
    obtain ⟨t, ht, hcomposite, hss, -⟩ := flawless_of_mem_fragments hg h hplain hf
    exact ⟨t, ht, hcomposite, selectable_of_issues hs hstring h hss⟩
  case acyclic =>
    have hpositions := nodup_fragmentPositions hplaces
    refine acyclic_of_circles (q := ⟨s, d⟩) hregular.fragments hpositions hregular.inFragments ?_
    intro f hf
    obtain ⟨before, hissues⟩ := fragment_of_issuesFrom (issuesFrom_eq_nil h) hf
    simp only [fragmentIssues, List.append_eq_nil_iff] at hissues
    exact hissues.1.1.1.1.1.2
  case sameInOperations =>
    intro p hp root hroot scalars
    exact unambiguous_of_mem_operations hs hstring hplaces hplain h (hoperation p hp) hroot scalars
  case sameInFragments =>
    intro f hf t ht T hT scalars
    exact unambiguous_of_mem_fragments hs hstring hplaces hplain h hf ht hT scalars

end Checked

/-! ## Declarations -/

/-- **A document that was accepted has a declaration**, whatever record of scalars it is written
    with.  The schema was read from a text, and no field of the document describes it. -/
theorem exists_declaration_of_accepted {schemaText source : String}
    (hs : Schema.ofText schemaText = .ok s) (hd : accepted s source = .ok d)
    (hplain : WithoutIntrospection (fieldNamesOf d)) (scalars : ScalarTypes) :
    ∃ text, (documentStatements s scalars d).map statementsText = .ok text := by
  obtain ⟨statements, hstatements⟩ : ∃ ss, documentStatements s scalars d = .ok ss := by
    rcases issues_eq_nil_of_accepted hd with rfl | hissues
    · exact ⟨_, rfl⟩
    · rcases ofText_of_accepted hd with rfl | hread
      · exact ⟨_, rfl⟩
      · have hconsistent := consistent_ofText hs
        have hguaranteed := guaranteed_of_issues hconsistent (string_ofText hs)
          (nodup_marks hread) hplain hissues
        exact exists_documentStatements hconsistent hguaranteed
  exact ⟨_, by rw [hstatements]; rfl⟩

/-- A schema in which an object narrows the field of its interface. -/
def narrowedText : String :=
  "type Query\x7bn:N\x7dinterface N\x7bn:N\x7dtype A implements N\x7bn:A a:Int\x7d"

/-- A query whose fields are checked against the interface and looked up in the object. -/
def narrowedQuery : String := "query Q\x7bn\x7bn\x7b__typename\x7d...on A\x7bn\x7ba\x7d\x7d\x7d\x7d"

/-- The query has no issues, and none of its fields describes the schema. -/
theorem narrowedQuery_facts :
    (Schema.ofText narrowedText).toOption.bind (fun s =>
      (Document.ofText narrowedQuery).toOption.map fun d =>
        ((Inquiry.mk s d).issues.isEmpty, decide (WithoutIntrospection (fieldNamesOf d))))
      = some (true, true) := by
  decide +kernel

/-- So this query has a declaration. -/
theorem exists_declaration_of_accepted_narrowed :
    ∃ s d text, Schema.ofText narrowedText = .ok s ∧ accepted s narrowedQuery = .ok d
      ∧ WithoutIntrospection (fieldNamesOf d)
      ∧ (documentStatements s [] d).map statementsText = .ok text := by
  have hfacts := narrowedQuery_facts
  cases hs : Schema.ofText narrowedText with
  | error e =>
      rw [hs] at hfacts
      cases hfacts
  | ok s =>
      cases hd : Document.ofText narrowedQuery with
      | error e =>
          rw [hs, hd] at hfacts
          cases hfacts
      | ok d =>
          rw [hs, hd] at hfacts
          obtain ⟨hissues, hplain⟩ := Prod.mk.inj (Option.some.inj hfacts)
          have haccepted := accepted_of_issues (s := s) (by decide +kernel) hd
            (List.isEmpty_iff.mp hissues)
          have hplain := of_decide_eq_true hplain
          obtain ⟨text, htext⟩ := exists_declaration_of_accepted hs haccepted hplain []
          exact ⟨s, d, text, rfl, haccepted, hplain, htext⟩

end QueryTypings.Declaration
