/-
  What is selected in a document without issues can be selected.

  1. **Fields** — the names of all fields in a document (`fieldNamesOf`).  Those that describe the
     schema are no fields of a type, and are left out here.

  2. **Selections** — a selection without issues can be made of values of the type at its place
     (`selectable_of_flawless`).  The rules look fields up by `selectableField?`; besides the fields
     of the type it knows `__typename`, which has no selection set since names are leaves.

  3. **Definitions** — every definition of a document without issues has none
     (`exists_before_of_issuesFrom`).  So the root of each operation, the type of each variable and
     the condition of each fragment are there, and what is selected of them has no issues
     (`flawless_of_operationIssues`, `flawless_of_fragmentIssues`).
-/
import QueryTypings.Proofs.Check.Accepted
import QueryTypings.Proofs.Declaration.Totality

namespace QueryTypings.Check

open QueryTypings.Graphql QueryTypings.Schema QueryTypings.Declaration

/-! ## Fields -/

mutual

/-- The names of the fields in a selection, at any depth. -/
def namesOf : Selection → List String
  | .leaf f => [f.name.text]
  | .branch f _ ss => f.name.text :: namesIn ss
  | .inline _ _ _ _ ss => namesIn ss
  | .spread _ _ _ => []

/-- The names of the fields in selections, at any depth. -/
def namesIn : List Selection → List String
  | [] => []
  | s :: r => namesOf s ++ namesIn r

end

/-- The names of the fields in a document. -/
def fieldNamesOf (d : Document) : List String :=
  d.operations.flatMap (fun o => namesIn o.selections)
    ++ d.fragments.flatMap fun f => namesIn f.selections

/-- None of the names is that of a field that describes the schema. -/
def WithoutIntrospection (names : List String) : Prop :=
  schemaField.name ∉ names ∧ typeField.name ∉ names

instance (names : List String) : Decidable (WithoutIntrospection names) :=
  inferInstanceAs (Decidable (_ ∧ _))

theorem WithoutIntrospection.of_subset {names names' : List String}
    (h : WithoutIntrospection names') (hsub : names ⊆ names') : WithoutIntrospection names :=
  ⟨fun hmem => h.1 (hsub hmem), fun hmem => h.2 (hsub hmem)⟩

/-! ## Selections -/

variable {q : Inquiry} {found : Findings} {p : Place} {P : NamedType}

/-- The document is held against a schema whose promises hold, and names only types of the
    schema. -/
structure Grounded (q : Inquiry) (found : Findings) : Prop where
  consistent : Consistent q.schema
  string : ∃ t, q.schema.type? "String" = some t ∧ t.isLeaf = true
  vocabulary : found.vocabulary.types = q.schema.types.map NamedType.name

/-- The fields of a type, besides the one that names it. -/
theorem selectableField?_of_ne {s : Schema} {name : String} (hschema : name ≠ schemaField.name)
    (htype : name ≠ typeField.name) (htypename : name ≠ typenameField.name) :
    selectableField? s P name = P.field? name := by
  rw [selectableField?, if_neg hschema, if_neg htype, if_neg htypename]

/-- A field without issues is `__typename`, without a selection set, or it is one of the type's own:
    it has a selection set if its type is composite and none if it is a leaf. -/
theorem field_of_issues (hg : Grounded q found) (hp : p.parent = some P)
    (hP : P ∈ q.schema.types) {f : FieldHead} {selected : Option (Position × List Selection)}
    (hplain : f.name.text ≠ schemaField.name ∧ f.name.text ≠ typeField.name)
    (h : fieldIssues ⟨q, found⟩ p f selected = []) :
    (f.name.text = "__typename" ∧ selected = none)
      ∨ ∃ d t, P.field? f.name.text = some d ∧ p.field? q f = some d
        ∧ q.schema.baseType? d.type = some t
        ∧ if selected.isSome then t.isComposite = true else t.isLeaf = true := by
  simp only [fieldIssues, List.append_eq_nil_iff] at h
  obtain ⟨⟨⟨⟨⟨⟨hset, hunknown⟩, -⟩, -⟩, -⟩, -⟩, -⟩ := h
  have hplace : p.field? q f = selectableField? q.schema P f.name.text := by
    rw [Place.field?, hp]
    rfl
  simp only [unknownFieldIssues, hp] at hunknown
  by_cases htypename : f.name.text = typenameField.name
  · refine Or.inl ⟨htypename, ?_⟩
    obtain ⟨t, ht, hleaf⟩ := hg.string
    have hfield : p.field? q f = some typenameField := by
      rw [hplace, selectableField?, if_neg hplain.1, if_neg hplain.2, if_pos htypename]
    have hbase : q.schema.baseType? typenameField.type = some t := ht
    rw [selectionSetIssues, hfield] at hset
    cases selected with
    | none => rfl
    | some x => simp [hbase, hleaf] at hset
  · rw [selectableField?_of_ne hplain.1 hplain.2 htypename] at hplace hunknown
    cases hd : P.field? f.name.text with
    | none => simp [hd] at hunknown
    | some d =>
        obtain ⟨t, ht, houtput⟩ := hg.consistent.outputs P hP d (mem_fields_of_field? hd).1
        refine Or.inr ⟨d, t, rfl, hplace.trans hd, ht, ?_⟩
        simp only [selectionSetIssues, hplace, hd, ht] at hset
        cases selected with
        | none => simpa using hset
        | some x =>
            have hleaf : t.isLeaf = false := by simpa using hset
            rwa [NamedType.isOutput, hleaf, Bool.false_or] at houtput

theorem exists_type_of_unknownType? (hg : Grounded q found) {n : Name}
    (h : found.vocabulary.unknownType? false n = []) : ∃ t, q.schema.type? n.text = some t := by
  rw [Vocabulary.unknownType?, Bool.false_and, Bool.or_false, hg.vocabulary] at h
  split at h
  · rename_i hmem
    obtain ⟨t, ht, hname⟩ := List.mem_map.mp (List.contains_iff_mem.mp hmem)
    have hfound : (q.schema.type? n.text).isSome :=
      List.find?_isSome.mpr ⟨t, ht, beq_iff_eq.mpr hname⟩
    exact Option.isSome_iff_exists.mp hfound
  · cases h

/-- A condition without issues names a composite type. -/
theorem composite_of_condition (hg : Grounded q found) {fragment : Option String} {n : Name}
    (hknown : found.vocabulary.unknownType? false n = [])
    (hcondition : conditionIssues q fragment n = []) :
    ∃ t, q.schema.type? n.text = some t ∧ t.isComposite = true ∧ q.composite? n.text = some t := by
  obtain ⟨t, ht⟩ := exists_type_of_unknownType? hg hknown
  have hcomposite : t.isComposite = true := by simpa [conditionIssues, ht] using hcondition
  refine ⟨t, ht, hcomposite, ?_⟩
  rw [Inquiry.composite?, ht, Option.filter_some, if_pos hcomposite]

/-- Selections without issues, at a place of a given type; none of the fields in them describes the
    schema. -/
structure Flawless (q : Inquiry) (found : Findings) (p : Place) (P : NamedType)
    (ss : List Selection) : Prop where
  parent : p.parent = some P
  mem : P ∈ q.schema.types
  plain : WithoutIntrospection (namesIn ss)
  issues : selectionsIssues ⟨q, found⟩ p ss = []

theorem Flawless.head {x : Selection} {r : List Selection} (h : Flawless q found p P (x :: r)) :
    WithoutIntrospection (namesOf x) ∧ selectionIssues ⟨q, found⟩ p x = [] := by
  obtain ⟨-, -, hplain, hissues⟩ := h
  rw [selectionsIssues, List.append_eq_nil_iff] at hissues
  exact ⟨hplain.of_subset (List.subset_append_left _ _), hissues.1⟩

theorem Flawless.tail {x : Selection} {r : List Selection} (h : Flawless q found p P (x :: r)) :
    Flawless q found p P r := by
  obtain ⟨hp, hP, hplain, hissues⟩ := h
  rw [selectionsIssues, List.append_eq_nil_iff] at hissues
  exact ⟨hp, hP, hplain.of_subset (List.subset_append_right _ _), hissues.2⟩

/-- Below a field without issues. -/
theorem Flawless.branch (hg : Grounded q found) {f : FieldHead} {o : Position}
    {ss r : List Selection} (h : Flawless q found p P (.branch f o ss :: r)) :
    ∃ d t, P.field? f.name.text = some d ∧ q.schema.baseType? d.type = some t
      ∧ t.isComposite = true ∧ Flawless q found (p.ofField q f) t ss
      ∧ foundAt o found.conflicts = [] := by
  obtain ⟨hplain, hissues⟩ := h.head
  rw [selectionIssues, List.append_eq_nil_iff, List.append_eq_nil_iff,
    List.append_eq_nil_iff] at hissues
  have hnames : f.name.text ≠ schemaField.name ∧ f.name.text ≠ typeField.name :=
    ⟨fun heq => hplain.1 (heq ▸ List.mem_cons_self),
      fun heq => hplain.2 (heq ▸ List.mem_cons_self)⟩
  rcases field_of_issues hg h.parent h.mem hnames hissues.1.1.1 with
    ⟨-, hnone⟩ | ⟨d, t, hd, hfield, ht, hcomposite⟩
  · cases hnone
  · have hcomposite : t.isComposite = true := by simpa using hcomposite
    have htype : q.schema.type? d.type.base = some t := ht
    -- the type at the place below is that of the field
    have hplace : (p.ofField q f).parent = some t := by
      show (p.field? q f).bind _ = _
      rw [hfield, Option.bind_some, Inquiry.composite?, htype, Option.filter_some,
        if_pos hcomposite]
    have hbelow : WithoutIntrospection (namesIn ss) :=
      hplain.of_subset (List.subset_cons_self _ _)
    exact ⟨d, t, hd, ht, hcomposite, ⟨hplace, (mem_types_of_type? htype).1, hbelow, hissues.1.2⟩,
      hissues.1.1.2⟩

/-- Inside an inline fragment without issues that has no condition. -/
theorem Flawless.unconditional {ds : List Directive} {position o : Position}
    {ss r : List Selection} (h : Flawless q found p P (.inline none ds position o ss :: r)) :
    Flawless q found p P ss := by
  obtain ⟨hplain, hissues⟩ := h.head
  rw [selectionIssues, List.append_eq_nil_iff] at hissues
  exact ⟨h.parent, h.mem, hplain, hissues.2⟩

/-- Inside an inline fragment without issues that has a condition. -/
theorem Flawless.conditional (hg : Grounded q found) {n : Name} {ds : List Directive}
    {position o : Position} {ss r : List Selection}
    (h : Flawless q found p P (.inline (some n) ds position o ss :: r)) :
    ∃ t, q.schema.type? n.text = some t ∧ t.isComposite = true
      ∧ Flawless q found (p.ofCondition q (some n)) t ss := by
  obtain ⟨hplain, hissues⟩ := h.head
  rw [selectionIssues, List.append_eq_nil_iff] at hissues
  obtain ⟨hhead, hss⟩ := hissues
  simp only [inlineIssues, List.append_eq_nil_iff] at hhead
  obtain ⟨t, ht, hcomposite, hfound⟩ := composite_of_condition hg hhead.1.2 hhead.1.1.1.1
  exact ⟨t, ht, hcomposite, hfound, (mem_types_of_type? ht).1, hplain, hss⟩

mutual

theorem selectable_of_head (hg : Grounded q found) : ∀ (x : Selection) {p : Place} {P : NamedType}
    {r : List Selection}, Flawless q found p P (x :: r) →
    Selectable q.schema (fun k => (q.fragment? k).isSome) P x
  | .leaf f, p, P, r, h => by
      obtain ⟨hplain, hissues⟩ := h.head
      rw [selectionIssues, List.append_eq_nil_iff] at hissues
      have hnames : f.name.text ≠ schemaField.name ∧ f.name.text ≠ typeField.name :=
        ⟨fun heq => hplain.1 (heq ▸ List.mem_cons_self),
          fun heq => hplain.2 (heq ▸ List.mem_cons_self)⟩
      rcases field_of_issues hg h.parent h.mem hnames hissues.1 with
        ⟨hname, -⟩ | ⟨d, t, hd, -, ht, hleaf⟩
      · exact .typename hname
      · exact .leaf hd ht hleaf
  | .branch f o ss, p, P, r, h => by
      obtain ⟨d, t, hd, ht, hcomposite, hss, -⟩ := h.branch hg
      exact .branch hd ht hcomposite (selectable_of_flawless hg ss hss)
  | .inline none ds position o ss, p, P, r, h =>
      .unconditional (selectable_of_flawless hg ss h.unconditional)
  | .inline (some n) ds position o ss, p, P, r, h => by
      obtain ⟨t, ht, hcomposite, hss⟩ := h.conditional hg
      exact .conditional ht hcomposite (selectable_of_flawless hg ss hss)
  | .spread n ds position, p, P, r, h => .spread (fragment?_of_spreads (.here rfl) h.head.2)

/-- **Selections without issues can be made** of values of the type at their place. -/
theorem selectable_of_flawless (hg : Grounded q found) : ∀ (ss : List Selection) {p : Place}
    {P : NamedType}, Flawless q found p P ss →
    ∀ x ∈ ss, Selectable q.schema (fun k => (q.fragment? k).isSome) P x
  | [], _, _, _ => fun _ hx => absurd hx List.not_mem_nil
  | x :: r, _, _, h =>
      List.forall_mem_cons.mpr ⟨selectable_of_head hg x h, selectable_of_flawless hg r h.tail⟩

end

/-! ## Definitions -/

/-- Every definition of a document without issues has none. -/
theorem exists_before_of_issuesFrom {rest before : Document}
    (h : issuesFrom q found before rest = []) {x : Definition} (hx : x ∈ rest) :
    ∃ before', definitionIssuesHere q found before' x = [] := by
  induction rest generalizing before with
  | nil => cases hx
  | cons y r ih =>
      rw [issuesFrom, List.append_eq_nil_iff] at h
      rcases List.mem_cons.mp hx with rfl | hx
      · exact ⟨before, h.1⟩
      · exact ih h.2 hx

theorem operation_of_issuesFrom {before : Document} (h : issuesFrom q found before q.document = [])
    {o : Operation} (ho : o ∈ q.document.operations) :
    ∃ before', operationIssues ⟨q, found⟩ before' o = [] := by
  obtain ⟨x, hx, hsome⟩ := List.mem_filterMap.mp ho
  obtain ⟨before', hissues⟩ := exists_before_of_issuesFrom h hx
  cases x <;> cases hsome
  exact ⟨_, hissues⟩

theorem fragment_of_issuesFrom {before : Document} (h : issuesFrom q found before q.document = [])
    {f : Fragment} (hf : f ∈ q.document.fragments) :
    ∃ before', fragmentIssues ⟨q, found⟩ before' f = [] := by
  obtain ⟨x, hx, hsome⟩ := List.mem_filterMap.mp hf
  obtain ⟨before', hissues⟩ := exists_before_of_issuesFrom h hx
  cases x <;> cases hsome
  exact ⟨_, hissues⟩

/-- A document without issues defines no types. -/
theorem typeDefinitions_eq_nil (h : q.issues = []) : typeDefinitions q.document = [] := by
  rw [Inquiry.issues] at h
  split at h
  · cases h
  · have hnone := List.filterMap_eq_nil_iff.mp
      (List.map_eq_nil_iff.mp (List.append_eq_nil_iff.mp h).1)
    apply List.filterMap_eq_nil_iff.mpr
    intro x hx
    have hexecutable := hnone x hx
    cases x <;> first | rfl | cases hexecutable

/-- So the types that it may name are those of the schema. -/
theorem vocabulary_of_issues (h : q.issues = []) :
    (Findings.of q).vocabulary.types = q.schema.types.map NamedType.name := by
  show q.schema.types.map NamedType.name ++ (typeDefinitions q.document).map _ = _
  rw [typeDefinitions_eq_nil h, List.map_nil, List.append_nil]

/-- **The root of an operation without issues is there.** -/
theorem flawless_of_operationIssues (hg : Grounded q found) {before : List Operation}
    {o : Operation} (hplain : WithoutIntrospection (namesIn o.selections))
    (h : operationIssues ⟨q, found⟩ before o = []) :
    ∃ root, (q.schema.root? o.kind).bind q.schema.type? = some root
      ∧ Flawless q found (.ofOperation q o) root o.selections := by
  simp only [operationIssues, List.append_eq_nil_iff] at h
  have hsupport : supportIssues q o = [] := by simp only [h]
  obtain ⟨n, hn⟩ : ∃ n, q.schema.root? o.kind = some n := by
    cases hroot : q.schema.root? o.kind with
    | none => simp [supportIssues, hroot] at hsupport
    | some n => exact ⟨n, rfl⟩
  obtain ⟨root, hroot, hobject⟩ := hg.consistent.roots o.kind n hn
  have hcomposite : root.isComposite = true := by
    rw [NamedType.isComposite, hobject, Bool.true_or]
  have hplace : (Place.ofOperation q o).parent = some root := by
    show (q.schema.root? o.kind).bind q.composite? = some root
    rw [hn, Option.bind_some, Inquiry.composite?, hroot, Option.filter_some, if_pos hcomposite]
  have hselections : selectionsIssues ⟨q, found⟩ (.ofOperation q o) o.selections = [] := by
    simp only [h]
  refine ⟨root, ?_, hplace, (mem_types_of_type? hroot).1, hplain, hselections⟩
  rw [hn, Option.bind_some, hroot]

/-- **The type to which a fragment without issues applies is there.** -/
theorem flawless_of_fragmentIssues (hg : Grounded q found) {before : List Fragment} {f : Fragment}
    (hplain : WithoutIntrospection (namesIn f.selections))
    (h : fragmentIssues ⟨q, found⟩ before f = []) :
    ∃ t, q.schema.type? f.condition.text = some t ∧ t.isComposite = true
      ∧ Flawless q found (.ofFragment q f) t f.selections := by
  simp only [fragmentIssues, List.append_eq_nil_iff] at h
  have hknown : found.vocabulary.unknownType? false f.condition = [] := by simp only [h]
  have hcondition : conditionIssues q (some f.name.text) f.condition = [] := by simp only [h]
  have hselections : selectionsIssues ⟨q, found⟩ (.ofFragment q f) f.selections = [] := by
    simp only [h]
  obtain ⟨t, ht, hcomposite, hfound⟩ := composite_of_condition hg hknown hcondition
  exact ⟨t, ht, hcomposite, hfound, (mem_types_of_type? ht).1, hplain, hselections⟩

/-- The types of variables are there. -/
theorem input_of_operationIssues (hg : Grounded q found) {before : List Operation} {o : Operation}
    (h : operationIssues ⟨q, found⟩ before o = []) {v : VariableDefinition}
    (hv : v ∈ o.variableDefinitions) : (q.schema.baseType? (.ofNode v.type)).isSome := by
  simp only [operationIssues, List.append_eq_nil_iff] at h
  have hvariables : o.variableDefinitions.flatMap (variableIssues ⟨q, found⟩) = [] := by
    simp only [h]
  have hone := List.flatMap_eq_nil_iff.mp hvariables v hv
  simp only [variableIssues, List.append_eq_nil_iff] at hone
  have hunknown : ∀ t : TypeNode, found.vocabulary.unknownTypes false t = [] →
      (q.schema.baseType? (.ofNode t)).isSome := by
    intro t
    induction t with
    | named n =>
        intro hn
        obtain ⟨t, ht⟩ := exists_type_of_unknownType? hg hn
        exact Option.isSome_iff_exists.mpr ⟨t, ht⟩
    | list t _ ih => exact ih
    | nonNull t ih => exact ih
  exact hunknown v.type hone.1.1.2

end QueryTypings.Check
