/-
  The selection sets of a document.

  1. **Places** — the sets of a document begin where its text has them, so no two of them begin at
     one place (`nodup_openings`).

  2. **Flaws** — every set of a document without issues is without issues itself, and no conflict was
     found for it (`sound_of_mem_sets`).

  3. **Descent** — what is selected of a field in a set is a set of the document again, whether its
     type is looked up where the field stands or through the field (`mem_sets_of_own`).  So all that
     is compared are sets of the document (`setsOf_of_issues`), and nothing has to be taken on trust
     where they were compared without conflicts (`exists_merged_of_issues`).
-/
import QueryTypings.Proofs.Check.Comparing
import QueryTypings.Proofs.Check.Selectable

namespace QueryTypings.Check

open QueryTypings.Graphql QueryTypings.Schema

variable {q : Inquiry} {found : Findings}

/-! ## Places -/

mutual

theorem openings_setsInSelection (p : Place) : ∀ x : Selection,
    (setsInSelection q p x).map SelectionSet.opening = Reader.openingsOf x
  | .leaf _ => rfl
  | .branch f o ss => by
      rw [setsInSelection, List.map_cons, openings_setsInSelections, Reader.openingsOf]
  | .inline _ _ _ _ ss => by
      rw [setsInSelection, openings_setsInSelections, Reader.openingsOf]
  | .spread _ _ _ => rfl

theorem openings_setsInSelections (p : Place) : ∀ ss : List Selection,
    (setsInSelections q p ss).map SelectionSet.opening = Reader.openingsIn ss
  | [] => rfl
  | x :: r => by
      rw [setsInSelections, List.map_append, openings_setsInSelection, openings_setsInSelections,
        Reader.openingsIn]

end

theorem openings_sublist_marks (x : Definition) :
    ((setsInDefinition q x).map SelectionSet.opening).Sublist x.marks := by
  cases x with
  | operation o =>
      rw [setsInDefinition, List.map_cons, openings_setsInSelections]
      exact List.Sublist.refl _
  | fragment f =>
      rw [setsInDefinition, List.map_cons, openings_setsInSelections]
      exact List.sublist_cons_self _ _
  | schema | type | directive | directiveExtension => exact List.Sublist.refl _

/-- **No two selection sets begin at one place**, if the places of a document are different. -/
theorem nodup_openings {d : Document} (h : (d.flatMap Definition.marks).Nodup) :
    ((d.flatMap (setsInDefinition q)).map SelectionSet.opening).Nodup := by
  refine h.sublist ?_
  clear h
  induction d with
  | nil => exact .slnil
  | cons x r ih =>
      rw [List.flatMap_cons, List.flatMap_cons, List.map_append]
      exact (openings_sublist_marks x).append ih

theorem nodup_fragmentPositions {d : Document} (h : (d.flatMap Definition.marks).Nodup) :
    (d.fragments.map Fragment.position).Nodup := by
  refine h.sublist ?_
  clear h
  induction d with
  | nil => exact .slnil
  | cons x r ih =>
      rw [List.flatMap_cons]
      cases x with
      | fragment f => exact List.Sublist.cons_cons _ (ih.trans (List.sublist_append_right _ _))
      | operation | schema | type | directive | directiveExtension =>
          exact ih.trans (List.sublist_append_right _ _)

/-! ## Flaws -/

/-- A selection set without issues, for which no conflict was found and in which all sets belong to
    the given ones. -/
structure Sound (q : Inquiry) (found : Findings) (sets : List SelectionSet) (x : SelectionSet) :
    Prop where
  place : ∃ p P, x.parent = some P ∧ Flawless q found p P x.selections
    ∧ setsInSelections q p x.selections ⊆ sets
  conflicts : foundAt x.opening found.conflicts = []

variable {sets : List SelectionSet}

/-- A set without issues is sound with the sets in it, if these are. -/
theorem forall_sound_cons {p : Place} {P : NamedType} {o : Position} {ss : List Selection}
    (hss : Flawless q found p P ss) (hconflicts : foundAt o found.conflicts = [])
    (hsub : ⟨p.parent, o, ss⟩ :: setsInSelections q p ss ⊆ sets)
    (hinner : setsInSelections q p ss ⊆ sets →
      ∀ x ∈ setsInSelections q p ss, Sound q found sets x) :
    ∀ x ∈ ⟨p.parent, o, ss⟩ :: setsInSelections q p ss, Sound q found sets x := by
  have hbelow : setsInSelections q p ss ⊆ sets := (List.cons_subset.mp hsub).2
  intro x hx
  rcases List.mem_cons.mp hx with rfl | hx
  · exact ⟨⟨p, P, hss.parent, hss, hbelow⟩, hconflicts⟩
  · exact hinner hbelow x hx

mutual

theorem sound_of_mem_head (hg : Grounded q found) : ∀ (s : Selection) {p : Place} {P : NamedType}
    {r : List Selection}, Flawless q found p P (s :: r) → setsInSelection q p s ⊆ sets →
    ∀ x ∈ setsInSelection q p s, Sound q found sets x
  | .leaf _, _, _, _, _, _ => fun _ hx => absurd hx List.not_mem_nil
  | .branch f o ss, p, P, r, h, hsub => by
      obtain ⟨d, t, -, -, -, hss, hconflicts⟩ := h.branch hg
      rw [setsInSelection] at hsub ⊢
      exact forall_sound_cons hss hconflicts hsub (sound_of_mem hg ss hss)
  | .inline none _ _ _ ss, _, _, _, h, hsub => sound_of_mem hg ss h.unconditional hsub
  | .inline (some _) _ _ _ ss, _, _, _, h, hsub => by
      obtain ⟨t, -, -, hss⟩ := h.conditional hg
      exact sound_of_mem hg ss hss hsub
  | .spread _ _ _, _, _, _, _, _ => fun _ hx => absurd hx List.not_mem_nil

theorem sound_of_mem (hg : Grounded q found) : ∀ (ss : List Selection) {p : Place}
    {P : NamedType}, Flawless q found p P ss → setsInSelections q p ss ⊆ sets →
    ∀ x ∈ setsInSelections q p ss, Sound q found sets x
  | [], _, _, _, _ => fun _ hx => absurd hx List.not_mem_nil
  | s :: r, _, _, h, hsub => by
      rw [setsInSelections] at hsub ⊢
      obtain ⟨hs, hr⟩ := List.append_subset.mp hsub
      exact List.forall_mem_append.mpr ⟨sound_of_mem_head hg s h hs, sound_of_mem hg r h.tail hr⟩

end

section Documents

variable (hg : Grounded q (Findings.of q)) (hissues : q.issues = [])
  (hplain : WithoutIntrospection (fieldNamesOf q.document))

include hg hissues hplain

theorem flawless_of_mem_operations {o : Operation} (ho : o ∈ q.document.operations) :
    ∃ root, (q.schema.root? o.kind).bind q.schema.type? = some root
      ∧ Flawless q (.of q) (.ofOperation q o) root o.selections
      ∧ foundAt o.opening (Findings.of q).conflicts = [] := by
  obtain ⟨before, h⟩ := operation_of_issuesFrom (issuesFrom_eq_nil hissues) ho
  have hnames : WithoutIntrospection (namesIn o.selections) := by
    refine hplain.of_subset ?_
    intro n hn
    exact List.mem_append_left _ (List.mem_flatMap.mpr ⟨o, ho, hn⟩)
  obtain ⟨root, hroot, hss⟩ := flawless_of_operationIssues hg hnames h
  simp only [operationIssues, List.append_eq_nil_iff] at h
  exact ⟨root, hroot, hss, by simp only [h]⟩

theorem flawless_of_mem_fragments {f : Fragment} (hf : f ∈ q.document.fragments) :
    ∃ t, q.schema.type? f.condition.text = some t ∧ t.isComposite = true
      ∧ Flawless q (.of q) (.ofFragment q f) t f.selections
      ∧ foundAt f.opening (Findings.of q).conflicts = [] := by
  obtain ⟨before, h⟩ := fragment_of_issuesFrom (issuesFrom_eq_nil hissues) hf
  have hnames : WithoutIntrospection (namesIn f.selections) := by
    refine hplain.of_subset ?_
    intro n hn
    exact List.mem_append_right _ (List.mem_flatMap.mpr ⟨f, hf, hn⟩)
  obtain ⟨t, ht, hcomposite, hss⟩ := flawless_of_fragmentIssues hg hnames h
  simp only [fragmentIssues, List.append_eq_nil_iff] at h
  exact ⟨t, ht, hcomposite, hss, by simp only [h]⟩

/-- **No selection set of a document without issues has any**, if no field in it describes the
    schema. -/
theorem sound_of_mem_sets : ∀ x ∈ q.document.flatMap (setsInDefinition q),
    Sound q (.of q) (q.document.flatMap (setsInDefinition q)) x := by
  intro x hx
  obtain ⟨y, hy, hxy⟩ := List.mem_flatMap.mp hx
  have hsub : setsInDefinition q y ⊆ q.document.flatMap (setsInDefinition q) := by
    intro z hz
    exact List.mem_flatMap.mpr ⟨y, hy, hz⟩
  cases y with
  | operation o =>
      have ho : o ∈ q.document.operations := List.mem_filterMap.mpr ⟨_, hy, rfl⟩
      obtain ⟨root, -, hss, hconflicts⟩ := flawless_of_mem_operations hg hissues hplain ho
      rw [setsInDefinition] at hxy hsub
      exact forall_sound_cons hss hconflicts hsub (sound_of_mem hg o.selections hss) x hxy
  | fragment f =>
      have hf : f ∈ q.document.fragments := List.mem_filterMap.mpr ⟨_, hy, rfl⟩
      obtain ⟨t, -, -, hss, hconflicts⟩ := flawless_of_mem_fragments hg hissues hplain hf
      rw [setsInDefinition] at hxy hsub
      exact forall_sound_cons hss hconflicts hsub (sound_of_mem hg f.selections hss) x hxy
  | schema | type | directive | directiveExtension => cases hxy

end Documents

/-! ## Descent -/

mutual

theorem mem_sets_of_own_head (hg : Grounded q found) : ∀ (s : Selection) {p : Place}
    {P : NamedType} {r : List Selection}, Flawless q found p P (s :: r) →
    ∀ a ∈ fieldsOfSelection q (some P) s, ∀ y, a.selectionSet? q = some y →
      y ∈ setsInSelection q p s
  | .leaf f, _, _, _, _, a, ha, y, hy => by
      obtain rfl := List.mem_singleton.mp ha
      cases hy
  | .branch f o ss, p, P, r, h, a, ha, y, hy => by
      obtain ⟨d, t, hd, ht, -, hss, -⟩ := h.branch hg
      obtain rfl := List.mem_singleton.mp ha
      have htype : (ownField? (some P) f).bind (fun d => q.schema.baseType? d.type) = some t := by
        rw [ownField?, Option.bind_some, hd, Option.bind_some, ht]
      obtain rfl : ⟨(ownField? (some P) f).bind fun d => q.schema.baseType? d.type, o, ss⟩ = y :=
        Option.some.inj hy
      rw [htype, setsInSelection, hss.parent]
      exact List.mem_cons_self
  | .inline none _ _ _ ss, _, _, _, h, a, ha, y, hy =>
      mem_sets_of_own hg ss h.unconditional a ha y hy
  | .inline (some n) _ _ _ ss, p, P, r, h, a, ha, y, hy => by
      obtain ⟨t, ht, -, hss⟩ := h.conditional hg
      rw [fieldsOfSelection, ht] at ha
      exact mem_sets_of_own hg ss hss a ha y hy
  | .spread _ _ _, _, _, _, _, a, ha, _, _ => absurd ha List.not_mem_nil

theorem mem_sets_of_own (hg : Grounded q found) : ∀ (ss : List Selection) {p : Place}
    {P : NamedType}, Flawless q found p P ss → ∀ a ∈ fieldsOfSelections q (some P) ss,
    ∀ y, a.selectionSet? q = some y → y ∈ setsInSelections q p ss
  | [], _, _, _, a, ha, _, _ => absurd ha List.not_mem_nil
  | s :: r, p, P, h, a, ha, y, hy => by
      rw [fieldsOfSelections] at ha
      rw [setsInSelections]
      rcases List.mem_append.mp ha with ha | ha
      · exact List.mem_append_left _ (mem_sets_of_own_head hg s h a ha y hy)
      · exact List.mem_append_right _ (mem_sets_of_own hg r h.tail a ha y hy)

end

section Documents

variable (hg : Grounded q (Findings.of q)) (hissues : q.issues = [])
  (hplain : WithoutIntrospection (fieldNamesOf q.document))

include hg hissues hplain

/-- What is compared in a document without issues are its selection sets. -/
theorem setsOf_of_issues (hplaces : (q.document.flatMap Definition.marks).Nodup) :
    SetsOf q (q.document.flatMap (setsInDefinition q)) where
  apart := nodup_openings hplaces
  below := by
    intro x hx a ha y hy
    obtain ⟨p, P, hparent, hss, hsub⟩ := (sound_of_mem_sets hg hissues hplain x hx).place
    rw [SelectionSet.own, hparent] at ha
    exact hsub (mem_sets_of_own hg x.selections hss a ha y hy)
  fragments := by
    intro f hf
    obtain ⟨t, ht, -, hss, -⟩ := flawless_of_mem_fragments hg hissues hplain hf
    obtain ⟨y, hy, hfragment⟩ := List.mem_filterMap.mp hf
    refine List.mem_flatMap.mpr ⟨y, hy, ?_⟩
    cases y <;> cases hfragment
    rw [setsInDefinition, hss.parent, ofFragment, ht]
    exact List.mem_cons_self

/-- **All sets of a document without issues were compared**, and none has a conflict. -/
theorem exists_merged_of_issues (hplaces : (q.document.flatMap Definition.marks).Nodup) :
    ∃ S, Merged q (q.document.flatMap (setsInDefinition q)) S := by
  apply exists_merged_of_setConflicts (setsOf_of_issues hg hissues hplain hplaces)
  intro x hx
  exact (sound_of_mem_sets hg hissues hplain x hx).conflicts

end Documents

end QueryTypings.Check
