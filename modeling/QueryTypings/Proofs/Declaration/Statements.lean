/-
  The statements of the declaration of a document.

  1. **Parts** — a declaration consists of an import, a statement for each fragment, two for each
     operation with a name, and the constants (`documentStatements_eq_ok`).

  2. **Exports** — so it exports a type for each fragment, and two for each operation with a name
     (`localNames`, `exported_documentStatements`).

  3. **Constants** — and a constant for each operation with a name (`constants_documentStatements`).
-/
import QueryTypings.Declaration.Operations
import QueryTypings.Proofs.Exported.SelfContained
import QueryTypings.Proofs.Result

namespace QueryTypings.Declaration

open QueryTypings.Graphql QueryTypings.Schema QueryTypings.Typescript QueryTypings.Check
  QueryTypings.Exported

variable {s : Schema} {scalars : ScalarTypes} {d : Document} {body : List Statement}

/-! ## Parts -/

theorem fragmentStatement_eq_ok {g : Shape.Setting} {f : Fragment} {st : Statement}
    (h : fragmentStatement g f = .ok st) :
    ∃ b, st = .exportType none (fragmentTypeName f.name.text) b := by
  unfold fragmentStatement at h
  split at h
  · cases h
  · obtain ⟨type, _, hst⟩ := ok_of_bind_ok h
    exact ⟨.inline type, (Except.ok.inj hst).symm⟩

theorem operationStatements_eq_ok {g : Shape.Setting} {name : String} {o : Operation}
    {sts : List Statement} (h : operationStatements g name o = .ok sts) :
    ∃ input result, sts = [.exportType none (variablesName name o.kind) input,
      .exportType none (resultName name o.kind) result] := by
  unfold operationStatements at h
  split at h
  · cases h
  · obtain ⟨result, _, h⟩ := ok_of_bind_ok h
    obtain ⟨input, _, hst⟩ := ok_of_bind_ok h
    exact ⟨input, .inline result, (Except.ok.inj hst).symm⟩

/-- The statements of a declaration: an import, those for fragments and operations, and constants. -/
theorem documentStatements_eq_ok (h : documentStatements s scalars d = .ok body) :
    ∃ fragments operations,
      (settingOf s scalars d).fragments.mapM
        (fun p => fragmentStatement (settingOf s scalars d) p.2) = .ok fragments
      ∧ d.namedOperations.mapM
        (fun (n, o) => operationStatements (settingOf s scalars d) n.text o) = .ok operations
      ∧ body = typedDocumentImport :: fragments ++ operations.flatten
        ++ d.namedOperations.map fun (n, o) => documentConstant n.text o.kind := by
  obtain ⟨fragments, hfragments, h⟩ := ok_of_bind_ok h
  obtain ⟨operations, hoperations, hok⟩ := ok_of_bind_ok h
  exact ⟨fragments, operations, hfragments, hoperations, (Except.ok.inj hok).symm⟩

/-! ## Exports -/

/-- The names of the types that the declaration of a document exports. -/
def localNames (d : Document) : List String :=
  (d.fragments.map fun f => fragmentTypeName f.name.text)
    ++ d.namedOperations.flatMap fun p =>
      [variablesName p.1.text p.2.kind, resultName p.1.text p.2.kind]

/-- **The declaration of a document exports the types of its fragments and operations.** -/
theorem exported_documentStatements (hnames : (fragmentNames d).Nodup)
    (h : documentStatements s scalars d = .ok body) :
    body.filterMap Statement.exported? = localNames d := by
  obtain ⟨fragments, operations, hfragments, hoperations, rfl⟩ := documentStatements_eq_ok h
  have hfragments : fragments.filterMap Statement.exported?
      = d.fragments.map fun f => fragmentTypeName f.name.text := by
    have hone : ∀ p ∈ (settingOf s scalars d).fragments, ∀ st,
        fragmentStatement (settingOf s scalars d) p.2 = .ok st →
          st.exported? = some (fragmentTypeName p.2.name.text) := by
      intro p _ st hst
      obtain ⟨b, rfl⟩ := fragmentStatement_eq_ok hst
      rfl
    have hall := map_of_mapM_ok hfragments hone
    have hmap : (settingOf s scalars d).fragments = d.fragments.map fun f => (f.name.text, f) :=
      fragmentMap_eq hnames
    rw [hmap, List.map_map] at hall
    calc fragments.filterMap Statement.exported?
      _ = (fragments.map Statement.exported?).filterMap id := by
          rw [List.filterMap_map]
          rfl
      _ = (d.fragments.map fun f => some (fragmentTypeName f.name.text)).filterMap id :=
          congrArg _ hall
      _ = d.fragments.map fun f => fragmentTypeName f.name.text := by
          rw [List.filterMap_map]
          exact congrFun List.filterMap_eq_map _
  have hoperations : operations.flatten.filterMap Statement.exported?
      = d.namedOperations.flatMap fun p =>
        [variablesName p.1.text p.2.kind, resultName p.1.text p.2.kind] := by
    have hone : ∀ p ∈ d.namedOperations, ∀ sts,
        operationStatements (settingOf s scalars d) p.1.text p.2 = .ok sts →
          sts.filterMap Statement.exported?
            = [variablesName p.1.text p.2.kind, resultName p.1.text p.2.kind] := by
      intro p _ sts hsts
      obtain ⟨input, result, rfl⟩ := operationStatements_eq_ok hsts
      rfl
    rw [List.filterMap_flatten, map_of_mapM_ok hoperations hone, List.flatMap_def]
  have hconstants : (d.namedOperations.map fun (n, o) => documentConstant n.text o.kind).filterMap
      Statement.exported? = [] := by
    rw [List.filterMap_map]
    exact List.filterMap_eq_nil_iff.mpr fun _ _ => rfl
  rw [localNames, ← hfragments, ← hoperations, List.filterMap_append, hconstants, List.append_nil]
  exact List.filterMap_append

/-! ## Constants -/

/-- **The declaration of a document declares the constants of its operations**, each under the name
    of the operation, and no others. -/
theorem constants_documentStatements (h : documentStatements s scalars d = .ok body) :
    body.filterMap Statement.constant? = operationNames d := by
  obtain ⟨fragments, operations, hfragments, hoperations, rfl⟩ := documentStatements_eq_ok h
  have hfragments : fragments.filterMap Statement.constant? = [] := by
    refine List.filterMap_eq_nil_iff.mpr fun st hst => ?_
    obtain ⟨p, _, hstatement⟩ := (exists_of_mapM_ok hfragments).2 st hst
    obtain ⟨b, rfl⟩ := fragmentStatement_eq_ok hstatement
    rfl
  have hoperations : operations.flatten.filterMap Statement.constant? = [] := by
    rw [List.filterMap_flatten, List.flatten_eq_nil_iff]
    refine List.forall_mem_map.mpr fun sts hsts => ?_
    obtain ⟨p, _, hstatements⟩ := (exists_of_mapM_ok hoperations).2 sts hsts
    obtain ⟨input, result, rfl⟩ := operationStatements_eq_ok hstatements
    rfl
  have hconstants : (d.namedOperations.map fun (n, o) => documentConstant n.text o.kind).filterMap
      Statement.constant? = operationNames d := by
    rw [List.filterMap_map]
    exact congrFun List.filterMap_eq_map _
  have himport : typedDocumentImport.constant? = none := rfl
  rw [List.filterMap_append, List.cons_append, List.filterMap_cons_none himport,
    List.filterMap_append, hfragments, hoperations, hconstants]
  rfl

end QueryTypings.Declaration
