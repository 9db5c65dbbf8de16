/-
  Names that a declaration both imports and exports.

  1. **Local names** — a declaration exports types for its fragments and operations (`localNames`),
     and from elsewhere it imports `TypedDocumentNode`.  The text of the statements mentions all of
     these (`mentioned_of_local`).

  2. **Clashes** — so the search for names of the schema's declaration finds each of them that is
     exported there, and it is imported next to the local type of the same name
     (`attempt_clashes`).  Nothing keeps a schema from having such a
     type (`attempt_clashes_result`).
-/
import QueryTypings.Proofs.Declaration.Statements
import QueryTypings.Proofs.Project.Imports

namespace QueryTypings.Declaration

open QueryTypings.Graphql QueryTypings.Schema QueryTypings.Text QueryTypings.Typescript
  QueryTypings.Check QueryTypings.Exported

/-! ## Local names -/

variable {s : Schema} {scalars : ScalarTypes} {d : Document} {body : List Statement}

/-- What exports a type is a plain statement for it. -/
theorem exportType_of_mem (h : documentStatements s scalars d = .ok body) {st : Statement}
    (hst : st ∈ body) {n : String} (hn : st.exported? = some n) :
    ∃ b, st = .exportType none n b := by
  obtain ⟨fragments, operations, hfragments, hoperations, rfl⟩ := documentStatements_eq_ok h
  rcases List.mem_append.mp hst with hst | hst
  · rcases List.mem_cons.mp hst with rfl | hst
    · cases hn
    · rcases List.mem_append.mp hst with hst | hst
      · obtain ⟨p, _, hst⟩ := (exists_of_mapM_ok hfragments).2 st hst
        obtain ⟨b, rfl⟩ := fragmentStatement_eq_ok hst
        obtain rfl := Option.some.inj hn
        exact ⟨b, rfl⟩
      · obtain ⟨sts, hsts, hst⟩ := List.mem_flatten.mp hst
        obtain ⟨p, _, hstatements⟩ := (exists_of_mapM_ok hoperations).2 sts hsts
        obtain ⟨input, result, rfl⟩ := operationStatements_eq_ok hstatements
        rcases List.mem_cons.mp hst with rfl | hst
        · obtain rfl := Option.some.inj hn
          exact ⟨input, rfl⟩
        · obtain rfl := List.mem_singleton.mp hst
          obtain rfl := Option.some.inj hn
          exact ⟨result, rfl⟩
  · obtain ⟨p, _, rfl⟩ := List.mem_map.mp hst
    cases hn

/-- An import mentions the names that it is for. -/
theorem mentioned_of_importTypes {names : List String} {n : String} (hn : n ∈ names)
    (specifier : String) : Mentioned n (Statement.importTypes names specifier).text := by
  have hjoined : Mentioned n (joinWith ", " names) :=
    (mentioned_self n).joinWith hn (by decide) (by decide)
  have hnames : Mentioned n (" " ++ joinWith ", " names ++ " ") :=
    (hjoined.after (by decide)).before (by decide)
  have hopens : Opens "import type \x7b" := by decide
  have hcloses : Closes "\x7d from \"" := by decide
  have hall := ((hnames.after hopens).before_append hcloses specifier).before
    (b := "\";") (by decide)
  cases names with
  | nil => cases hn
  | cons m r => exact hall

/-- A statement that exports a type mentions its name. -/
theorem mentioned_of_exportType (d : Option String) (n : String) (b : Body) :
    Mentioned n (Statement.exportType d n b).text := by
  have hname : Mentioned n (comment "" d ++ "export type " ++ n) :=
    (mentioned_self n).after (.append _ (by decide))
  have hassign : Closes " =" := by decide
  exact (hname.before_append hassign b.text).before (by decide)

/-- **The declaration of a document mentions its local names**, and the type of typed documents. -/
theorem mentioned_of_local (hnames : (fragmentNames d).Nodup)
    (h : documentStatements s scalars d = .ok body) {n : String}
    (hn : n ∈ "TypedDocumentNode" :: localNames d) : Mentioned n (statementsText body) := by
  have hjoined {st : Statement} (hst : st ∈ body) (hmentioned : Mentioned n st.text) :
      Mentioned n (statementsText body) :=
    hmentioned.joinWith (List.mem_map_of_mem hst) (by decide) (by decide)
  rcases List.mem_cons.mp hn with rfl | hn
  · have himport : typedDocumentImport ∈ body := by
      obtain ⟨_, _, _, _, rfl⟩ := documentStatements_eq_ok h
      exact List.mem_cons_self
    exact hjoined himport (mentioned_of_importTypes List.mem_cons_self _)
  · rw [← exported_documentStatements hnames h] at hn
    obtain ⟨st, hst, hexported⟩ := List.mem_filterMap.mp hn
    obtain ⟨b, rfl⟩ := exportType_of_mem h hst hexported
    exact hjoined hst (mentioned_of_exportType none n b)

end QueryTypings.Declaration

namespace QueryTypings.Writer

open QueryTypings.Text QueryTypings.FileTree QueryTypings.Typescript QueryTypings.Schema
  QueryTypings.Declaration QueryTypings.Check

/-! ## Clashes -/

variable {w : Writer} {started world₀ world after : World} {s : Schema}
  {scalars : OrderedMap String} {base virtualDir : Path} {kept : List Path}

/-- **What a declaration imports and exports under one name** are its local names that the schema's
    declaration exports, too, all of them and no others. -/
theorem attempt_clashes (hc : world₀.cwd.IsStart) (hbase : base.IsWritten)
    (hvirtual : virtualDir.IsWritten)
    (hprepare : prepare s scalars base virtualDir kept world₀ = (.ok w, started))
    {setback : Setback} {source : String} {a : Path}
    (hattempt : w.attempt setback world source = (.ok a, after)) :
    ∃ relative text d body specifier imports,
      w.relativeSource world.cwd source = .ok relative
      ∧ sourceText world (w.base.join relative) = .ok text
      ∧ accepted s text = .ok d ∧ documentStatements s scalars d = .ok body
      ∧ after.tree.octets? a.parts = some (encodeUtf8
        ((Statement.importTypes imports specifier).text ++ "\n" ++ statementsText body
          ++ "\nexport\x7b\x7d;\n").toList)
      ∧ body.filterMap Statement.exported? = localNames d
      ∧ ∀ n ∈ "TypedDocumentNode" :: localNames d,
        n ∈ imports ↔ n ∈ exportedTypes (schemaDeclaration s scalars) := by
  obtain ⟨relative, text, d, body, specifier, hrelative, hsource, hd, hbody, hoctets⟩ :=
    attempt_text hc hbase hvirtual hprepare hattempt
  have hnames := (regular_of_accepted hd).fragments
  refine ⟨relative, text, d, body, specifier, _, hrelative, hsource, hd, hbody, hoctets,
    exported_documentStatements hnames hbody, ?_⟩
  intro n hn
  rw [List.mem_filter, mentions_iff]
  constructor
  · rintro ⟨hmem, -⟩
    exact hmem
  · intro hmem
    exact ⟨hmem, mentioned_of_local hnames hbody hn⟩

/-- A schema with a type that is named like the result of an operation `Q`. -/
def resultSchema : Schema :=
  (Schema.ofText "type Query{a:Int}type QQuery{b:Int}").toOption.getD default

/-- The beginning of a small project with this schema. -/
def resultPrepare : Except StartFault Writer × World :=
  prepare resultSchema [] ⟨.root, ["b"]⟩ ⟨.here, [".gql"]⟩ [] (smallWorld "query Q{a}")

/-- The declaration of the operation is written. -/
theorem result_facts :
    (resultPrepare.1.toOption.map fun w =>
      ((w.attempt .nothing resultPrepare.2 "src/q.gql").1.isOk,
        (w.relativeSource resultPrepare.2.cwd "src/q.gql").toOption.bind fun r =>
          (sourceText resultPrepare.2 (w.base.join r)).toOption)) = some (true, some "query Q{a}")
    ∧ (accepted resultSchema "query Q{a}").toOption.map localNames
      = some ["QQueryVariables", "QQuery"] := by
  decide +kernel

/-- **One name is imported and exported**: the type of the schema, and that of the result. -/
theorem attempt_clashes_result :
    ∃ w started a after body specifier imports, resultPrepare = (.ok w, started)
      ∧ w.attempt .nothing started "src/q.gql" = (.ok a, after)
      ∧ after.tree.octets? a.parts = some (encodeUtf8
        ((Statement.importTypes imports specifier).text ++ "\n" ++ statementsText body
          ++ "\nexport\x7b\x7d;\n").toList)
      ∧ "QQuery" ∈ imports ∧ "QQuery" ∈ body.filterMap Statement.exported? := by
  obtain ⟨hwriter, hnames⟩ := result_facts
  have hspelled : resultSchema.Spelled := spelled_getD_ofText _
  rcases hprepare : resultPrepare with ⟨result, started⟩
  rw [hprepare] at hwriter
  cases result with
  | error f => cases hwriter
  | ok w =>
      obtain ⟨hok, htext⟩ := Prod.mk.inj (Option.some.inj hwriter)
      rcases hattempt : w.attempt .nothing started "src/q.gql" with ⟨outcome, after⟩
      rw [hattempt] at hok
      cases outcome with
      | error f => cases hok
      | ok a =>
          obtain ⟨relative, text, d, body, specifier, imports, hrelative, hsource, hd, hbody,
            hoctets, hexported, hclashes⟩ := attempt_clashes (isStart_smallWorld "query Q{a}")
              (show Path.IsWritten ⟨.root, ["b"]⟩ by decide)
              (show Path.IsWritten ⟨.here, [".gql"]⟩ by decide) hprepare hattempt
          rw [hrelative] at htext
          have htext : (sourceText started (w.base.join relative)).toOption = some "query Q{a}" :=
            htext
          rw [hsource] at htext
          obtain rfl := Option.some.inj htext
          rw [hd] at hnames
          have hnames : localNames d = ["QQueryVariables", "QQuery"] := Option.some.inj hnames
          have hlocal : "QQuery" ∈ localNames d := by
            rw [hnames]
            decide
          obtain ⟨t, ht, hname, hdeclared, hkind⟩ : ∃ t ∈ resultSchema.types, t.name = "QQuery"
              ∧ isIntrospectionName t.name = false ∧ t.isScalar = false := by
            decide +kernel
          refine ⟨w, started, a, after, body, specifier, imports, rfl, hattempt, hoctets,
            (hclashes "QQuery" (List.mem_cons_of_mem _ hlocal)).mpr ?_, hexported ▸ hlocal⟩
          rw [← hname]
          exact mem_exportedTypes_of_declared ht (hspelled t ht).1 hdeclared hkind

end QueryTypings.Writer
