/-
  A declaration imports the types of the schema that it names.

  Three things have to fit together: the declaration of the schema as a text, the names that a
  search of this text finds, and another search for these names in the text of the declaration.

  1. **Names** — what a declaration imports are the names found in the first text that it mentions,
     in the order of that text (`Resolves`).  An enum or an input object that stands for a type is
     mentioned, wherever it stands, and unless it is a type of introspection it is found
     (`resolves_mentioned`).

  2. **Declarations** — so it is imported when the declaration is written, and what is imported is
     exported by the declaration of the schema, which is still there (`attempt_imports`).

  3. **Introspection** — the types of introspection are not declared, but a fragment can be defined
     on them.  Then the declaration names one of them, and it is imported from nowhere
     (`attempt_imports_introspection`).
-/
import QueryTypings.Proofs.Declaration.SchemaExports
import QueryTypings.Proofs.Project.History
import QueryTypings.Proofs.Schema.Spelling
import QueryTypings.Proofs.Typescript.Names

namespace QueryTypings.Writer

open QueryTypings.Text QueryTypings.FileTree QueryTypings.Typescript QueryTypings.Schema
  QueryTypings.Declaration QueryTypings.Check

/-! ## Names -/

/-- Imports provide statements with what they name of a schema. -/
structure Resolves (s : Schema) (scalars : OrderedMap String) (body : List Statement)
    (imports : List String) : Prop where
  /-- They stand in the order in which the schema's declaration exports them. -/
  ordered : imports.Sublist (exportedTypes (schemaDeclaration s scalars))
  /-- They are the exported names that the statements mention. -/
  mentioned : ∀ n, n ∈ imports ↔
    n ∈ exportedTypes (schemaDeclaration s scalars) ∧ Mentioned n (statementsText body)
  /-- Each of them is exported at the beginning of a line of the schema's declaration. -/
  exports : ∀ n ∈ imports, Exports (schemaDeclaration s scalars) n
  /-- The enums and input objects that stand for a type are among them. -/
  named : ∀ t ∈ s.types, t.isEnum = true ∨ t.isInputObject = true →
    (∃ st ∈ body, st.Names t.name) → isIntrospectionName t.name = false → t.name ∈ imports
  /-- Unless the text for a scalar brings in more lines, each of them is the name of a statement,
      and so none is a type of introspection. -/
  declared : OneLine scalars → ∀ n ∈ imports,
    (∃ st ∈ (schemaStatements s scalars).flatten, st.exported? = some n)
      ∧ isIntrospectionName n = false

theorem resolves_mentioned {s : Schema} {scalars : OrderedMap String} (hs : s.Spelled)
    (body : List Statement) :
    Resolves s scalars body
      ((exportedTypes (schemaDeclaration s scalars)).filter (mentions (statementsText body))) where
  ordered := List.filter_sublist
  mentioned := fun n => by rw [List.mem_filter, mentions_iff]
  exports := fun n hn => exports_of_mem (List.mem_filter.mp hn).1
  named := fun t ht hkind ⟨st, hst, hn⟩ hdeclared => by
    have hscalar : t.isScalar = false := by
      cases hparts : t.parts <;>
        simp [NamedType.isEnum, NamedType.isInputObject, NamedType.isScalar, hparts] at hkind ⊢
    exact List.mem_filter.mpr ⟨mem_exportedTypes_of_declared ht (hs t ht).1 hdeclared hscalar,
      mentions_iff.mpr (mentioned_statementsText hst hn)⟩
  declared := fun hscalars n hn => by
    have hfound := (List.mem_filter.mp hn).1
    rw [exportedTypes_schemaDeclaration hs hscalars] at hfound
    exact ⟨List.mem_filterMap.mp hfound, not_introspection_of_exported hfound⟩

/-! ## Declarations -/

variable {w : Writer} {started world₀ world after : World} {s : Schema}
  {scalars : OrderedMap String} {base virtualDir : Path} {kept : List Path} {calls : List Call}

theorem registry_of_prepare (h : prepare s scalars base virtualDir kept world₀ = (.ok w, started)) :
    w.schema = s ∧ w.scalars = scalars
      ∧ w.registry = exportedTypes (schemaDeclaration s scalars) := by
  unfold prepare tryPrepare at h
  split at h
  · cases (Prod.mk.inj h).1
  · simp only at h
    split at h
    · cases (Prod.mk.inj h).1
    · split at h
      · cases (Prod.mk.inj h).1
      · obtain ⟨hw, _⟩ := Prod.mk.inj h
        obtain rfl := Except.ok.inj hw
        exact ⟨rfl, rfl, rfl⟩

theorem statements_eq_ok {relative : Path} {text : String} {body : List Statement}
    (h : w.statements relative text = .ok body) :
    ∃ d, accepted w.schema text = .ok d ∧ documentStatements w.schema w.scalars d = .ok body := by
  unfold statements at h
  split at h
  · cases h
  · rename_i d hd
    split at h
    · cases h
    · rename_i hss
      obtain rfl := Except.ok.inj h
      exact ⟨d, hd, hss⟩

/-- What stands in a declaration that was written: an import of the names of the schema's declaration
    that the statements mention, and the statements of the accepted document. -/
theorem attempt_text (hc : world₀.cwd.IsStart) (hbase : base.IsWritten)
    (hvirtual : virtualDir.IsWritten)
    (hprepare : prepare s scalars base virtualDir kept world₀ = (.ok w, started))
    {setback : Setback} {source : String} {a : Path}
    (hattempt : w.attempt setback world source = (.ok a, after)) :
    ∃ relative text d body specifier,
      w.relativeSource world.cwd source = .ok relative
      ∧ sourceText world (w.base.join relative) = .ok text
      ∧ accepted s text = .ok d ∧ documentStatements s scalars d = .ok body
      ∧ after.tree.octets? a.parts = some (encodeUtf8
        ((Statement.importTypes ((exportedTypes (schemaDeclaration s scalars)).filter
            (mentions (statementsText body))) specifier).text ++ "\n" ++ statementsText body
          ++ "\nexport\x7b\x7d;\n").toList) := by
  obtain ⟨hhome, _⟩ := prepare_atHome hc hbase hvirtual hprepare
  obtain ⟨rfl, rfl, hregistry⟩ := registry_of_prepare hprepare
  obtain ⟨_, _, heffect⟩ := attempt_effect hhome.placed setback hattempt
  cases heffect with
  | @written a text _ hcompose hput =>
      obtain ⟨a', relative, source', body, ha', hrelative, hsource, hbody, hoctets⟩ :=
        generates_of_compose hcompose
      obtain ⟨d, hd, hss⟩ := statements_eq_ok hbody
      have hthere := hput.there (compose_below hhome.placed hcompose).1.ne_nil
      rw [mentioned, hregistry] at hoctets
      exact ⟨relative, source', d, body, _, hrelative, hsource, hd, hss,
        hthere.trans (congrArg some hoctets)⟩

/-- **A declaration imports what it names of the schema.** -/
theorem attempt_imports (hc : world₀.cwd.IsStart) (hbase : base.IsWritten)
    (hvirtual : virtualDir.IsWritten)
    (hprepare : prepare s scalars base virtualDir kept world₀ = (.ok w, started))
    (hs : s.Spelled) (h : w.History started calls world) {setback : Setback} {source : String}
    {a : Path} (hattempt : w.attempt setback world source = (.ok a, after)) :
    ∃ relative text d body specifier imports,
      w.relativeSource world.cwd source = .ok relative
      ∧ sourceText world (w.base.join relative) = .ok text
      ∧ accepted s text = .ok d ∧ documentStatements s scalars d = .ok body
      ∧ after.tree.octets? a.parts = some (encodeUtf8
        ((Statement.importTypes imports specifier).text ++ "\n" ++ statementsText body
          ++ "\nexport\x7b\x7d;\n").toList)
      ∧ after.tree.entry? w.schemaFile.parts
        = some (.file (encodeUtf8 (schemaDeclaration s scalars).toList))
      ∧ Resolves s scalars body imports := by
  obtain ⟨hcwd, hbegun, _⟩ := prepare_ok hc hbase hvirtual hprepare
  obtain ⟨hhome, hschema⟩ := prepare_atHome hc hbase hvirtual hprepare
  obtain ⟨relative, text, d, body, specifier, hrelative, hsource, hd, hbody, hoctets⟩ :=
    attempt_text hc hbase hvirtual hprepare hattempt
  -- this write is the last call of a history, and over each history the schema's file is kept
  have hafter : w.History started (.write world source (w.attempt setback world source).1 :: calls)
      (w.attempt setback world source).2 := .wrote h setback source
  have hledger := hafter.ledger hhome (hcwd.symm ▸ hc) hbegun.rooted hbegun.empty
  rw [hattempt] at hledger
  exact ⟨relative, text, d, body, specifier, _, hrelative, hsource, hd, hbody, hoctets,
    hledger.schemaFile.trans hschema, resolves_mentioned hs body⟩

/-- A fragment that asks for the kinds of types. -/
def kindQuery : String := "fragment F on __Type{kind}"

/-- The beginning of a small project with this fragment. -/
def kindPrepare : Except StartFault Writer × World :=
  prepare smallSchema [] ⟨.root, ["b"]⟩ ⟨.here, [".gql"]⟩ [] (smallWorld kindQuery)

/-- There is a type for a fragment with a member that has the type `__TypeKind`. -/
def namesKind : List Statement → Bool
  | [_, .exportType _ _ (.inline (.object [_, .mk _ _ (.name n)]))] => n == "__TypeKind"
  | _ => false

theorem names_of_namesKind {body : List Statement} (h : namesKind body = true) :
    ∃ st ∈ body, st.Names "__TypeKind" := by
  unfold namesKind at h
  split at h
  · rename_i st _ _ typename m optional n
    refine ⟨_, List.mem_cons_of_mem _ (List.mem_singleton_self _), ?_⟩
    have hn : n = "__TypeKind" := eq_of_beq h
    subst hn
    exact .object (List.mem_cons_of_mem _ (List.mem_singleton_self _)) .here
  · cases h

/-- The declaration of the fragment is written. -/
theorem kind_facts :
    (kindPrepare.1.toOption.map fun w =>
      ((w.attempt .nothing kindPrepare.2 "src/q.gql").1.isOk,
        (w.relativeSource kindPrepare.2.cwd "src/q.gql").toOption.bind fun r =>
          (sourceText kindPrepare.2 (w.base.join r)).toOption)) = some (true, some kindQuery)
    ∧ ((accepted smallSchema kindQuery).toOption.bind fun d =>
      (documentStatements smallSchema [] d).toOption.map namesKind) = some true := by
  decide +kernel

/-- **A type of introspection is named and not imported**: the declaration of the fragment names
    `__TypeKind`, which the declaration of the schema does not export. -/
theorem attempt_imports_introspection :
    ∃ w started a after body specifier imports, kindPrepare = (.ok w, started)
      ∧ w.attempt .nothing started "src/q.gql" = (.ok a, after)
      ∧ after.tree.octets? a.parts = some (encodeUtf8
        ((Statement.importTypes imports specifier).text ++ "\n" ++ statementsText body
          ++ "\nexport\x7b\x7d;\n").toList)
      ∧ (∃ st ∈ body, st.Names "__TypeKind") ∧ "__TypeKind" ∉ imports
      ∧ "__TypeKind" ∉ exportedTypes (schemaDeclaration smallSchema []) := by
  obtain ⟨hwriter, hnames⟩ := kind_facts
  have hspelled : smallSchema.Spelled := spelled_getD_ofText _
  rcases hprepare : kindPrepare with ⟨result, started⟩
  rw [hprepare] at hwriter
  cases result with
  | error f => cases hwriter
  | ok w =>
      obtain ⟨hok, htext⟩ := Prod.mk.inj (Option.some.inj hwriter)
      rcases hattempt : w.attempt .nothing started "src/q.gql" with ⟨outcome, after⟩
      rw [hattempt] at hok
      cases outcome with
      | error f => cases hok
      | ok a =>
          obtain ⟨relative, text, d, body, specifier, imports, hrelative, hsource, hd, hbody,
            hoctets, _, hresolves⟩ := attempt_imports (isStart_smallWorld kindQuery)
              (show Path.IsWritten ⟨.root, ["b"]⟩ by decide)
              (show Path.IsWritten ⟨.here, [".gql"]⟩ by decide) hprepare hspelled .begun hattempt
          -- what the theorem speaks of is the document and the statements that were computed
          rw [hrelative] at htext
          have htext : (sourceText started (w.base.join relative)).toOption = some kindQuery :=
            htext
          rw [hsource] at htext
          obtain rfl := Option.some.inj htext
          rw [hd] at hnames
          have hnames : (documentStatements smallSchema [] d).toOption.map namesKind = some true :=
            hnames
          rw [hbody] at hnames
          have himported : "__TypeKind" ∉ imports := fun hmem =>
            absurd (hresolves.declared (by decide) _ hmem).2 (by decide)
          refine ⟨w, started, a, after, body, specifier, imports, rfl, hattempt, hoctets,
            names_of_namesKind (Option.some.inj hnames), himported, fun hmem => ?_⟩
          rw [exportedTypes_schemaDeclaration hspelled (by decide)] at hmem
          exact absurd (not_introspection_of_exported hmem) (by decide)

end QueryTypings.Writer
