/-
  The import in a declaration leads to the declaration of the schema.

  1. **The way up** — a declaration lies somewhere below the output directory, and the declaration of
     the schema lies beside that directory.  So the way from one to the other climbs out of every
     directory that the declaration is in, and ends in the name of the file
     (`importSpecifier?_beside`).

  2. **The import** — each declaration that a history writes begins with an import of this specifier,
     and the declaration of the schema is where it leads (`attempt_specifier`).
-/
import QueryTypings.Proofs.Path.Specifiers
import QueryTypings.Proofs.Project.History

namespace QueryTypings

open QueryTypings.Text QueryTypings.FileTree QueryTypings.Typescript

/-! ## The way up -/

namespace Path

variable {cwd a target : Path} {front way : List String} {n name last : String}

theorem text_ne_empty (h : a.IsPlace) : a.text ≠ "" := fun hempty => by
  have horigin := congrArg origin (ofText_text h.written)
  rw [hempty, h.origin] at horigin
  cases horigin

theorem absolute_ofText_text (h : a.IsPlace) : absolute cwd (ofText a.text) = a := by
  rw [ofText_text h.written, absolute_of_isPlace h]

theorem IsPlace.parent (h : a.IsPlace) : a.parent.IsPlace where
  origin := h.origin
  noDots := fun hmem => h.noDots (List.dropLast_subset _ hmem)
  written := fun n hn => h.written n (List.dropLast_subset _ hn)

/-- From a file somewhere below a directory, a file beside this directory is reached by climbing out of
    all directories in between. -/
theorem importSpecifier?_beside (cwd : Path) (ha : a.IsPlace) (htarget : target.IsPlace)
    (haparts : a.parts = front ++ n :: way ++ [name]) (htargetParts : target.parts = front ++ [last])
    (hne : n ≠ last) : importSpecifier? cwd a.text target.text
      = some (text ⟨.here, List.replicate (way.length + 1) ".." ++ [last]⟩) := by
  have hdirectory : a.parent.parts = front ++ n :: way := by
    show a.parts.dropLast = _
    rw [haparts, List.dropLast_concat]
  have hcommon : dropCommon (n :: way) [last] = (n :: way, [last]) := by rw [dropCommon, if_neg hne]
  have hway : relativeTo cwd (ofText target.text) (ofText (directoryText a.text))
      = ⟨.here, List.replicate (way.length + 1) ".." ++ [last]⟩ := by
    rw [ofText_text htarget.written, ofText_directoryText ha.written (by simp [haparts]),
      relativeTo_eq_wayBetween, resolved_of_isPlace ha.parent, resolved_of_isPlace htarget,
      hdirectory, htargetParts, wayBetween, dropCommon_append_append, hcommon, List.map_const',
      List.length_cons]
  obtain ⟨back, hback, _⟩ := toList_text_cons ".." (List.replicate way.length ".." ++ [last])
  refine importSpecifier?_eq_some_iff.mpr ⟨text_ne_empty htarget, ?_⟩
  rw [hway, withMark, if_pos]
  rw [List.replicate_succ, List.cons_append, hback]
  rfl

/-- A specifier leads from one place to another. -/
theorem importSpecifier?_leads_of_isPlace (hc : cwd.IsWritten) (ha : a.IsPlace)
    (hne : a.parts ≠ []) (htarget : target.IsPlace) {specifier : String}
    (h : importSpecifier? cwd a.text target.text = some specifier) :
    absolute cwd (a.parent.join (ofText specifier)) = target := by
  obtain ⟨specifier', h', hleads⟩ := importSpecifier?_leads hc
    ((congrArg origin (absolute_ofText_text ha)).trans ha.origin)
    ((congrArg origin (absolute_ofText_text htarget)).trans htarget.origin) (text_ne_empty htarget)
  obtain rfl := Option.some.inj (h.symm.trans h')
  rwa [ofText_directoryText ha.written hne, absolute_ofText_text htarget] at hleads

end Path

/-! ## The import -/

namespace Writer

variable {w : Writer} {started world₀ world after : World} {s : Schema}
  {scalars : OrderedMap String} {base virtualDir : Path} {kept : List Path} {calls : List Call}

/-- The file begins with an import of types from a module. -/
def BeginsWithImport (t : FileTree) (a : Path) (specifier : String) : Prop :=
  ∃ names rest, t.octets? a.parts
    = some (encodeUtf8 ((Statement.importTypes names specifier).text ++ "\n" ++ rest).toList)

theorem isPlace_schemaFile (hc : world₀.cwd.IsStart) (hbase : base.IsWritten)
    (hvirtual : virtualDir.IsWritten)
    (h : prepare s scalars base virtualDir kept world₀ = (.ok w, started)) :
    w.schemaFile.IsPlace := by
  cases tryPrepare_cases h with
  | made _ _ _ _ _ _ _ hasSchemaFile =>
      rw [hasSchemaFile]
      exact (hc.join ((hc.join hbase).written.join hvirtual)).join (by decide) (by decide)

/-- The specifier in a declaration. -/
theorem importSpecifier?_artifact (hw : w.AtHome) (hfile : w.schemaFile.IsPlace) {cwd a : Path}
    {source : String} (h : w.artifact cwd source = .ok a) :
    ∃ way name, a.parts = w.outDir.parts ++ way ++ [name]
      ∧ Path.importSpecifier? cwd a.text w.schemaFile.text
        = some (Path.text ⟨.here, List.replicate (way.length + 1) ".." ++ [schemaFileName]⟩) := by
  obtain ⟨r, _, hartifact⟩ := artifact_eq_ok.mp h
  obtain ⟨first, below, hparts⟩ := Path.artifact_within hw.placed.outDir hartifact
  obtain ⟨way, name, hway⟩ : ∃ way name, first :: below = way ++ [name] :=
    ⟨_, _, (List.dropLast_append_getLast (List.cons_ne_nil first below)).symm⟩
  rw [hway, ← List.append_assoc] at hparts
  have hbeside : a.parts = w.root.parts ++ typesName :: way ++ [name] := by
    rw [hparts, hw.outDir, typesPlace, List.append_assoc w.root.parts]
    rfl
  exact ⟨way, name, hparts, Path.importSpecifier?_beside cwd
    (Path.isPlace_artifact hw.placed.outDir hartifact) hfile hbeside hw.schemaFile (by decide)⟩

/-- **What a declaration imports from**: it begins with an import whose specifier climbs out of all
    directories below the one that holds the output directory, and this leads to the declaration of
    the schema, which is there. -/
theorem attempt_specifier (hc : world₀.cwd.IsStart) (hbase : base.IsWritten)
    (hvirtual : virtualDir.IsWritten)
    (hprepare : prepare s scalars base virtualDir kept world₀ = (.ok w, started))
    (h : w.History started calls world) {setback : Setback} {source : String} {a : Path}
    (hattempt : w.attempt setback world source = (.ok a, after)) :
    ∃ way name specifier, a.parts = w.outDir.parts ++ way ++ [name]
      ∧ specifier = Path.text ⟨.here, List.replicate (way.length + 1) ".." ++ [schemaFileName]⟩
      ∧ BeginsWithImport after.tree a specifier
      ∧ Path.absolute world.cwd (a.parent.join (Path.ofText specifier)) = w.schemaFile
      ∧ after.tree.entry? w.schemaFile.parts
        = some (.file (encodeUtf8 (Declaration.schemaDeclaration s scalars).toList)) := by
  obtain ⟨hcwd, hbegun, _⟩ := prepare_ok hc hbase hvirtual hprepare
  obtain ⟨hhome, hschema⟩ := prepare_atHome hc hbase hvirtual hprepare
  have hfile := isPlace_schemaFile hc hbase hvirtual hprepare
  -- this write is the last call of a history, and over each history the schema's file is kept
  have hafter : w.History started (.write world source (w.attempt setback world source).1 :: calls)
      (w.attempt setback world source).2 := .wrote h setback source
  have hledger := hafter.ledger hhome (hcwd.symm ▸ hc) hbegun.rooted hbegun.empty
  rw [hattempt] at hledger
  obtain ⟨hsame, _, heffect⟩ := attempt_effect hhome.placed setback hattempt
  have hstart : world.cwd.IsStart := by rwa [← hsame, hledger.cwd, hcwd]
  cases heffect with
  | @written a text _ hcompose hput =>
      obtain ⟨a', _, _, body, ha', _, _, _, hoctets⟩ := generates_of_compose hcompose
      obtain rfl : a = a' := Except.ok.inj ((compose_ok hcompose).1.symm.trans ha')
      have hne : a.parts ≠ [] := (compose_below hhome.placed hcompose).1.ne_nil
      obtain ⟨way, name, hparts, hspecifier⟩ := importSpecifier?_artifact hhome hfile ha'
      obtain ⟨r, _, hartifact⟩ := artifact_eq_ok.mp ha'
      have hplace := Path.isPlace_artifact hhome.placed.outDir hartifact
      rw [hspecifier, Option.getD_some, String.append_assoc] at hoctets
      exact ⟨way, name, _, hparts, rfl, ⟨_, _, (hput.there hne).trans (congrArg some hoctets)⟩,
        Path.importSpecifier?_leads_of_isPlace hstart.written hplace hne hfile hspecifier,
        hledger.schemaFile.trans hschema⟩

/-- **Specifiers lead to what is imported.**  Where paths begin at the root, a specifier that is taken
    from the directory of the file leads to the target, from whichever working directory both are seen
    and however they are written.  So at any time of a history, what a declaration that is written
    imports from is the declaration of the schema: at any depth below the output directory, its import
    leads there. -/
theorem specifiers_resolve :
    (∀ (cwd : Path) (fromFile target : String), cwd.IsWritten →
      (Path.absolute cwd (Path.ofText fromFile)).origin = .root →
      (Path.absolute cwd (Path.ofText target)).origin = .root → target ≠ "" →
      ∃ specifier, Path.importSpecifier? cwd fromFile target = some specifier
        ∧ Path.absolute cwd ((Path.ofText (Path.directoryText fromFile)).join
            (Path.ofText specifier)) = Path.absolute cwd (Path.ofText target))
    ∧ ∀ {w : Writer} {world₀ started world after : World} {s : Schema}
        {scalars : OrderedMap String} {base virtualDir : Path} {kept : List Path}
        {calls : List Call} {setback : Setback} {source : String} {a : Path},
      world₀.cwd.IsStart → base.IsWritten → virtualDir.IsWritten →
      prepare s scalars base virtualDir kept world₀ = (.ok w, started) →
      w.History started calls world → w.attempt setback world source = (.ok a, after) →
      ∃ way name specifier, a.parts = w.outDir.parts ++ way ++ [name]
        ∧ specifier = Path.text ⟨.here, List.replicate (way.length + 1) ".." ++ [schemaFileName]⟩
        ∧ BeginsWithImport after.tree a specifier
        ∧ Path.absolute world.cwd (a.parent.join (Path.ofText specifier)) = w.schemaFile
        ∧ after.tree.entry? w.schemaFile.parts
          = some (.file (encodeUtf8 (Declaration.schemaDeclaration s scalars).toList)) :=
  ⟨fun _ _ _ hc hfrom htarget hne => Path.importSpecifier?_leads hc hfrom htarget hne,
    fun hc hbase hvirtual hprepare h hattempt =>
      attempt_specifier hc hbase hvirtual hprepare h hattempt⟩

/-- The declaration of the small project's query file lies one directory below the output directory. -/
theorem depth_facts :
    (smallPrepare.1.toOption.map fun w =>
      (w.attempt .nothing smallPrepare.2 smallFile.text).1.toOption.map fun a =>
        (a.parts.length, w.outDir.parts.length)) = some (some (5, 3)) := by
  decide +kernel

/-- The specifiers for a relative target that is written with a detour, and in the declaration of the
    small project's query file. -/
theorem specifiers_resolve_small :
    (∃ specifier, Path.importSpecifier? ⟨.root, ["w"]⟩ "/w/src/a.ts" "x/../lib/b.ts" = some specifier
      ∧ Path.absolute ⟨.root, ["w"]⟩ ((Path.ofText (Path.directoryText "/w/src/a.ts")).join
          (Path.ofText specifier)) = ⟨.root, ["w", "lib", "b.ts"]⟩)
    ∧ ∃ w started a after, smallPrepare = (.ok w, started)
      ∧ w.attempt .nothing started smallFile.text = (.ok a, after)
      ∧ BeginsWithImport after.tree a "../../schema.d.ts"
      ∧ Path.absolute started.cwd (a.parent.join (Path.ofText "../../schema.d.ts"))
        = w.schemaFile := by
  refine ⟨?_, ?_⟩
  · obtain ⟨specifier, hspecifier, hleads⟩ := specifiers_resolve.1 ⟨.root, ["w"]⟩ "/w/src/a.ts"
      "x/../lib/b.ts" (by decide) (by decide +kernel) (by decide +kernel) (by decide)
    have htarget : Path.absolute ⟨.root, ["w"]⟩ (Path.ofText "x/../lib/b.ts")
        = ⟨.root, ["w", "lib", "b.ts"]⟩ := by decide +kernel
    exact ⟨specifier, hspecifier, hleads.trans htarget⟩
  · have hfacts := depth_facts
    rcases hprepare : smallPrepare with ⟨result, started⟩
    rw [hprepare] at hfacts
    cases result with
    | error f => cases hfacts
    | ok w =>
        have hfacts : (w.attempt .nothing started smallFile.text).1.toOption.map (fun a =>
            (a.parts.length, w.outDir.parts.length)) = some (5, 3) := Option.some.inj hfacts
        rcases hattempt : w.attempt .nothing started smallFile.text with ⟨outcome, after⟩
        rw [hattempt] at hfacts
        cases outcome with
        | error f => cases hfacts
        | ok a =>
            obtain ⟨hlength, hlength'⟩ := Prod.mk.inj (Option.some.inj hfacts)
            obtain ⟨way, name, specifier, hparts, hspecifier, himport, hleads, _⟩ :=
              specifiers_resolve.2 (isStart_smallWorld "query Q{a}")
                (show Path.IsWritten ⟨.root, ["b"]⟩ by decide)
                (show Path.IsWritten ⟨.here, ["src", "..", ".gql"]⟩ by decide) hprepare .begun hattempt
            have hdepth : way.length = 1 := by
              have hsum := congrArg List.length hparts
              simp only [List.length_append, List.length_singleton] at hsum
              omega
            rw [hdepth] at hspecifier
            have htext : specifier = "../../schema.d.ts" := hspecifier.trans (by decide +kernel)
            subst htext
            exact ⟨w, started, a, after, rfl, hattempt, himport, hleads⟩

end Writer

end QueryTypings
