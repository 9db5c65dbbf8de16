/-
  The declarations that there are tell what was asked of a writer.

  1. **Calls** — a writer is asked to write and to remove declarations, for any sources, and files
     outside its directory are edited in between (`History`).  Calls may fail, for reasons that the
     tree shows or does not show.

  2. **Ledger** — what is at a place in the output directory is what the last call about it that
     returned has left there (`Ledger`).  A call that returns settles one place (`Ledger.settle`), a
     call that fails none (`Ledger.stay`), and an edit none either.  Besides, every file there can be
     reached, so a removal of it does not fail.

  3. **History** — so the output directory holds what the history says and nothing else, and the
     declaration of the schema is as it was at the beginning (`history_ledger`).
-/
import QueryTypings.Proofs.FileTree.Reach
import QueryTypings.Proofs.Project.Preparation

namespace QueryTypings.Writer

open QueryTypings.Text QueryTypings.FileTree QueryTypings.Typescript

/-! ## Calls -/

/-- A call, with the world as it was before, and what came of it. -/
inductive Call
  | write (world : World) (source : String) (result : Except Failure Path)
  | remove (world : World) (source : String) (result : Except Failure Bool)

/-- The call returned. -/
def Call.returned : Call → Bool
  | .write _ _ result => result.isOk
  | .remove _ _ result => result.isOk

/-- The place of the declaration that the call is about. -/
def Call.place? (w : Writer) : Call → Option (List String)
  | .write world source _ => (w.artifact world.cwd source).toOption.map Path.parts
  | .remove world source _ => (w.artifact world.cwd source).toOption.map Path.parts

/-- The last call about a place that returned.  Of all calls, the last one comes first. -/
def lastReturned (w : Writer) (place : List String) (calls : List Call) : Option Call :=
  calls.find? fun c => c.returned && decide (c.place? w = some place)

/-- The octets are those of the declaration that is generated from the text of the query file: what it
    mentions is imported, then come the statements for the text, and the last one. -/
def Generates (w : Writer) (world : World) (source : String) (octets : List Nat) : Prop :=
  ∃ a relative text body, w.artifact world.cwd source = .ok a
    ∧ w.relativeSource world.cwd source = .ok relative
    ∧ sourceText world (w.base.join relative) = .ok text ∧ w.statements relative text = .ok body
    ∧ octets = encodeUtf8 ((Statement.importTypes (w.mentioned (Declaration.statementsText body))
        ((Path.importSpecifier? world.cwd a.text w.schemaFile.text).getD "")).text
      ++ "\n" ++ Declaration.statementsText body ++ "\nexport\x7b\x7d;\n").toList

/-- What the last call that returned leaves at its place: the declaration that it wrote, or no
    file. -/
def Leaves (w : Writer) : Option Call → Option (List Nat) → Prop
  | some (.write world source _), found => ∃ octets, found = some octets
      ∧ w.Generates world source octets
  | _, found => found = none

/-- The directory that the writer's files are in. -/
def root (w : Writer) : Path := w.outDir.parent

/-- Files are edited outside that directory, and the way to it stays open. -/
structure OutsideRoot (w : Writer) (t t' : FileTree) : Prop where
  opened : Opened t' w.root.parts
  inside : ∀ place, w.root.parts <+: place → t'.entry? place = t.entry? place

/-- What happens to a writer and its files: edits outside the directory, writes and removals.  What
    goes wrong with a write for reasons that the tree does not show is its setback; a removal may be
    refused for such reasons. -/
inductive History (w : Writer) (started : World) : List Call → World → Prop
  | begun : History w started [] started
  | edited {calls : List Call} {world : World} {t : FileTree} (before : History w started calls world)
      (outside : w.OutsideRoot world.tree t) : History w started calls { world with tree := t }
  | wrote {calls : List Call} {world : World} (before : History w started calls world)
      (setback : Setback) (source : String) :
      History w started (.write world source (w.attempt setback world source).1 :: calls)
        (w.attempt setback world source).2
  | removed {calls : List Call} {world : World} (before : History w started calls world)
      (source : String) :
      History w started (.remove world source (w.remove world source).1 :: calls)
        (w.remove world source).2
  | blocked {calls : List Call} {world : World} (before : History w started calls world)
      (source : String) (f : Failure) :
      History w started (.remove world source (.error f) :: calls) world

variable {w : Writer} {started world world' : World} {calls : List Call} {c : Call}
  {place : List String}

theorem lastReturned_of_returned (h : c.returned = true) (hplace : c.place? w = some place) :
    w.lastReturned place (c :: calls) = some c :=
  List.find?_cons_of_pos (by simp [h, hplace])

theorem lastReturned_of_not_returned (h : c.returned = false) :
    w.lastReturned place (c :: calls) = w.lastReturned place calls :=
  List.find?_cons_of_neg (by simp [h])

theorem lastReturned_of_ne (h : c.place? w ≠ some place) :
    w.lastReturned place (c :: calls) = w.lastReturned place calls :=
  List.find?_cons_of_neg (by simp [h])

theorem place?_eq {s : String} {a : Path} (ha : w.artifact world.cwd s = .ok a) :
    (w.artifact world.cwd s).toOption.map Path.parts = some a.parts := by
  rw [ha]
  rfl

/-- A declaration that can be written is generated from the text of the query file. -/
theorem generates_of_compose {s : String} {a : Path} {text : String}
    (h : w.compose world s = .ok (a, text)) : w.Generates world s (encodeUtf8 text.toList) := by
  obtain ⟨ha, r, source, body, hr, hsource, hbody, rfl⟩ := compose_eq_ok.mp h
  rw [declarationText_eq w world.cwd a (statements_ne_nil hbody)]
  exact ⟨a, r, source, body, ha, hr, hsource, hbody, rfl⟩

/-! ## Ledger -/

/-- The places of a writer are as making the directory leaves them. -/
structure AtHome (w : Writer) : Prop where
  placed : w.Placed
  outDir : w.outDir.parts = typesPlace w.root
  schemaFile : w.schemaFile.parts = schemaPlace w.root
  clean : w.base.hasNul = false → w.outDir.hasNul = false

/-- **The invariant of a history**: at each place in the output directory there is what the last call
    that returned has left, and what there is can be reached. -/
structure Ledger (w : Writer) (started : World) (calls : List Call) (world : World) : Prop where
  cwd : world.cwd = started.cwd
  rooted : Rooted world.tree w.outDir.parts
  files : ∀ place, Below w.outDir.parts place →
    w.Leaves (w.lastReturned place calls) (world.tree.octets? place)
  reachable : ∀ place, Below w.outDir.parts place → world.tree.octets? place ≠ none →
    Reachable place ∧ ∀ n ∈ place, '\x00' ∉ n.toList
  schemaFile : world.tree.entry? w.schemaFile.parts = started.tree.entry? w.schemaFile.parts

theorem AtHome.not_below (h : w.AtHome) : ¬ Below w.outDir.parts w.schemaFile.parts := by
  rw [h.outDir, h.schemaFile]
  rintro ⟨hpre, hne⟩
  refine hne (hpre.eq_of_length_le ?_).symm
  rw [typesPlace, schemaPlace, List.length_append, List.length_append]
  exact Nat.le_refl _

/-- **A call that returns settles one place.** -/
theorem Ledger.settle (hw : w.AtHome) (h : w.Ledger started calls world)
    (hreturned : c.returned = true) (hplace : c.place? w = some place)
    (hcwd : world'.cwd = world.cwd) (hkept : w.Kept world.tree world'.tree)
    (hleaves : w.Leaves (some c) (world'.tree.octets? place))
    (hothers : ∀ q, q ≠ place → world'.tree.octets? q = world.tree.octets? q)
    (hreachable : world'.tree.octets? place ≠ none →
      Reachable place ∧ ∀ n ∈ place, '\x00' ∉ n.toList) :
    w.Ledger started (c :: calls) world' where
  cwd := hcwd.trans h.cwd
  rooted := hkept.rooted
  files := fun q hq => by
    by_cases heq : q = place
    · rw [heq, lastReturned_of_returned hreturned hplace]
      exact hleaves
    · have hne : c.place? w ≠ some q := fun hc => heq (Option.some.inj (hc.symm.trans hplace))
      rw [lastReturned_of_ne hne, hothers q heq]
      exact h.files q hq
  reachable := fun q hq hsome => by
    by_cases heq : q = place
    · rw [heq] at hsome ⊢
      exact hreachable hsome
    · rw [hothers q heq] at hsome
      exact h.reachable q hq hsome
  schemaFile := (hkept.outside _ hw.not_below).trans h.schemaFile

/-- **A call that fails settles nothing.** -/
theorem Ledger.stay (hw : w.AtHome) (h : w.Ledger started calls world)
    (hfailed : c.returned = false) (hcwd : world'.cwd = world.cwd)
    (hkept : w.Kept world.tree world'.tree)
    (hsame : ∀ q, world'.tree.octets? q = world.tree.octets? q) :
    w.Ledger started (c :: calls) world' where
  cwd := hcwd.trans h.cwd
  rooted := hkept.rooted
  files := fun q hq => by
    rw [lastReturned_of_not_returned hfailed, hsame]
    exact h.files q hq
  reachable := fun q hq hsome => h.reachable q hq (hsame q ▸ hsome)
  schemaFile := (hkept.outside _ hw.not_below).trans h.schemaFile

theorem AtHome.root_prefix (h : w.AtHome) : w.root.parts <+: w.outDir.parts := by
  rw [h.outDir]
  exact List.prefix_append _ _

/-- An edit outside the directory settles nothing either. -/
theorem Ledger.edit (hw : w.AtHome) (h : w.Ledger started calls world) {t : FileTree}
    (hedit : w.OutsideRoot world.tree t) : w.Ledger started calls { world with tree := t } := by
  have hinside : ∀ q, Below w.outDir.parts q → t.octets? q = world.tree.octets? q :=
    fun q hq => octets?_congr (hedit.inside q (hw.root_prefix.trans hq.1))
  refine ⟨h.cwd, ⟨fun q hq => ?_, fun q hq hsome => ?_⟩, fun q hq => ?_, fun q hq hsome => ?_, ?_⟩
  · -- the output directory lies in the directory, and the way there is open
    rw [hw.outDir, typesPlace] at hq
    rcases List.prefix_concat_iff.mp hq with heq | hpre
    · have hroot : w.root.parts <+: q := heq ▸ List.prefix_append _ _
      refine (hedit.inside q hroot).trans (h.rooted.opened q ?_)
      rw [hw.outDir, heq]
      exact List.prefix_refl _
    · exact hedit.opened q hpre
  · rw [hedit.inside q (hw.root_prefix.trans hq.1)] at hsome
    rw [hedit.inside _ (hw.root_prefix.trans hq.prefix_dropLast)]
    exact h.rooted.held q hq hsome
  · show w.Leaves (w.lastReturned q calls) (t.octets? q)
    rw [hinside q hq]
    exact h.files q hq
  · exact h.reachable q hq (hinside q hq ▸ hsome)
  · refine (hedit.inside _ ?_).trans h.schemaFile
    rw [hw.schemaFile]
    exact List.prefix_append _ _

/-- What is written can be reached. -/
theorem reachable_of_put {t : FileTree} {a : Path} {octets : List Nat} (hne : a.parts ≠ [])
    (hdots : ".." ∉ a.parts) (h : PutIn world.tree a octets t) : Reachable a.parts := by
  have hparts := Path.parent_append_name hne
  rw [← hparts] at hdots ⊢
  exact h.room.reachable hdots h.fits

/-- **Writing** settles the place of the declaration, or nothing. -/
theorem Ledger.write (hw : w.AtHome) (hc : started.cwd.IsStart) (h : w.Ledger started calls world)
    (setback : Setback) (source : String) :
    w.Ledger started (.write world source (w.attempt setback world source).1 :: calls)
      (w.attempt setback world source).2 := by
  rcases hattempt : w.attempt setback world source with ⟨result, after⟩
  obtain ⟨hcwd, hkept, heffect⟩ := attempt_effect hw.placed setback hattempt
  cases heffect with
  | @written a text _ hcompose hput =>
      obtain ⟨hbelow, hdots⟩ := compose_below hw.placed hcompose
      have hthere := hput.there hbelow.ne_nil
      refine h.settle hw rfl (place?_eq (compose_ok hcompose).1) hcwd (hkept h.rooted)
        ⟨_, hthere, generates_of_compose hcompose⟩ (fun q hq => hput.others hq) fun _ => ?_
      refine ⟨reachable_of_put hbelow.ne_nil hdots hput, ?_⟩
      exact Path.hasNul_eq_false_iff.mp
        (compose_clean hw.placed (h.cwd.symm ▸ hc) hw.clean hcompose)
  | failed hgrown _ => exact h.stay hw rfl hcwd (hkept h.rooted) hgrown.octets?

/-- **Removing** settles the place of the declaration, or nothing. -/
theorem Ledger.remove (hw : w.AtHome) (h : w.Ledger started calls world) (source : String) :
    w.Ledger started (.remove world source (w.remove world source).1 :: calls)
      (w.remove world source).2 := by
  rcases hremove : w.remove world source with ⟨result, after⟩
  obtain ⟨hcwd, hkept, heffect⟩ := remove_effect hw.placed h.rooted hremove
  cases heffect with
  | gone ha _ hmissing hothers =>
      exact h.settle hw rfl (place?_eq ha) hcwd hkept hmissing hothers
        fun hsome => absurd hmissing hsome
  | failed hsame => exact h.stay hw rfl hcwd hkept hsame

/-- The ledger of a history. -/
theorem History.ledger (hw : w.AtHome) (hc : started.cwd.IsStart)
    (hrooted : Rooted started.tree w.outDir.parts) (hempty : started.tree.Empty w.outDir.parts)
    (h : w.History started calls world) : w.Ledger started calls world := by
  induction h with
  | begun =>
      -- nothing is there yet, and there has been no call
      refine ⟨rfl, hrooted, fun q hq => hempty.octets? hq, fun q hq hsome => ?_, rfl⟩
      exact absurd (hempty.octets? hq) hsome
  | edited _ outside ih => exact ih.edit hw outside
  | wrote _ setback source ih => exact ih.write hw hc setback source
  | removed _ source ih => exact ih.remove hw source
  | blocked _ source f ih =>
      exact ih.stay hw rfl rfl (Kept.refl ih.rooted) fun _ => rfl

/-- **A removal tells whether there was a declaration**: it does not fail where there is one. -/
theorem Ledger.remove_true_iff (hw : w.AtHome) (h : w.Ledger started calls world) (source : String) :
    (w.remove world source).1 = .ok true
      ↔ ∃ a, w.artifact world.cwd source = .ok a ∧ (world.tree.octets? a.parts).isSome = true := by
  constructor
  · intro htrue
    rcases hremove : w.remove world source with ⟨result, after⟩
    rw [hremove] at htrue
    cases (remove_effect hw.placed h.rooted hremove).2.2 with
    | @gone a _ _ ha htold _ _ => exact ⟨a, ha, htold.symm.trans (Except.ok.inj htrue)⟩
    | failed _ => cases htrue
  · rintro ⟨a, ha, hsome⟩
    obtain ⟨octets, hoctets⟩ := Option.isSome_iff_exists.mp hsome
    -- what is there was written once, so it can be reached, and nothing stops its removal
    have hbelow := (artifact_below hw.placed ha).1
    have hthere : world.tree.octets? a.parts ≠ none := by simp [hoctets]
    obtain ⟨hreachable, hclean⟩ := h.reachable a.parts hbelow hthere
    have hnul : a.hasNul = false := Path.hasNul_eq_false_iff.mpr hclean
    have hopened : Opened world.tree a.parts.dropLast := by
      refine h.rooted.opened_dropLast hbelow ?_
      rw [octets?_eq_some.mp hoctets]
      exact Option.some_ne_none _
    have hremoved := removeFile_of_file hreachable hopened hoctets
    simp only [Writer.remove, ha, hnul, hremoved, Bool.false_eq_true, if_false]

/-! ## History -/

variable {s : Schema} {scalars : OrderedMap String} {base virtualDir : Path} {kept : List Path}

/-- The root holds NUL only if the base directory does. -/
theorem hasNul_rootAt {cwd : Path} (hvirtual : virtualDir.hasNul = false)
    (hbase : (Path.resolved cwd base).hasNul = false) :
    (rootAt cwd base virtualDir).hasNul = false := by
  rw [Path.hasNul_eq_false_iff] at hvirtual hbase ⊢
  have habs : ((Path.resolved cwd base).join virtualDir).isAbsolute = true :=
    Path.isAbsolute_join rfl
  have hjoin : cwd.join ((Path.resolved cwd base).join virtualDir)
      = (Path.resolved cwd base).join virtualDir := by
    rw [Path.join, if_pos habs]
  intro n hn
  have hn : n ∈ ((Path.resolved cwd base).join virtualDir).normalized.parts := hjoin ▸ hn
  have hn := (Path.mem_normalized habs).2 n hn
  rw [Path.join] at hn
  split at hn
  · exact hvirtual n hn
  · rcases List.mem_append.mp hn with hn | hn
    · exact hbase n hn
    · exact hvirtual n hn

/-- A writer that is made with its directory is at home, and the declaration of the schema is
    there. -/
theorem prepare_atHome {world₀ : World} (hc : world₀.cwd.IsStart) (hbase : base.IsWritten)
    (hvirtual : virtualDir.IsWritten)
    (h : prepare s scalars base virtualDir kept world₀ = (.ok w, started)) :
    w.AtHome ∧ started.tree.entry? w.schemaFile.parts
      = some (.file (encodeUtf8 (Declaration.schemaDeclaration s scalars).toList)) := by
  have hplaced := (prepare_ok hc hbase hvirtual h).2.1.placed
  cases tryPrepare_cases h with
  | made hclean _ hmade _ _ hasBase hasOutDir hasSchemaFile =>
      have hout : w.outDir.parts = typesPlace (rootAt world₀.cwd base virtualDir) := by
        rw [hasOutDir]
        rfl
      have hschema : w.schemaFile.parts = schemaPlace (rootAt world₀.cwd base virtualDir) := by
        rw [hasSchemaFile]
        rfl
      have hroot : w.root.parts = (rootAt world₀.cwd base virtualDir).parts := by
        show w.outDir.parts.dropLast = _
        rw [hout, typesPlace, List.dropLast_concat]
      have hdots : ".." ∉ (rootAt world₀.cwd base virtualDir).parts :=
        Path.resolved_noDots hc.isAbsolute
      refine ⟨⟨hplaced, ?_, ?_, fun hnul => ?_⟩, ?_⟩
      · rw [hout, typesPlace, typesPlace, hroot]
      · rw [hschema, schemaPlace, schemaPlace, hroot]
      · have hvirtualNul : virtualDir.hasNul = false :=
          Bool.eq_false_iff.mpr (List.any_eq_false.mp hclean _ (by simp))
        have hrootNul := hasNul_rootAt hvirtualNul (hasBase ▸ hnul)
        rw [Path.hasNul_eq_false_iff] at hrootNul ⊢
        intro n hn
        rw [hout] at hn
        rcases List.mem_append.mp hn with hn | hn
        · exact hrootNul n hn
        · rw [List.mem_singleton.mp hn]
          decide
      · rw [hschema]
        exact ((madeRoot_effect .nothing hdots hmade).2 rfl).schemaFile

/-- **The output directory is its history.**  After any calls and edits, at each place in it there is
    the declaration that the last call about it that returned has written, or no file if that call
    was a removal or there was none.  A removal tells whether there was a file, and the declaration
    of the schema is there as it was. -/
theorem history_ledger {world₀ : World} (hc : world₀.cwd.IsStart) (hbase : base.IsWritten)
    (hvirtual : virtualDir.IsWritten)
    (hprepare : prepare s scalars base virtualDir kept world₀ = (.ok w, started))
    (h : w.History started calls world) :
    (∀ place, Below w.outDir.parts place →
      w.Leaves (w.lastReturned place calls) (world.tree.octets? place))
    ∧ (∀ source, (w.remove world source).1 = .ok true
      ↔ ∃ a, w.artifact world.cwd source = .ok a ∧ (world.tree.octets? a.parts).isSome = true)
    ∧ world.tree.entry? w.schemaFile.parts
      = some (.file (encodeUtf8 (Declaration.schemaDeclaration s scalars).toList)) := by
  obtain ⟨hcwd, hbegun, _⟩ := prepare_ok hc hbase hvirtual hprepare
  obtain ⟨hhome, hschema⟩ := prepare_atHome hc hbase hvirtual hprepare
  have hledger := h.ledger hhome (hcwd.symm ▸ hc) hbegun.rooted hbegun.empty
  exact ⟨hledger.files, hledger.remove_true_iff hhome, hledger.schemaFile.trans hschema⟩

/-- A small project's query file, on a way that goes up and down. -/
def smallDetour : String := "src/../src/q.gql"

/-- The declaration that is written for the small project's query file is the one that is found on
    the detour. -/
theorem detour_facts :
    (smallPrepare.1.toOption.map fun w =>
      ((w.attempt .nothing smallPrepare.2 smallFile.text).1.isOk,
        (w.artifact (w.attempt .nothing smallPrepare.2 smallFile.text).2.cwd
          smallDetour).toOption.map fun a =>
            ((w.attempt .nothing smallPrepare.2 smallFile.text).2.tree.octets? a.parts).isSome))
      = some (true, some true) := by
  decide +kernel

/-- So it is removed on the detour. -/
theorem history_ledger_smallDetour :
    ∃ w started, smallPrepare = (.ok w, started)
      ∧ (w.remove (w.attempt .nothing started smallFile.text).2 smallDetour).1 = .ok true := by
  have hfacts := detour_facts
  rcases hprepare : smallPrepare with ⟨result, started⟩
  rw [hprepare] at hfacts
  cases result with
  | error f => cases hfacts
  | ok w =>
      have hbase : Path.IsWritten ⟨.root, ["b"]⟩ := by decide
      have hvirtual : Path.IsWritten ⟨.here, ["src", "..", ".gql"]⟩ := by decide
      have hledger := history_ledger (isStart_smallWorld "query Q{a}") hbase hvirtual hprepare
        (.wrote .begun .nothing smallFile.text)
      refine ⟨w, started, rfl, (hledger.2.1 smallDetour).mpr ?_⟩
      have hfound := (Prod.mk.inj (Option.some.inj hfacts)).2
      rw [Option.map_eq_some_iff] at hfound
      obtain ⟨a, ha, hsome⟩ := hfound
      refine ⟨a, ?_, hsome⟩
      cases hartifact : w.artifact (w.attempt .nothing started smallFile.text).2.cwd smallDetour with
      | error f =>
          rw [hartifact] at ha
          cases ha
      | ok a' =>
          rw [hartifact] at ha
          exact congrArg Except.ok (Option.some.inj ha)

end QueryTypings.Writer
