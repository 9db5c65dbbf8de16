/-
  How the loading of a schema ends.

  A schema is loaded, or a fault of its file is told, or something comes up that nobody expects.  The
  commands report a fault as a failure to begin; what nobody expects goes up through them.

  1. **Files** — which of these it is depends on the file alone: a schema is loaded if and only if the
     file's text is one (`loadSchema_eq_ok_iff`), and nothing unexpected comes up unless the path holds
     NUL, the octets are no UTF-8, or the text makes a schema that cannot be examined
     (`loadSchema_broken_iff`).

  2. **Commands** — where no schema is loaded, all commands end alike, and nothing has changed
     (`compile_of_fault`, `generate_of_fault`, `watch_of_fault`).

  3. **Reports** — so a fault is reported as a failure to begin if and only if it is an expected one and
     the console can show its message (`loading_ends`).
-/
import QueryTypings.CommandLine.Run
import QueryTypings.Proofs.Project.Start
import QueryTypings.Proofs.Schema.Obstacles
import QueryTypings.Proofs.Text.Utf8

namespace QueryTypings

open QueryTypings.Text

variable {world : World} {file : Path} {c : Config} {f : SchemaFault}

/-! ## Files -/

/-- The file's text is a schema. -/
def IsSchemaFile (world : World) (file : Path) (s : Schema) : Prop :=
  file.hasNul = false ∧ ∃ octets text, world.read file = .ok octets ∧ fileText octets = .ok text
    ∧ Schema.IsSchema text s

/-- The file is one that nobody expects: its path holds NUL, its octets are no UTF-8, or its text makes
    a schema that cannot be examined. -/
def IsUnexpected (world : World) (file : Path) : Prop :=
  file.hasNul = true ∨ ∃ octets, world.read file = .ok octets
    ∧ (¬ IsUtf8 octets ∨ ∃ text, fileText octets = .ok text ∧ Schema.Unexaminable text)

/-- **A schema is loaded if and only if the file's text is one.** -/
theorem loadSchema_eq_ok_iff {s : Schema} : loadSchema world file = .ok s ↔ IsSchemaFile world file s := by
  unfold loadSchema IsSchemaFile
  cases file.hasNul with
  | true => exact iff_of_false (fun h => by cases h) (fun ⟨h, _⟩ => by cases h)
  | false =>
      simp only [Bool.false_eq_true, if_false, true_and]
      cases world.read file with
      | error r => exact iff_of_false (fun h => by cases h) (fun ⟨_, _, h, _⟩ => by cases h)
      | ok octets =>
          simp only [Except.ok.injEq, exists_and_left, exists_eq_left']
          cases fileText octets with
          | error e => exact iff_of_false (fun h => by cases h) (fun ⟨_, h, _⟩ => by cases h)
          | ok text =>
              simp only [Except.ok.injEq, exists_eq_left', ← Schema.ofText_eq_ok_iff]
              split <;> simp_all

/-- **When something comes up that nobody expects.** -/
theorem loadSchema_broken_iff :
    (∃ b, loadSchema world file = .error (.broken b)) ↔ IsUnexpected world file := by
  unfold loadSchema IsUnexpected
  cases file.hasNul with
  | true => simp
  | false =>
      simp only [Bool.false_eq_true, if_false, false_or]
      cases world.read file with
      | error r => simp
      | ok octets =>
          simp only [Except.ok.injEq, exists_eq_left', ← exists_fileText_error_iff]
          cases fileText octets with
          | error e => simp
          | ok text =>
              simp only [Except.ok.injEq, exists_eq_left', reduceCtorEq, exists_false, false_or,
                ← Schema.ofText_unexaminable_iff]
              split
              case h_1 shown o hshown => simp [hshown]
              case h_2 other hother htext =>
                refine iff_of_false (fun ⟨_, h⟩ => by cases h) fun ⟨shown, o, h⟩ => ?_
                cases htext.symm.trans h
                exact hother shown o rfl
              case h_3 s hs => simp [hs]

/-! ## Commands -/

/-- What keeps a run from beginning where no schema is loaded: a path of the settings has no place, or
    the fault of the schema. -/
def Config.startFault (c : Config) (f : SchemaFault) : StartFault :=
  if c.baseDir.hasNul || c.schemaPath.hasNul then .broken .nulInPath else .schema f

/-- A build does not begin, and changes nothing. -/
theorem Plugin.session_of_fault {W α : Type}
    (h : loadSchema world (c.resolvedSchema world.cwd) = .error f) (ops : Watching W)
    (body : Plugin W → World → α × Plugin W × World) :
    (Plugin.fresh c).session ops world body
      = (.error (.start (c.startFault f)), .fresh c, world) := by
  have hprepare : Plugin.prepare c world = (.error (c.startFault f), world) := by
    rw [Plugin.prepare, Config.startFault, h]
    split <;> rfl
  have hstart : (Plugin.fresh c).buildStart ops world
      = (.error (.start (c.startFault f)), .fresh c, world) := by
    rw [Plugin.buildStart]
    simp only [Plugin.closeWatcher, Plugin.fresh, Plugin.prepare_world, hprepare]
  rw [Plugin.session, hstart]

namespace CommandLine

variable (h : loadSchema world (c.resolvedSchema world.cwd) = .error f)
include h

theorem compile_of_fault (path : String) (declaration : Bool) :
    compile c path declaration world = notStarted (c.startFault f) := by
  rw [compile, h, Config.startFault]
  split <;> rfl

theorem generate_of_fault : generate c world = (notStarted (c.startFault f), world) := by
  rw [generate, Plugin.session_of_fault h]
  rfl

theorem watch_of_fault : watch c world = (notStarted (c.startFault f), world) := by
  rw [watch, Plugin.session_of_fault h]
  rfl

omit h

/-! ## Reports -/

/-- The run ends with code 1, and the fault is reported as a failure to begin. -/
def IsReport (f : SchemaFault) (e : Ending) : Prop :=
  ∃ shown, shownLine (startFailure f.message) = .ok shown ∧ e = .exit 1 shown

theorem printed_singleton (code : Nat) (line : String) : printed code [line]
    = match shownLine line with
      | .ok shown => .exit code shown
      | .error e => .escape (.markup e) := by
  rw [printed, List.mapM_cons, List.mapM_nil]
  cases shownLine line with
  | error e => rfl
  | ok shown =>
      have hjoin : String.join [shown] = shown := by simp
      exact congrArg (Ending.exit code) hjoin

/-- The console can show what is told of the fault. -/
def IsShowable (f : SchemaFault) : Prop := ∃ shown, shownLine (startFailure f.message) = .ok shown

theorem notStarted_expected (hexpected : ∀ b, f ≠ .broken b) : notStarted (.schema f)
    = match shownLine (startFailure f.message) with
      | .ok shown => .exit 1 shown
      | .error e => .escape (.markup e) := by
  have hbreakdown : (StartFault.schema f).breakdown? = none := by
    cases f with
    | broken b => exact absurd rfl (hexpected b)
    | unreadable file r | invalid file fault => rfl
  have hmessage : (StartFault.schema f).message = f.message := rfl
  rw [notStarted, hbreakdown, hmessage]
  exact printed_singleton 1 (startFailure f.message)

/-- The fault is one to be reported: the paths of the settings have places, the fault is expected, and
    the console can show it. -/
def IsReportable (c : Config) (f : SchemaFault) : Prop :=
  (c.baseDir.hasNul || c.schemaPath.hasNul) = false ∧ (∀ b, f ≠ .broken b) ∧ IsShowable f

/-- Such a fault is reported. -/
theorem IsReportable.isReport (h : IsReportable c f) :
    IsReport f (notStarted (c.startFault f)) := by
  obtain ⟨hnul, hexpected, shown, hshown⟩ := h
  refine ⟨shown, hshown, ?_⟩
  rw [Config.startFault, hnul, if_neg Bool.false_ne_true, notStarted_expected hexpected, hshown]

/-- Any other one goes up. -/
theorem escape_of_not_isReportable (h : ¬ IsReportable c f) :
    ∃ up, notStarted (c.startFault f) = .escape up := by
  rw [Config.startFault]
  split
  case isTrue => exact ⟨_, rfl⟩
  case isFalse hnul =>
    by_cases hbroken : ∃ b, f = .broken b
    · obtain ⟨b, rfl⟩ := hbroken
      exact ⟨_, rfl⟩
    · have hexpected : ∀ b, f ≠ .broken b := fun b hb => hbroken ⟨b, hb⟩
      rw [notStarted_expected hexpected]
      cases hshown : shownLine (startFailure f.message) with
      | error e => exact ⟨_, rfl⟩
      | ok shown => exact absurd ⟨Bool.not_eq_true _ ▸ hnul, hexpected, shown, hshown⟩ h

/-- **When a fault of a schema is reported.** -/
theorem isReport_notStarted_iff : IsReport f (notStarted (c.startFault f)) ↔ IsReportable c f := by
  refine ⟨fun ⟨_, _, hexit⟩ => ?_, IsReportable.isReport⟩
  by_contra hnot
  obtain ⟨up, hup⟩ := escape_of_not_isReportable hnot
  cases hexit.symm.trans hup

/-- **How loading a schema ends, and how the commands report that none is loaded.** -/
theorem loading_ends (world : World) :
    (∀ file s, loadSchema world file = .ok s ↔ IsSchemaFile world file s)
    ∧ (∀ file, (∃ b, loadSchema world file = .error (.broken b)) ↔ IsUnexpected world file)
    ∧ ∀ c f, loadSchema world (c.resolvedSchema world.cwd) = .error f →
        ∃ e, (IsReport f e ∨ ∃ up, e = .escape up)
          ∧ (IsReport f e ↔ (c.baseDir.hasNul || c.schemaPath.hasNul) = false
            ∧ ¬ IsUnexpected world (c.resolvedSchema world.cwd) ∧ IsShowable f)
          ∧ (∀ path declaration, compile c path declaration world = e)
          ∧ generate c world = (e, world) ∧ watch c world = (e, world) := by
  refine ⟨fun file s => loadSchema_eq_ok_iff, fun file => loadSchema_broken_iff, fun c f h => ?_⟩
  have hexpected : (∀ b, f ≠ .broken b) ↔ ¬ IsUnexpected world (c.resolvedSchema world.cwd) := by
    rw [← loadSchema_broken_iff, h, not_exists]
    simp only [Except.error.injEq, ne_eq]
  refine ⟨notStarted (c.startFault f), ?_, ?_, compile_of_fault h, generate_of_fault h,
    watch_of_fault h⟩
  · by_cases hreport : IsReportable c f
    · exact .inl hreport.isReport
    · exact .inr (escape_of_not_isReportable hreport)
  · rw [isReport_notStarted_iff, IsReportable, hexpected]

/-- The small project, with a schema file of a single octet that begins no character. -/
def octetWorld : World :=
  { smallWorld "" with
    tree := ⟨[(["b"], .directory), (["b", "s.graphql"], .file [0xff])]⟩ }

theorem loading_ends_octet :
    loadSchema octetWorld ⟨.root, ["b", "s.graphql"]⟩
      = .error (.broken (.undecodable ⟨.invalidStart, 0, 1, 0xff⟩))
    ∧ ∃ up, generate smallConfig octetWorld = (.escape up, octetWorld) := by
  have hload : loadSchema octetWorld (smallConfig.resolvedSchema octetWorld.cwd)
      = .error (.broken (.undecodable ⟨.invalidStart, 0, 1, 0xff⟩)) := by
    rfl
  obtain ⟨-, hbroken, hends⟩ := loading_ends octetWorld
  obtain ⟨e, hcases, hreport, -, hgenerate, -⟩ := hends smallConfig _ hload
  refine ⟨hload, ?_⟩
  rcases hcases with hreported | ⟨up, rfl⟩
  · exact absurd ((hbroken _).mp ⟨_, hload⟩) (hreport.mp hreported).2.1
  · exact ⟨up, hgenerate⟩

end CommandLine

end QueryTypings
