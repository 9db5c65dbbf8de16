/-
  How commands end that have no configuration.

  A malformed entry of a scalar ends a run with code 2, and so does what validation says about
  settings.  Variables are decoded before they are settings, and a fault in that goes up.

  1. **Entries** — a mapping of scalars fails with its first malformed entry (`scalarsOfEntries_error_iff`).

  2. **Configurations** — there is a valid one, or an entry is malformed, or a variable cannot be
     decoded, or validation says something (`configOf_of_malformed`, `configOf_of_not_isDecodable`,
     `configOf_of_isDecodable`).

  3. **Ends** — so a run without a configuration is refused with code 2, unless a variable cannot be
     decoded or the console cannot show what validation says; then something goes up
     (`configuring_ends`).
-/
import QueryTypings.Proofs.Config.Validation
import QueryTypings.Proofs.Project.Loading

namespace QueryTypings

open QueryTypings.Text

/-! ## Entries -/

namespace Config

variable {entries : List String} {fault : MalformedScalar}

/-- The first entry that has no two sides. -/
def firstMalformed? (entries : List String) : Option String :=
  entries.find? fun e => scalarEntry? e |>.isNone

theorem addScalars_error_iff {m : OrderedMap String} :
    addScalars entries m = .error fault ↔ firstMalformed? entries = some fault.entry := by
  induction entries generalizing m with
  | nil => exact iff_of_false (fun h => by cases h) (fun h => by cases h)
  | cons e r ih =>
      rw [addScalars, firstMalformed?, List.find?_cons]
      cases he : scalarEntry? e with
      | none =>
          obtain ⟨entry⟩ := fault
          simp
      | some pair => exact ih

/-- **A mapping of scalars fails with its first malformed entry.** -/
theorem scalarsOfEntries_error_iff :
    scalarsOfEntries entries = .error fault ↔ firstMalformed? entries = some fault.entry := by
  rw [← addScalars_error_iff (m := [])]
  unfold scalarsOfEntries
  split
  · exact iff_of_false (fun h => by cases h) (fun h => by cases h)
  · cases addScalars entries [] with
    | ok m => exact iff_of_false (fun h => by cases h) (fun h => by cases h)
    | error g => simp [Except.map]

end Config

namespace CommandLine

open Config

variable {cwd : Path} {environment : OrderedMap String} {options : List (Setting × String)}

/-! ## Configurations -/

/-- A malformed entry is told before anything else. -/
theorem configOf_of_malformed {entry : String}
    (h : firstMalformed? (valuesOf .scalar options) = some entry) :
    configOf cwd environment options = .error (.usage (.malformedScalar ⟨entry⟩)) := by
  rw [configOf, scalarsOfEntries_error_iff.mpr h]

/-- Where no entry is malformed, the configuration is that of the environment. -/
theorem configOf_of_wellFormed (h : firstMalformed? (valuesOf .scalar options) = none)
    (cwd : Path) (environment : OrderedMap String) :
    ∃ scalars, scalarsOfEntries (valuesOf .scalar options) = .ok scalars
      ∧ configOf cwd environment options
        = (ofEnvironment cwd environment (overrides options scalars)).mapError .environment := by
  cases hscalars : scalarsOfEntries (valuesOf .scalar options) with
  | error fault => cases h.symm.trans (scalarsOfEntries_error_iff.mp hscalars)
  | ok scalars =>
      refine ⟨scalars, rfl, ?_⟩
      rw [configOf, hscalars]
      dsimp only
      cases ofEnvironment cwd environment (overrides options scalars) <;> rfl

/-- Variables are decoded even where options override them. -/
theorem configOf_of_not_isDecodable (h : firstMalformed? (valuesOf .scalar options) = none)
    (hdecodable : ¬ IsDecodable environment) (cwd : Path) :
    ∃ f, configOf cwd environment options = .error (.environment f) ∧ ∀ vs, f ≠ .invalid vs := by
  obtain ⟨scalars, -, heq⟩ := configOf_of_wellFormed h cwd environment
  obtain ⟨f, hf, hother⟩ :=
    ofEnvironment_of_not_isDecodable hdecodable cwd (overrides options scalars)
  exact ⟨f, by rw [heq, hf]; rfl, hother⟩

/-- The settings of a run: those of the variables, overridden by those of the options. -/
def AreSettings (environment : OrderedMap String) (options : List (Setting × String))
    (settings : OrderedMap Json) : Prop :=
  ∃ found scalars, environmentSettings environment = .ok found
    ∧ scalarsOfEntries (valuesOf .scalar options) = .ok scalars
    ∧ settings = override found (overrides options scalars)

theorem configOf_of_isDecodable (h : firstMalformed? (valuesOf .scalar options) = none)
    (hdecodable : IsDecodable environment) (cwd : Path) :
    (∃ c, configOf cwd environment options = .ok c ∧ c.IsValid)
      ∨ ∃ settings vs, AreSettings environment options settings
        ∧ ofSettings cwd settings = .error vs
        ∧ configOf cwd environment options = .error (.environment (.invalid vs)) := by
  obtain ⟨scalars, hscalars, heq⟩ := configOf_of_wellFormed h cwd environment
  rcases ofEnvironment_of_isDecodable hdecodable cwd (overrides options scalars) with
    ⟨c, hc, hvalid⟩ | ⟨found, vs, hfound, hvs, hinvalid⟩
  · exact .inl ⟨c, by rw [heq, hc]; rfl, hvalid⟩
  · exact .inr ⟨_, vs, ⟨found, scalars, hfound, hscalars, rfl⟩, hvs, by rw [heq, hinvalid]; rfl⟩

/-! ## Ends -/

/-- What a run prints about settings that are not valid. -/
def invalidLine (vs : List Violation) : String :=
  "[red]Invalid configuration:[/red] " ++ violationReport vs

/-- The fault ends a run with code 2 and a text about it: about the first malformed entry, or about
    what validation finds wrong with settings of the run. -/
def IsRefused (cwd : Path) (environment : OrderedMap String) (options : List (Setting × String))
    (f : ConfigFault) : Prop :=
  (∃ entry, firstMalformed? (valuesOf .scalar options) = some entry
      ∧ f = .usage (.malformedScalar ⟨entry⟩)
      ∧ notConfigured f = .exit 2 ((UsageFault.malformedScalar ⟨entry⟩).message ++ "\n"))
    ∨ ∃ settings vs shown, AreSettings environment options settings
      ∧ ofSettings cwd settings = .error vs ∧ vs ≠ [] ∧ (∀ v ∈ vs, v.IsAbout settings)
      ∧ f = .environment (.invalid vs) ∧ shownLine (invalidLine vs) = .ok shown
      ∧ notConfigured f = .exit 2 shown

/-- There is a valid configuration, or runs are refused. -/
def IsHandled (cwd : Path) (environment : OrderedMap String) (options : List (Setting × String)) :
    Prop :=
  (∃ c, configOf cwd environment options = .ok c ∧ c.IsValid)
    ∨ ∃ f, configOf cwd environment options = .error f ∧ IsRefused cwd environment options f

/-- The console can show what validation says, if it says anything. -/
def ShowsViolations (cwd : Path) (environment : OrderedMap String)
    (options : List (Setting × String)) : Prop :=
  ∀ vs, configOf cwd environment options = .error (.environment (.invalid vs)) →
    ∃ shown, shownLine (invalidLine vs) = .ok shown

theorem notConfigured_invalid (vs : List Violation) :
    notConfigured (.environment (.invalid vs)) = printed 2 [invalidLine vs] := rfl

/-- What validation says is printed, if the console can show it. -/
theorem notConfigured_of_shown {vs : List Violation} {shown : String}
    (h : shownLine (invalidLine vs) = .ok shown) :
    notConfigured (.environment (.invalid vs)) = .exit 2 shown := by
  rw [notConfigured_invalid, printed_singleton, h]

/-- Tags in it that the console cannot follow go up. -/
theorem notConfigured_of_markup {vs : List Violation} {e : MarkupFault}
    (h : shownLine (invalidLine vs) = .error e) :
    notConfigured (.environment (.invalid vs)) = .escape (.markup e) := by
  rw [notConfigured_invalid, printed_singleton, h]

/-- Any other fault of an environment goes up. -/
theorem notConfigured_of_ne_invalid {f : EnvironmentFault} (h : ∀ vs, f ≠ .invalid vs) :
    notConfigured (.environment f) = .escape (.environment f) := by
  cases f with
  | invalid vs => exact absurd rfl (h vs)
  | scalars g | timeout s g => rfl

/-- Nothing that a run meets before it has a configuration goes up: an entry is malformed, or the
    variables can be decoded and the console can show what validation says. -/
def IsForeseen (cwd : Path) (environment : OrderedMap String)
    (options : List (Setting × String)) : Prop :=
  (∃ entry, firstMalformed? (valuesOf .scalar options) = some entry)
    ∨ IsDecodable environment ∧ ShowsViolations cwd environment options

theorem isHandled_of_isForeseen (h : IsForeseen cwd environment options) :
    IsHandled cwd environment options := by
  cases hentry : firstMalformed? (valuesOf .scalar options) with
  | some entry =>
      exact .inr ⟨_, configOf_of_malformed hentry, .inl ⟨entry, hentry, rfl, rfl⟩⟩
  | none =>
      obtain ⟨hdecodable, hshows⟩ : IsDecodable environment ∧ ShowsViolations cwd environment options :=
        h.resolve_left fun ⟨entry, he⟩ => by cases hentry.symm.trans he
      rcases configOf_of_isDecodable hentry hdecodable cwd with
        hvalid | ⟨settings, vs, hsettings, hvs, hinvalid⟩
      · exact .inl hvalid
      · obtain ⟨shown, hshown⟩ := hshows vs hinvalid
        obtain ⟨hne, habout⟩ := isAbout_ofSettings hvs
        exact .inr ⟨_, hinvalid, .inr ⟨settings, vs, shown, hsettings, hvs, hne, habout, rfl, hshown,
          notConfigured_of_shown hshown⟩⟩

theorem escape_of_not_isForeseen (h : ¬ IsForeseen cwd environment options) :
    ∃ f up, configOf cwd environment options = .error f ∧ notConfigured f = .escape up := by
  -- with well-formed entries, decoding decides first, and the console only after validation
  obtain ⟨hnone, hrest⟩ := not_or.mp h
  have hentry : firstMalformed? (valuesOf .scalar options) = none :=
    Option.eq_none_iff_forall_ne_some.mpr fun entry he => hnone ⟨entry, he⟩
  by_cases hdecodable : IsDecodable environment
  · have hnot : ¬ ShowsViolations cwd environment options := fun hshows => hrest ⟨hdecodable, hshows⟩
    unfold ShowsViolations at hnot
    push Not at hnot
    obtain ⟨vs, hinvalid, hshown⟩ := hnot
    cases hline : shownLine (invalidLine vs) with
    | ok shown => exact absurd hline (hshown shown)
    | error e => exact ⟨_, _, hinvalid, notConfigured_of_markup hline⟩
  · obtain ⟨f, hf, hother⟩ := configOf_of_not_isDecodable hentry hdecodable cwd
    exact ⟨_, _, hf, notConfigured_of_ne_invalid hother⟩

/-- What goes up is no configuration and no refusal. -/
theorem not_isHandled_of_escape {f : ConfigFault} {up : Escape}
    (hf : configOf cwd environment options = .error f) (hup : notConfigured f = .escape up) :
    ¬ IsHandled cwd environment options := by
  rintro (⟨c, hc, -⟩ | ⟨g, hg, hrefused⟩)
  · cases hf.symm.trans hc
  · obtain rfl := Except.error.inj (hf.symm.trans hg)
    rcases hrefused with ⟨_, -, -, hexit⟩ | ⟨_, _, _, -, -, -, -, -, -, hexit⟩ <;>
      cases hup.symm.trans hexit

/-- The command line asks for a command with these options. -/
def Asks (arguments : List String) (options : List (Setting × String)) : Prop :=
  request arguments = .ok (.generate options) ∨ request arguments = .ok (.watch options)
    ∨ ∃ path declaration, request arguments = .ok (.compile path declaration options)

/-- **Every command ends with the fault,** and changes nothing. -/
theorem run_of_fault {world : World} {arguments : List String} {f : ConfigFault}
    (hasks : Asks arguments options) (h : configOf world.cwd environment options = .error f) :
    run environment arguments world = (notConfigured f, world) := by
  rcases hasks with hr | hr | ⟨path, declaration, hr⟩
  · simp only [run, hr, h]
  · simp only [run, hr, h]
  · simp only [run, hr, h]

/-- **How a run is configured.**  There is a valid configuration, or the run is refused with code 2, if
    and only if an entry is malformed, or else the variables can be decoded and the console can show
    what validation says.  Otherwise something goes up.  A fault ends all commands alike, and they
    change nothing. -/
theorem configuring_ends (cwd : Path) (environment : OrderedMap String)
    (options : List (Setting × String)) :
    (IsHandled cwd environment options ↔ IsForeseen cwd environment options)
      ∧ (¬ IsForeseen cwd environment options →
        ∃ f up, configOf cwd environment options = .error f ∧ notConfigured f = .escape up)
      ∧ ∀ f, configOf cwd environment options = .error f →
        ∀ world arguments, world.cwd = cwd → Asks arguments options →
          run environment arguments world = (notConfigured f, world) := by
  refine ⟨⟨fun hhandled => ?_, isHandled_of_isForeseen⟩, escape_of_not_isForeseen, ?_⟩
  · by_contra hnot
    obtain ⟨f, up, hf, hup⟩ := escape_of_not_isForeseen hnot
    exact not_isHandled_of_escape hf hup hhandled
  · rintro f hf world arguments rfl hasks
    exact run_of_fault hasks hf

/-- An environment with a word for its timeout. -/
def wordyEnvironment : OrderedMap String := [("TYPED_GQL_STARTUP_TIMEOUT_MS", "soon")]

/-- With a word for the timeout, there is neither a configuration nor a refusal. -/
theorem configuring_ends_word :
    ¬ IsHandled (smallWorld "").cwd wordyEnvironment []
      ∧ ∃ up, run wordyEnvironment ["generate"] (smallWorld "") = (.escape up, smallWorld "") := by
  have hword : readInteger "soon" = .error .malformed := by decide +kernel
  have hentry : firstMalformed? (valuesOf .scalar []) = none := rfl
  have hnot : ¬ IsForeseen (smallWorld "").cwd wordyEnvironment [] := by
    rintro (⟨entry, h⟩ | ⟨⟨-, htimeout⟩, -⟩)
    · cases hentry.symm.trans h
    · obtain ⟨n, hn⟩ := htimeout "soon" (by decide)
      cases hword.symm.trans hn
  obtain ⟨hhandled, hescape, hrun⟩ := configuring_ends (smallWorld "").cwd wordyEnvironment []
  obtain ⟨f, up, hf, hup⟩ := hescape hnot
  refine ⟨fun h => hnot (hhandled.mp h), up, ?_⟩
  rw [hrun f hf (smallWorld "") ["generate"] rfl (.inl rfl), hup]

end CommandLine

end QueryTypings
