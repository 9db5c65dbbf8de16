/-
  What validation lets through, and what it says about the rest.

  1. **Settings** — a setting that is let through is as its reader or the usual value (`of_given`); a
     reader that lets nothing through says something, and says it about its setting (`Blames`).

  2. **Configurations** — so a configuration that is let through is valid (`isValid_ofSettings`), and
     where there is none, the settings that are given are to blame (`isAbout_ofSettings`).

  3. **Environments** — of the variables, only two are decoded before validation, and these alone can
     keep settings from being there (`environmentSettings_error_iff`).
-/
import QueryTypings.Config.Environment
import QueryTypings.Proofs.Config.Extensions
import QueryTypings.Proofs.Result

namespace QueryTypings.Config

open QueryTypings.Text

variable {α : Type} {settings : OrderedMap Json} {name : String}

/-! ## Settings -/

/-- What is true of the usual value and of all that the reader gives is true of the setting. -/
theorem of_given {P : α → Prop} {usual : α} {read : Json → Validated α} {a : α} (husual : P usual)
    (hread : ∀ v a, read v = .ok a → P a) (h : given settings name usual read = .ok a) : P a := by
  rw [given] at h
  split at h
  · exact Except.ok.inj h ▸ husual
  · exact hread _ a h

/-- The violation is about the setting. -/
def Violation.Blames (v : Violation) (name : String) : Prop :=
  v.problem.location.head? = some (.setting name)

/-- The violation is about a setting that is given. -/
def Violation.IsAbout (v : Violation) (settings : OrderedMap Json) : Prop :=
  ∃ name ∈ OrderedMap.keys settings, v.Blames name

/-- Something is said, and all of it about the setting. -/
def IsAccount (name : String) (vs : List Violation) : Prop := vs ≠ [] ∧ ∀ v ∈ vs, v.Blames name

theorem isAccount_singleton {v : Violation} (h : v.Blames name) : IsAccount name [v] :=
  ⟨List.cons_ne_nil _ _, fun _ hx => List.mem_singleton.mp hx ▸ h⟩

theorem isAccount_map {f : α → Violation} {xs : List α} (hne : xs ≠ [])
    (h : ∀ x, (f x).Blames name) : IsAccount name (xs.map f) := by
  refine ⟨fun hnil => hne (List.map_eq_nil_iff.mp hnil), fun v hv => ?_⟩
  obtain ⟨x, -, rfl⟩ := List.mem_map.mp hv
  exact h x

/-- A reader that lets nothing through says something about its setting, and nothing else. -/
def Accounts (name : String) (read : Json → Validated α) : Prop :=
  ∀ v vs, read v = .error vs → IsAccount name vs

theorem accounts_pathSetting (name : String) : Accounts name (pathSetting name) := by
  intro v vs h
  unfold pathSetting at h
  split at h
  · cases h
  · exact Except.error.inj h ▸ isAccount_singleton rfl

theorem accounts_scalarsSetting : Accounts "scalars" scalarsSetting := by
  intro v vs h
  unfold scalarsSetting at h
  split at h
  · exact Except.error.inj h ▸ isAccount_singleton rfl
  · split at h
    · cases h
    · rename_i hne
      exact Except.error.inj h ▸ isAccount_map hne fun _ => rfl

theorem accounts_extensionsSetting : Accounts "extensions" extensionsSetting := by
  intro v vs h
  unfold extensionsSetting at h
  split at h
  · exact Except.error.inj h ▸ isAccount_singleton rfl
  · split at h
    · split at h
      · cases h
      · exact Except.error.inj h ▸ isAccount_singleton rfl
    · rename_i hne
      exact Except.error.inj h ▸ isAccount_map hne fun _ => rfl

/-- Whatever is wrong with a timeout, it is the timeout that is wrong. -/
theorem location_of_timeoutInteger {v : Json} {p : Problem} (h : timeoutInteger v = .error p) :
    p.location = [.setting "startup_timeout_ms"] := by
  unfold timeoutInteger at h
  split at h
  · cases h
  · cases h
  · split at h
    · exact Except.error.inj h ▸ rfl
    · unfold wholeNumber at h
      split at h
      · exact Except.error.inj h ▸ rfl
      · split at h
        · cases h
        · exact Except.error.inj h ▸ rfl
  · exact Except.error.inj h ▸ rfl
  · split at h
    · cases h
    · exact Except.error.inj h ▸ rfl
    · exact Except.error.inj h ▸ rfl
  · exact Except.error.inj h ▸ rfl

theorem accounts_timeoutSetting : Accounts "startup_timeout_ms" timeoutSetting := by
  intro v vs h
  unfold timeoutSetting at h
  split at h
  · split at h
    · cases h
    · exact Except.error.inj h ▸ isAccount_singleton rfl
  · rename_i p hp
    refine Except.error.inj h ▸ isAccount_singleton ?_
    rw [Violation.Blames, location_of_timeoutInteger hp]
    rfl

/-- A setting of which nothing is said is let through, and what is said is about settings that are
    given. -/
theorem Accounts.given {read : Json → Validated α} (h : Accounts name read)
    (settings : OrderedMap Json) (usual : α) :
    (violations (given settings name usual read) = [] → ∃ a, given settings name usual read = .ok a)
      ∧ ∀ x ∈ violations (given settings name usual read), x.IsAbout settings := by
  rw [Config.given]
  split
  · exact ⟨fun _ => ⟨usual, rfl⟩, fun x hx => (by cases hx)⟩
  · rename_i v hv
    cases hread : read v with
    | ok a => exact ⟨fun _ => ⟨a, rfl⟩, fun x hx => (by cases hx)⟩
    | error vs =>
        obtain ⟨hne, hblames⟩ := h v vs hread
        have hkey : name ∈ OrderedMap.keys settings :=
          List.mem_map.mpr ⟨_, OrderedMap.mem_of_get? hv, rfl⟩
        exact ⟨fun hnil => absurd hnil hne, fun x hx => ⟨name, hkey, hblames x hx⟩⟩

/-! ## Configurations -/

/-- The configuration is as validation wants it: its extensions are in their canonical form, and the
    timeout is positive. -/
structure IsValid (c : Config) : Prop where
  extensions : IsCanonical c.extensions
  timeout : 0 < c.startupTimeoutMs

theorem isCanonical_usualExtensions : IsCanonical usualExtensions := by
  have h : normalExtensions usualExtensions = .ok usualExtensions := by decide +kernel
  exact (isCanonical_of_ok h).1

theorem isCanonical_extensionsSetting {v : Json} {es : List String}
    (h : extensionsSetting v = .ok es) : IsCanonical es := by
  unfold extensionsSetting at h
  split at h
  · cases h
  · split at h
    · split at h
      · rename_i hnormal
        obtain rfl := Except.ok.inj h
        exact (isCanonical_of_ok hnormal).1
      · cases h
    · cases h

theorem pos_timeoutSetting {v : Json} {n : Int} (h : timeoutSetting v = .ok n) : 0 < n := by
  unfold timeoutSetting at h
  split at h
  · split at h
    · rename_i hpos
      exact Except.ok.inj h ▸ hpos
    · cases h
  · cases h

variable {cwd : Path} {c : Config}

/-- **What validation lets through is valid.** -/
theorem isValid_ofSettings (h : ofSettings cwd settings = .ok c) : c.IsValid := by
  simp only [ofSettings] at h
  split at h
  · rename_i extensions _ _ timeout _ _ _ hextensions _ _ htimeout
    obtain rfl := Except.ok.inj h
    exact ⟨of_given isCanonical_usualExtensions (fun _ _ => isCanonical_extensionsSetting)
        hextensions,
      of_given (P := (0 < ·)) (by decide) (fun _ _ => pos_timeoutSetting) htimeout⟩
  · cases h

/-- **Where validation lets nothing through,** something is said, all of it about settings that are
    given. -/
theorem isAbout_ofSettings {vs : List Violation} (h : ofSettings cwd settings = .error vs) :
    vs ≠ [] ∧ ∀ v ∈ vs, v.IsAbout settings := by
  have hschema := (accounts_pathSetting "schema_path").given settings (Path.ofText "schema.graphql")
  have hscalars := accounts_scalarsSetting.given settings []
  have hsearch := (accounts_pathSetting "search_dir").given settings (Path.ofText "src")
  have hextensions := accounts_extensionsSetting.given settings usualExtensions
  have hvirtual := (accounts_pathSetting "virtual_dir").given settings (Path.ofText ".gql")
  have hbase := (accounts_pathSetting "base_dir").given settings cwd
  have htimeout := accounts_timeoutSetting.given settings usualTimeoutMs
  simp only [ofSettings] at h
  split at h
  · cases h
  · rename_i hnot
    obtain rfl := Except.error.inj h
    refine ⟨fun hnil => ?_, fun v hv => ?_⟩
    · -- a setting of which nothing is said is let through, so all of them would be
      simp only [List.append_eq_nil_iff] at hnil
      obtain ⟨⟨⟨⟨⟨⟨h1, h2⟩, h3⟩, h4⟩, h5⟩, h6⟩, h7⟩ := hnil
      obtain ⟨_, hok1⟩ := hschema.1 h1
      obtain ⟨_, hok2⟩ := hscalars.1 h2
      obtain ⟨_, hok3⟩ := hsearch.1 h3
      obtain ⟨_, hok4⟩ := hextensions.1 h4
      obtain ⟨_, hok5⟩ := hvirtual.1 h5
      obtain ⟨_, hok6⟩ := hbase.1 h6
      obtain ⟨_, hok7⟩ := htimeout.1 h7
      exact hnot _ _ _ _ _ _ _ hok1 hok2 hok3 hok4 hok5 hok6 hok7
    · simp only [List.mem_append] at hv
      rcases hv with (((((hv | hv) | hv) | hv) | hv) | hv) | hv
      · exact hschema.2 v hv
      · exact hscalars.2 v hv
      · exact hsearch.2 v hv
      · exact hextensions.2 v hv
      · exact hvirtual.2 v hv
      · exact hbase.2 v hv
      · exact htimeout.2 v hv

/-! ## Environments -/

/-- The variables that are decoded can be: the scalars are JSON, and the timeout is an integer. -/
structure IsDecodable (environment : OrderedMap String) : Prop where
  scalars : ∀ s, valueOf? environment "TYPED_GQL_SCALARS" = some s → ∃ v, Json.ofText s = .ok v
  timeout : ∀ s, valueOf? environment "TYPED_GQL_STARTUP_TIMEOUT_MS" = some s →
    ∃ n, readInteger s = .ok n

variable {environment : OrderedMap String}

/-- **Why an environment gives no settings:** its scalars are not read as JSON, or else its timeout is
    not read as an integer. -/
theorem environmentSettings_error_iff {f : EnvironmentFault} :
    environmentSettings environment = .error f
      ↔ (∃ s g, valueOf? environment "TYPED_GQL_SCALARS" = some s ∧ Json.ofText s = .error g
          ∧ f = .scalars g)
        ∨ (∀ s, valueOf? environment "TYPED_GQL_SCALARS" = some s → ∃ v, Json.ofText s = .ok v)
          ∧ ∃ s g, valueOf? environment "TYPED_GQL_STARTUP_TIMEOUT_MS" = some s
            ∧ readInteger s = .error g ∧ f = .timeout s g := by
  unfold environmentSettings
  cases valueOf? environment "TYPED_GQL_SCALARS" with
  | none =>
      cases valueOf? environment "TYPED_GQL_STARTUP_TIMEOUT_MS" with
      | none => simp [bind, Except.bind, pure, Except.pure]
      | some t => cases ht : readInteger t <;> simp [bind, Except.bind, pure, Except.pure, ht, eq_comm]
  | some s =>
      cases hs : Json.ofText s with
      | error g => simp [bind, Except.bind, hs, eq_comm]
      | ok v =>
          cases valueOf? environment "TYPED_GQL_STARTUP_TIMEOUT_MS" with
          | none => simp [bind, Except.bind, pure, Except.pure, hs]
          | some t =>
              cases ht : readInteger t <;>
                simp [bind, Except.bind, pure, Except.pure, hs, ht, eq_comm]

/-- **An environment gives settings if and only if its variables can be decoded.** -/
theorem exists_environmentSettings_iff :
    (∃ settings, environmentSettings environment = .ok settings) ↔ IsDecodable environment := by
  constructor
  · rintro ⟨settings, h⟩
    have hno : ∀ f, environmentSettings environment ≠ .error f := fun f hf => by
      cases h.symm.trans hf
    have hscalars : ∀ s, valueOf? environment "TYPED_GQL_SCALARS" = some s →
        ∃ v, Json.ofText s = .ok v := by
      intro s hs
      cases hv : Json.ofText s with
      | ok v => exact ⟨v, rfl⟩
      | error g => exact absurd (environmentSettings_error_iff.mpr (.inl ⟨s, g, hs, hv, rfl⟩)) (hno _)
    refine ⟨hscalars, fun s hs => ?_⟩
    cases hn : readInteger s with
    | ok n => exact ⟨n, rfl⟩
    | error g =>
        exact absurd (environmentSettings_error_iff.mpr (.inr ⟨hscalars, s, g, hs, hn, rfl⟩)) (hno _)
  · rintro ⟨hscalars, htimeout⟩
    cases h : environmentSettings environment with
    | ok settings => exact ⟨settings, rfl⟩
    | error f =>
        rcases environmentSettings_error_iff.mp h with ⟨s, g, hs, hv, -⟩ | ⟨-, s, g, hs, hn, -⟩
        · obtain ⟨v, hok⟩ := hscalars s hs
          cases hv.symm.trans hok
        · obtain ⟨n, hok⟩ := htimeout s hs
          cases hn.symm.trans hok

/-- Where a variable cannot be decoded, validation does not come to say anything. -/
theorem ofEnvironment_of_not_isDecodable (h : ¬ IsDecodable environment) (cwd : Path)
    (overrides : OrderedMap Json) :
    ∃ f, ofEnvironment cwd environment overrides = .error f ∧ ∀ vs, f ≠ .invalid vs := by
  rw [← exists_environmentSettings_iff] at h
  cases henv : environmentSettings environment with
  | ok settings => exact absurd ⟨settings, henv⟩ h
  | error f =>
      refine ⟨f, bind_eq_error.mpr (.inl henv), ?_⟩
      rintro vs rfl
      rcases environmentSettings_error_iff.mp henv with ⟨_, _, -, -, hf⟩ | ⟨-, _, _, -, -, hf⟩ <;>
        cases hf

/-- Where they can, there is a valid configuration, or validation says something. -/
theorem ofEnvironment_of_isDecodable (h : IsDecodable environment) (cwd : Path)
    (overrides : OrderedMap Json) :
    (∃ c, ofEnvironment cwd environment overrides = .ok c ∧ c.IsValid)
      ∨ ∃ settings vs, environmentSettings environment = .ok settings
        ∧ ofSettings cwd (override settings overrides) = .error vs
        ∧ ofEnvironment cwd environment overrides = .error (.invalid vs) := by
  obtain ⟨settings, hsettings⟩ := exists_environmentSettings_iff.mpr h
  rw [ofEnvironment, hsettings]
  cases hc : ofSettings cwd (override settings overrides) with
  | ok c => exact .inl ⟨c, by simp [bind, Except.bind, hc], isValid_ofSettings hc⟩
  | error vs => exact .inr ⟨settings, vs, rfl, hc, by simp [bind, Except.bind, hc]⟩

end QueryTypings.Config
