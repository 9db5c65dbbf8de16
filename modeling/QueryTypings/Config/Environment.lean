/-
  Settings from environment variables.

  A variable that is empty counts as not set.  Settings that are given otherwise override those of
  the environment; one that is given as null does not.  The variables are decoded even where they
  are overridden, scalars before the timeout.
-/
import QueryTypings.Config.Settings
import QueryTypings.Json.Reader
import QueryTypings.Text.Quoted

namespace QueryTypings.Config

open QueryTypings.Text

/-- Why an environment gives no configuration. -/
inductive EnvironmentFault
  /-- The scalars are not read as JSON. -/
  | scalars (fault : Json.Fault)
  /-- The timeout is not read as an integer. -/
  | timeout (text : String) (fault : IntegerFault)
  /-- The settings are not valid. -/
  | invalid (violations : List Violation)
deriving Repr, BEq

/-- How many characters of a quoted text are shown. -/
def shownLength : Nat := 200

/-- The wording for a text that is not read as an integer. -/
def integerMessage (text : String) : IntegerFault → String
  | .malformed => "invalid literal for int() with base 10: "
      ++ String.ofList ((quoted text).toList.take shownLength)
  | .tooManyDigits n => tooManyDigitsMessage n

/-- The value of a variable that is set. -/
def valueOf? (environment : OrderedMap String) (name : String) : Option String :=
  (OrderedMap.get? name environment).filter fun s => s != ""

/-- The extensions in a text, separated by commas; blank ones are left out. -/
def splitExtensions (text : String) : List String :=
  ((splitAt ',' text.toList).filter fun e => !(trim e).isEmpty).map String.ofList

/-- The settings of an environment. -/
def environmentSettings (environment : OrderedMap String) :
    Except EnvironmentFault (OrderedMap Json) := do
  let text (setting name : String) : OrderedMap Json :=
    ((valueOf? environment name).map fun s => (setting, Json.string s)).toList
  let scalars ← match valueOf? environment "TYPED_GQL_SCALARS" with
    | none => .ok []
    | some s =>
        match Json.ofText s with
        | .ok v => .ok [("scalars", v)]
        | .error f => .error (.scalars f)
  let extensions :=
    (valueOf? environment "TYPED_GQL_EXTENSIONS").toList.map fun s =>
      ("extensions", Json.array ((splitExtensions s).map Json.string))
  let timeout ← match valueOf? environment "TYPED_GQL_STARTUP_TIMEOUT_MS" with
    | none => .ok []
    | some s =>
        match readInteger s with
        | .ok n => .ok [("startup_timeout_ms", Json.int n)]
        | .error f => .error (.timeout s f)
  return text "schema_path" "TYPED_GQL_SCHEMA" ++ scalars
    ++ text "search_dir" "TYPED_GQL_SEARCH_DIR"
    ++ extensions ++ text "virtual_dir" "TYPED_GQL_VIRTUAL_DIR"
    ++ text "base_dir" "TYPED_GQL_BASE_DIR" ++ timeout

/-- The value is null. -/
def isNull : Json → Bool
  | .null => true
  | _ => false

/-- Settings overridden by others, as far as those are not null. -/
def override (settings others : OrderedMap Json) : OrderedMap Json :=
  (others.filter fun p => !isNull p.2).foldl (fun m p => OrderedMap.put p.1 p.2 m) settings

/-- The configuration of an environment and the settings that override it. -/
def ofEnvironment (cwd : Path) (environment : OrderedMap String) (overrides : OrderedMap Json) :
    Except EnvironmentFault Config := do
  let settings ← environmentSettings environment
  match ofSettings cwd (override settings overrides) with
  | .ok c => .ok c
  | .error vs => .error (.invalid vs)

end QueryTypings.Config
