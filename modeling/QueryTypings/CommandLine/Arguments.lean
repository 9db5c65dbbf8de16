/-
  The arguments of a command line.

  A word that begins with a dash and has more characters is an option, unless two dashes alone came
  before it.  An option with a long name takes its value after an equals sign or from the next word.
  Options with short names may stand together behind one dash; the first one of them that takes a
  value takes the rest of the word, or the next word.
-/
import QueryTypings.Config.Environment
import QueryTypings.Config.Scalar
import QueryTypings.Text.Integer

namespace QueryTypings.CommandLine

open QueryTypings.Text

/-- What can be set on a command line. -/
inductive Setting
  | schema | searchDir | extension | virtualDir | baseDir | scalar | timeoutMs
  | declaration | verbose | help
deriving Repr, BEq, DecidableEq

/-- The setting takes a value. -/
def Setting.takesValue : Setting → Bool
  | .declaration | .verbose | .help => false
  | _ => true

/-- The names of a setting: the long one and the letter of the short one. -/
def Setting.names : Setting → String × Option Char
  | .schema => ("--schema", none)
  | .searchDir => ("--search-dir", none)
  | .extension => ("--extension", some 'e')
  | .virtualDir => ("--virtual-dir", none)
  | .baseDir => ("--base-dir", none)
  | .scalar => ("--scalar", none)
  | .timeoutMs => ("--timeout-ms", none)
  | .declaration => ("--declaration", some 'd')
  | .verbose => ("--verbose", some 'v')
  | .help => ("--help", some 'h')

/-- The commands. -/
inductive Command
  | generate | watch | compile
deriving Repr, BEq, DecidableEq

/-- The command of a given name. -/
def Command.ofName? : String → Option Command
  | "generate" => some .generate
  | "watch" => some .watch
  | "compile" => some .compile
  | _ => none

/-- What can be set for a command. -/
def Command.settings : Command → List Setting
  | .compile => [.declaration, .schema, .scalar, .help]
  | _ => [.schema, .searchDir, .extension, .virtualDir, .baseDir, .scalar, .timeoutMs, .help]

/-- What can be set before the command. -/
def generalSettings : List Setting := [.verbose, .help]

/-- Why a command line is refused. -/
inductive UsageFault
  | noSuchOption (word : String)
  | noValue (word : String)
  | unwantedValue (word : String)
  | noCommand
  | noSuchCommand (word : String)
  | missingPath
  | unexpected (word : String)
  | malformedTimeout (text : String)
  | nulInPath (path : String)
  | malformedScalar (fault : Config.MalformedScalar)
deriving Repr, BEq, DecidableEq

/-- The wording. -/
def UsageFault.message : UsageFault → String
  | .noSuchOption w => "No such option: " ++ w
  | .noValue w => "Option '" ++ w ++ "' requires an argument."
  | .unwantedValue w => "Option '" ++ w ++ "' does not take a value."
  | .noCommand => "Missing command."
  | .noSuchCommand w => "No such command '" ++ w ++ "'."
  | .missingPath => "Missing argument 'PATH'."
  | .unexpected w => "Got unexpected extra argument (" ++ w ++ ")"
  | .malformedTimeout s => "Invalid value for '--timeout-ms': " ++ quoted s
      ++ " is not a valid integer."
  | .nulInPath p => "Invalid value: " ++ quoted p ++ " holds a null byte."
  | .malformedScalar f => "Invalid value for --scalar: " ++ f.message

/-! ## Words -/

/-- What a word is. -/
inductive Word
  | argument
  /-- Two dashes: only arguments follow. -/
  | dashes
  /-- Options with their values. -/
  | given (found : List (Setting × String))
  /-- Options, the last of which takes the next word as its value. -/
  | wanting (found : List (Setting × String)) (last : Setting)
  | fault (f : UsageFault)
deriving Repr, BEq

/-- Options behind one dash. -/
def shortOptions (known : List Setting) (word : String) : List Char → List (Setting × String) → Word
  | [], found => .given found
  | c :: r, found =>
      match known.find? fun s => s.names.2 == some c with
      | none => .fault (.noSuchOption word)
      | some s =>
          if !s.takesValue then shortOptions known word r (found ++ [(s, "")])
          else if r.isEmpty then .wanting found s
          else .given (found ++ [(s, String.ofList r)])

/-- An option with a long name. -/
def longOption (s : Setting) (name : List Char) (value : Option (List Char)) : Word :=
  match value with
  | some v =>
      if s.takesValue then .given [(s, String.ofList v)]
      else .fault (.unwantedValue (String.ofList name))
  | none => if s.takesValue then .wanting [] s else .given [(s, "")]

/-- What a word is, for settings that are known. -/
def wordKind (known : List Setting) (word : String) : Word :=
  match word.toList with
  | ['-', '-'] => .dashes
  | '-' :: c :: r =>
      let name := (c :: r).takeWhile (· != '=')
      let value := match (c :: r).dropWhile (· != '=') with
        | _ :: v => some v
        | [] => none
      match known.find? fun s => s.names.1.toList == '-' :: name with
      | some s => longOption s ('-' :: name) value
      | none =>
          if c = '-' then .fault (.noSuchOption word) else shortOptions known word (c :: r) []
  | _ => .argument

/-- The options and the arguments of a command line. -/
structure Words where
  options : List (Setting × String)
  arguments : List String
deriving Repr, BEq

/-- Adds options in front. -/
def Words.withOptions (found : List (Setting × String)) (w : Words) : Words :=
  { w with options := found ++ w.options }

/-- Sorts words into options and arguments.  Where options must come first, everything from the
    first argument on is arguments. -/
def sortWords (known : List Setting) (optionsFirst : Bool) :
    List String → Except UsageFault Words
  | [] => .ok ⟨[], []⟩
  | word :: rest =>
      match wordKind known word with
      | .fault f => .error f
      | .dashes => .ok ⟨[], rest⟩
      | .argument =>
          if optionsFirst then .ok ⟨[], word :: rest⟩
          else (sortWords known optionsFirst rest).map fun w =>
            { w with arguments := word :: w.arguments }
      | .given found => (sortWords known optionsFirst rest).map (Words.withOptions found)
      | .wanting found last =>
          match rest with
          | [] => .error (.noValue word)
          | value :: rest =>
              (sortWords known optionsFirst rest).map (Words.withOptions (found ++ [(last, value)]))

/-! ## Requests -/

/-- What a command line asks for. -/
inductive Request
  | help
  | generate (options : List (Setting × String))
  | watch (options : List (Setting × String))
  | compile (path : String) (declaration : Bool) (options : List (Setting × String))
deriving Repr, BEq

/-- The values of a setting, in order. -/
def valuesOf (s : Setting) (options : List (Setting × String)) : List String :=
  (options.filter fun o => o.1 == s).map fun o => o.2

/-- The setting is there. -/
def isGiven (s : Setting) (options : List (Setting × String)) : Bool :=
  options.any fun o => o.1 == s

/-- A timeout is an integer; the last one counts. -/
def timeout? (options : List (Setting × String)) : Except UsageFault (Option Int) :=
  match (valuesOf .timeoutMs options).getLast? with
  | none => .ok none
  | some text =>
      match readPlainInteger text with
      | .ok n => .ok (some n)
      | .error _ => .error (.malformedTimeout text)

/-- The settings whose values are paths. -/
def pathSettings : List Setting := [.schema, .searchDir, .virtualDir, .baseDir]

/-- The first path of a command's words that holds NUL, which no path can. -/
def nulPath? (words : Words) : Option String :=
  (pathSettings.flatMap (valuesOf · words.options) ++ words.arguments).find? fun p =>
    p.toList.contains '\x00'

/-- The request of a command with given words. -/
def requestOf (c : Command) (words : Words) : Except UsageFault Request :=
  if isGiven .help words.options then .ok .help
  else if let some path := nulPath? words then .error (.nulInPath path)
  else
    match timeout? words.options, c, words.arguments with
    | .error f, _, _ => .error f
    | .ok _, .generate, [] => .ok (.generate words.options)
    | .ok _, .watch, [] => .ok (.watch words.options)
    | .ok _, .compile, [] => .error .missingPath
    | .ok _, .compile, [path] =>
        .ok (.compile path (isGiven .declaration words.options) words.options)
    | .ok _, .compile, _ :: extra :: _ => .error (.unexpected extra)
    | .ok _, _, extra :: _ => .error (.unexpected extra)

/-- The request of a command line. -/
def request (arguments : List String) : Except UsageFault Request := do
  let general ← sortWords generalSettings true arguments
  if isGiven .help general.options then return .help
  match general.arguments with
  | [] => .error .noCommand
  | name :: rest =>
      match Command.ofName? name with
      | none => .error (.noSuchCommand name)
      | some c =>
          let words ← sortWords c.settings false rest
          requestOf c words

/-! ## Configuration -/

/-- The settings of options as a configuration takes them. -/
def overrides (options : List (Setting × String)) (scalars : Option (OrderedMap String)) :
    OrderedMap Json :=
  let text (s : Setting) (name : String) : OrderedMap Json :=
    ((valuesOf s options).getLast?.map fun v => (name, Json.string v)).toList
  let extensions := valuesOf .extension options
  let timeout := match timeout? options with
    | .ok (some n) => [("startup_timeout_ms", Json.int n)]
    | _ => []
  text .schema "schema_path" ++ text .searchDir "search_dir"
    ++ (if extensions.isEmpty then [] else [("extensions", .array (extensions.map Json.string))])
    ++ text .virtualDir "virtual_dir" ++ text .baseDir "base_dir"
    ++ (scalars.map fun m => ("scalars", Json.object (m.map fun (k, v) => (k, .string v)))).toList
    ++ timeout

/-- Why there is no configuration. -/
inductive ConfigFault
  | usage (fault : UsageFault)
  | environment (fault : Config.EnvironmentFault)
deriving Repr, BEq

/-- The configuration of an environment and of options. -/
def configOf (cwd : Path) (environment : OrderedMap String) (options : List (Setting × String)) :
    Except ConfigFault Config :=
  match Config.scalarsOfEntries (valuesOf .scalar options) with
  | .error f => .error (.usage (.malformedScalar f))
  | .ok scalars =>
      match Config.ofEnvironment cwd environment (overrides options scalars) with
      | .error f => .error (.environment f)
      | .ok c => .ok c

end QueryTypings.CommandLine
