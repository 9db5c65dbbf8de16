/-
  Settings as they are given, and what is wrong with them.

  Settings come as JSON values by name; names that mean nothing are passed over.  All violations are
  reported, in the order of the settings.  File extensions are brought to a normal form: trimmed, in
  lower case, with a dot in front, each once.  A timeout may be given as an integer, as a binary
  fraction that is whole, as a truth value or as text.
-/
import QueryTypings.Binary64
import QueryTypings.Config.Basic
import QueryTypings.Json.Basic
import QueryTypings.Text.Blank
import QueryTypings.Text.Integer
import QueryTypings.Text.LowerCase

namespace QueryTypings.Config

open QueryTypings.Text

/-! ## Extensions -/

/-- Why extensions are refused. -/
inductive ExtensionFault
  /-- One of them names nothing. -/
  | empty
  /-- There is none. -/
  | none
deriving Repr, BEq, DecidableEq

/-- The wording. -/
def ExtensionFault.message : ExtensionFault → String
  | .empty => "File extensions must not be empty"
  | .none => "At least one file extension is required"

/-- The normal form of an extension, unless it is blank or a single dot. -/
def normalExtension? (text : String) : Option String :=
  match lower (trim text.toList) with
  | [] => none
  | ['.'] => none
  | '.' :: r => some (String.ofList ('.' :: r))
  | cs => some (String.ofList ('.' :: cs))

/-- Adds the normal forms of extensions to those that came before. -/
def addExtensions : List String → List String → Except ExtensionFault (List String)
  | [], seen => .ok seen
  | e :: r, seen =>
      match normalExtension? e with
      | none => .error .empty
      | some n => addExtensions r (if seen.contains n then seen else seen ++ [n])

/-- The normal forms of extensions, of which there has to be one. -/
def normalExtensions (extensions : List String) : Except ExtensionFault (List String) :=
  match addExtensions extensions [] with
  | .error f => .error f
  | .ok [] => .error .none
  | .ok found => .ok found

/-! ## Problems -/

/-- What is wrong with a value. -/
inductive Problem
  | notAPath (setting : String)
  | scalarsNotAnObject
  | scalarNotText (name : String)
  | extensionsNotAList
  | extensionNotText (index : Nat)
  | extension (fault : ExtensionFault)
  | timeoutNotPositive
  | timeoutMalformed
  | timeoutFractional
  | timeoutInfinite
  | timeoutTooLarge
  | timeoutNotANumber
deriving Repr, BEq, DecidableEq

/-- A step of the way to a setting: its name, or an index in it. -/
inductive Step
  | setting (name : String)
  | index (i : Nat)
deriving Repr, BEq, DecidableEq

namespace Problem

/-- Where the problem is. -/
def location : Problem → List Step
  | .notAPath s => [.setting s]
  | .scalarsNotAnObject => [.setting "scalars"]
  | .scalarNotText n => [.setting "scalars", .setting n]
  | .extensionsNotAList => [.setting "extensions"]
  | .extensionNotText i => [.setting "extensions", .index i]
  | .extension _ => [.setting "extensions"]
  | _ => [.setting "startup_timeout_ms"]

/-- The short name of the kind of problem. -/
def code : Problem → String
  | .notAPath _ => "path_type"
  | .scalarsNotAnObject => "dict_type"
  | .scalarNotText _ => "string_type"
  | .extensionsNotAList => "tuple_type"
  | .extensionNotText _ => "string_type"
  | .extension _ => "value_error"
  | .timeoutNotPositive => "greater_than"
  | .timeoutMalformed => "int_parsing"
  | .timeoutFractional => "int_from_float"
  | .timeoutInfinite => "finite_number"
  | .timeoutTooLarge => "int_parsing_size"
  | .timeoutNotANumber => "int_type"

/-- The wording. -/
def message : Problem → String
  | .notAPath _ => "Input is not a valid path for <class 'pathlib.Path'>"
  | .scalarsNotAnObject => "Input should be a valid dictionary"
  | .scalarNotText _ => "Input should be a valid string"
  | .extensionsNotAList => "Input should be a valid tuple"
  | .extensionNotText _ => "Input should be a valid string"
  | .extension f => "Value error, " ++ f.message
  | .timeoutNotPositive => "Input should be greater than 0"
  | .timeoutMalformed => "Input should be a valid integer, unable to parse string as an integer"
  | .timeoutFractional =>
      "Input should be a valid integer, got a number with a fractional part"
  | .timeoutInfinite => "Input should be a finite number"
  | .timeoutTooLarge => "Unable to parse input string as an integer, exceeded maximum size"
  | .timeoutNotANumber => "Input should be a valid integer"

end Problem

/-- A problem, with the value that has it. -/
structure Violation where
  problem : Problem
  given : Json
deriving Repr, BEq

/-- A setting that is valid, or what is wrong with it. -/
abbrev Validated (α : Type) := Except (List Violation) α

/-! ## Single settings -/

/-- A path is given as text. -/
def pathSetting (name : String) : Json → Validated Path
  | .string s => .ok (Path.ofText s)
  | v => .error [⟨.notAPath name, v⟩]

/-- Scalars are given as an object of texts. -/
def scalarsSetting (v : Json) : Validated (OrderedMap String) :=
  match v.object? with
  | none => .error [⟨.scalarsNotAnObject, v⟩]
  | some members =>
      match members.filter fun p => p.2.string?.isNone with
      | [] => .ok (members.filterMap fun p => p.2.string?.map (p.1, ·))
      | wrong => .error (wrong.map fun p => ⟨.scalarNotText p.1, p.2⟩)

/-- Extensions are given as a list of texts. -/
def extensionsSetting (v : Json) : Validated (List String) :=
  match v.array? with
  | none => .error [⟨.extensionsNotAList, v⟩]
  | some items =>
      match items.zipIdx.filter fun p => p.1.string?.isNone with
      | [] =>
          match normalExtensions (items.filterMap Json.string?) with
          | .ok es => .ok es
          | .error f => .error [⟨.extension f, v⟩]
      | wrong => .error (wrong.map fun p => ⟨.extensionNotText p.2, p.1⟩)

/-- The integer that a binary fraction is. -/
def wholeNumber (negative : Bool) (x : Binary64) : Except Problem Int :=
  match x.whole? with
  | none => .error .timeoutFractional
  | some n =>
      if n < Nat.pow 2 63 then .ok (if negative then -(n : Int) else n) else .error .timeoutTooLarge

/-- The integer that is given as a timeout. -/
def timeoutInteger : Json → Except Problem Int
  | .int n => .ok n
  | .bool b => .ok (if b then 1 else 0)
  | .decimal m e =>
      match Binary64.ofDecimal? m.natAbs e with
      | none => .error .timeoutInfinite
      | some x => wholeNumber (decide (m < 0)) x
  | .nonFinite _ => .error .timeoutInfinite
  | .string s =>
      match readPlainInteger s with
      | .ok n => .ok n
      | .error .malformed => .error .timeoutMalformed
      | .error (.tooManyDigits _) => .error .timeoutTooLarge
  | _ => .error .timeoutNotANumber

/-- A timeout is a positive integer. -/
def timeoutSetting (v : Json) : Validated Int :=
  match timeoutInteger v with
  | .ok n => if 0 < n then .ok n else .error [⟨.timeoutNotPositive, v⟩]
  | .error p => .error [⟨p, v⟩]

/-! ## All settings -/

/-- The value of a setting that is given, or the usual one. -/
def given {α : Type} (settings : OrderedMap Json) (name : String) (usual : α)
    (read : Json → Validated α) : Validated α :=
  match OrderedMap.get? name settings with
  | none => .ok usual
  | some v => read v

/-- What is wrong with a setting. -/
def violations {α : Type} : Validated α → List Violation
  | .ok _ => []
  | .error vs => vs

/-- The usual extensions of query files. -/
def usualExtensions : List String := [".gql", ".graphql"]

/-- The usual timeout, in milliseconds. -/
def usualTimeoutMs : Int := 10000

/-- The configuration that settings describe; the base directory is the working directory unless it
    is given. -/
def ofSettings (cwd : Path) (settings : OrderedMap Json) : Validated Config :=
  let path (name usual : String) : Validated Path :=
    given settings name (Path.ofText usual) (pathSetting name)
  let schema := path "schema_path" "schema.graphql"
  let scalars := given settings "scalars" [] scalarsSetting
  let search := path "search_dir" "src"
  let extensions := given settings "extensions" usualExtensions extensionsSetting
  let virtual := path "virtual_dir" ".gql"
  let base := given settings "base_dir" cwd (pathSetting "base_dir")
  let timeout := given settings "startup_timeout_ms" usualTimeoutMs timeoutSetting
  match schema, scalars, search, extensions, virtual, base, timeout with
  | .ok schema, .ok scalars, .ok search, .ok extensions, .ok virtual, .ok base, .ok timeout =>
      .ok ⟨schema, scalars, search, extensions, virtual, base, timeout⟩
  | _, _, _, _, _, _, _ =>
      .error (violations schema ++ violations scalars ++ violations search ++ violations extensions
        ++ violations virtual ++ violations base ++ violations timeout)

end QueryTypings.Config
