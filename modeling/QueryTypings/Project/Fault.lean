/-
  What goes wrong in a project.

  A schema that cannot be loaded, or a directory for declarations that cannot be made, ends a run
  before it begins.  A fault of one query file is reported, and the run goes on.  A breakdown is
  neither: nobody expects it, and it goes up to whoever asked.
-/
import QueryTypings.Check.Accepted
import QueryTypings.FileTree.Basic
import QueryTypings.Path.Artifact
import QueryTypings.Schema.Load
import QueryTypings.Shape.Object
import QueryTypings.Text.Quoted
import QueryTypings.Watch.Barrier

namespace QueryTypings

open QueryTypings.Text

/-! ## One query file -/

/-- A fault of one query file. -/
inductive FileFault
  /-- The path has no counterpart among the declarations. -/
  | path (fault : Path.Fault)
  /-- The text is no document that the schema can answer. -/
  | query (messages : List String) (source : Option Path)
  | unreadable (file : Path) (refusal : Refusal)
  | undecodable (file : Path) (error : Utf8Error)
  | unwritable (artifact : Path) (refusal : Refusal)
  | unremovable (artifact : Path) (refusal : Refusal)
deriving Repr, BEq

/-- The wording. -/
def FileFault.message : FileFault → String
  | .path f => f.message
  | .query messages _ => joinWith "; " messages
  | .unreadable p r => "Cannot read query file (" ++ r.reason ++ "): " ++ p.text
  | .undecodable p e => "Query file is not valid UTF-8 (" ++ e.fault.message ++ "): " ++ p.text
  | .unwritable p r => "Cannot write declaration (" ++ r.reason ++ "): " ++ p.text
  | .unremovable p r => "Cannot remove declaration (" ++ r.reason ++ "): " ++ p.text

/-- What nobody expects. -/
inductive Breakdown
  /-- An event that is about a file names none. -/
  | noPath
  /-- A path holds a character that no path of the system can hold. -/
  | nulInPath
  /-- The system refuses to tell what is at a place. -/
  | unreachable (file : Path) (refusal : Refusal)
  /-- A file that must be UTF-8 is not. -/
  | undecodable (error : Utf8Error)
  /-- A schema or a query cannot be examined to the end. -/
  | obstructed (text : String) (obstacle : Schema.Obstacle)
  /-- A watcher that is closed is to start again. -/
  | closedWatcher
  /-- The first pass is to be awaited for too long a time. -/
  | immeasurableWait
  /-- Selections that passed the check have no type. -/
  | shape (fault : Shape.Fault)
deriving Repr, BEq

/-- The wording, where there is one. -/
def Breakdown.message : Breakdown → String
  | .nulInPath => "embedded null byte"
  | .unreachable p r => r.report (quoted p.text)
  | .undecodable e => e.message
  | .obstructed text o => o.messageIn text
  | .closedWatcher => "Cannot restart a closed watcher"
  | .immeasurableWait => Watch.WaitFault.immeasurable.message
  | _ => ""

/-- Why an operation on a query file gives no result. -/
inductive Failure
  | reported (fault : FileFault)
  | broken (breakdown : Breakdown)
deriving Repr, BEq

/-- What a fault of a query's text is to the file that holds it. -/
def Failure.ofQuery (f : Check.QueryFault) (source : Option Path) : Failure :=
  match f with
  | .refused messages => .reported (.query messages source)
  | .obstructed text o => .broken (.obstructed text o)

/-! ## The beginning of a run -/

/-- Why a schema is not loaded. -/
inductive SchemaFault
  | unreadable (file : Path) (refusal : Refusal)
  | invalid (file : Path) (fault : Schema.TextFault)
  | broken (breakdown : Breakdown)

/-- The wording. -/
def SchemaFault.message : SchemaFault → String
  | .unreadable p r => "Cannot read GraphQL schema " ++ p.text ++ ": " ++ r.report (quoted p.text)
  | .invalid p f => "Invalid GraphQL schema " ++ p.text ++ ": " ++ f.message
  | .broken b => b.message

/-- Why there is no directory for declarations. -/
inductive RootFault
  /-- The directory would be emptied, and it holds something that must stay. -/
  | holds (root kept : Path)
  /-- The system refuses; the subject is shown as the system shows it. -/
  | refused (root : Path) (refusal : Refusal) (subject : String)
deriving Repr, BEq

/-- The wording. -/
def RootFault.message : RootFault → String
  | .holds root kept =>
      "Refusing to recreate virtual directory " ++ root.text ++ ": it contains " ++ kept.text
  | .refused root r subject =>
      "Cannot create virtual directory " ++ root.text ++ ": " ++ r.report subject

/-- Why a run does not begin. -/
inductive StartFault
  | schema (fault : SchemaFault)
  | root (fault : RootFault)
  | broken (breakdown : Breakdown)

/-- The wording. -/
def StartFault.message : StartFault → String
  | .schema f => f.message
  | .root f => f.message
  | .broken b => b.message

/-- The breakdown that keeps a run from beginning.  Other faults are reported as a failure to
    begin. -/
def StartFault.breakdown? : StartFault → Option Breakdown
  | .schema (.broken b) => some b
  | .broken b => some b
  | _ => none

end QueryTypings
