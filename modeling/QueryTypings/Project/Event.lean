/-
  What a watcher tells, and what comes of it.
-/
import QueryTypings.Project.Fault

namespace QueryTypings

/-- What an event is about. -/
inductive EventKind
  | add | change | unlink | ready | error
deriving Repr, BEq, DecidableEq

/-- The name of the kind. -/
def EventKind.name : EventKind → String
  | .add => "add"
  | .change => "change"
  | .unlink => "unlink"
  | .ready => "ready"
  | .error => "error"

/-- Why a watcher fails. -/
inductive WatchFault
  /-- There is no directory to be watched. -/
  | noDirectory (directory : Path)
  /-- A pattern for query files is none. -/
  | badPattern
  /-- A reported path holds a character that no path of the system can hold. -/
  | nulInPath
  /-- The system refuses to tell what is at a place. -/
  | unreachable (file : Path) (refusal : Refusal)
  | system (text : String)
  | program (text : String)
  /-- Somebody wants the run to end. -/
  | interruption (text : String)
deriving Repr, BEq, DecidableEq

/-- The wording. -/
def WatchFault.message : WatchFault → String
  | .noDirectory d => d.text
  | .badPattern => "Invalid pattern: '**' can only be an entire path component"
  | .nulInPath => Breakdown.nulInPath.message
  | .unreachable p r => (Breakdown.unreachable p r).message
  | .system s => s
  | .program s => s
  | .interruption s => s

/-- The fault as an outcome shows it: what ends a run counts as a fault of the program. -/
def WatchFault.contained : WatchFault → WatchFault
  | .interruption s => .program s
  | f => f

/-- An event: a query file came, changed or went, the first pass is complete, or the watcher
    failed. -/
structure Event where
  kind : EventKind
  path : Option Path
  fault : Option WatchFault
deriving Repr, BEq, DecidableEq

namespace Event

/-- A query file that is there. -/
def add (p : Path) : Event := ⟨.add, some p, none⟩

/-- The first pass is complete. -/
def ready : Event := ⟨.ready, none, none⟩

/-- The watcher failed. -/
def failure (f : WatchFault) : Event := ⟨.error, none, some f⟩

/-- How a report shows the path. -/
def pathText (e : Event) : String :=
  match e.path with
  | some p => p.text
  | none => "None"

end Event

/-- The error of an outcome: a fault of the query file, or of the watcher. -/
inductive OutcomeFault
  | file (fault : FileFault)
  | watch (fault : WatchFault)
deriving Repr, BEq

/-- The wording. -/
def OutcomeFault.message : OutcomeFault → String
  | .file f => f.message
  | .watch f => f.message

/-- What came of an event. -/
structure Outcome where
  kind : EventKind
  source : Option Path
  artifact : Option Path
  fault : Option OutcomeFault
deriving Repr, BEq

/-- Nothing went wrong. -/
def Outcome.isGood (o : Outcome) : Bool := o.fault.isNone

end QueryTypings
