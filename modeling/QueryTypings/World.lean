/-
  What a run acts on: a tree of files, seen from a working directory, and the reports so far, which
  are what it tells besides its results.
-/
import QueryTypings.FileTree.Change

namespace QueryTypings

/-! ## Reports -/

/-- How much a report matters. -/
inductive Level
  | debug | info | warning | error
deriving Repr, BEq, DecidableEq

/-- The name of the level. -/
def Level.name : Level → String
  | .debug => "DEBUG"
  | .info => "INFO"
  | .warning => "WARNING"
  | .error => "ERROR"

/-- A report. -/
structure LogLine where
  level : Level
  message : String
deriving Repr, BEq, DecidableEq

/-- The level and the message. -/
def LogLine.text (l : LogLine) : String := l.level.name ++ " " ++ l.message

/-! ## Worlds -/

/-- The tree, the working directory and the reports, the first one first. -/
structure World where
  cwd : Path
  tree : FileTree
  log : List LogLine
deriving Repr, BEq

namespace World

/-- Adds a report. -/
def say (w : World) (level : Level) (message : String) : World :=
  { w with log := w.log ++ [⟨level, message⟩] }

/-- The names that a path follows from the root. -/
def names (w : World) (p : Path) : List String := (w.cwd.join p).parts

/-- What is there where a path leads. -/
def lookUp (w : World) (p : Path) : Except Refusal Entry :=
  if FileTree.isTooLongPath p.text then .error .nameTooLong
  else match w.tree.follow [] (w.names p) with
    | .error r => .error r
    | .ok place => w.tree.entryAt place

/-- The octets of the file that a path leads to. -/
def read (w : World) (p : Path) : Except Refusal (List Nat) :=
  match w.lookUp p with
  | .error r => .error r
  | .ok .directory => .error .isDirectory
  | .ok (.file octets) => .ok octets

/-- Whether a path leads to a directory. -/
def isDirectory (w : World) (p : Path) : Except Refusal Bool :=
  match w.lookUp p with
  | .ok e => .ok (e == .directory)
  | .error r => if r.isAbsence then .ok false else .error r

end World

end QueryTypings
