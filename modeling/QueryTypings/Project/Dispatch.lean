/-
  Handling events.

  An event about a query file lets its declaration be written or removed.  A fault of the file is
  counted and reported, and it is the outcome; a breakdown goes up and counts nothing.
-/
import QueryTypings.Project.Event
import QueryTypings.Project.Writer

namespace QueryTypings

/-- What can be done with the declaration of a query file. -/
structure Sink where
  write : World → String → Except Failure Path × World
  remove : World → String → Except Failure Bool × World

/-- The declarations of a writer. -/
def Writer.sink (w : Writer) : Sink := ⟨w.write, w.remove⟩

/-- How many declarations were written and removed, and how many events failed. -/
structure Counts where
  generated : Nat
  removed : Nat
  failed : Nat
deriving Repr, BEq, DecidableEq

namespace Counts

/-- Nothing has happened. -/
def zero : Counts := ⟨0, 0, 0⟩

/-- A declaration was written. -/
def written (c : Counts) : Counts := { c with generated := c.generated + 1 }

/-- A removal was successful; it counts if there was something to remove. -/
def cleared (c : Counts) (there : Bool) : Counts :=
  if there then { c with removed := c.removed + 1 } else c

/-- An event failed. -/
def missed (c : Counts) : Counts := { c with failed := c.failed + 1 }

end Counts

/-- What handling an event yields. -/
structure Handled where
  outcome : Except Breakdown Outcome
  counts : Counts
  world : World

namespace Dispatch

/-- A fault of a query file becomes the outcome of its event. -/
def failed (e : Event) (f : FileFault) (counts : Counts) (world : World) : Handled :=
  ⟨.ok ⟨e.kind, e.path, none, some (.file f)⟩, counts.missed,
    world.say .warning ("Failed to update types for " ++ e.pathText ++ ": " ++ f.message)⟩

/-- A query file came or changed. -/
def onWrite (sink : Sink) (e : Event) (p : Path) (counts : Counts) (world : World) : Handled :=
  match sink.write world p.text with
  | (.ok artifact, world) => ⟨.ok ⟨e.kind, e.path, some artifact, none⟩, counts.written, world⟩
  | (.error (.reported f), world) => failed e f counts world
  | (.error (.broken b), world) => ⟨.error b, counts, world⟩

/-- A query file went. -/
def onUnlink (sink : Sink) (e : Event) (p : Path) (counts : Counts) (world : World) : Handled :=
  match sink.remove world p.text with
  | (.ok there, world) => ⟨.ok ⟨e.kind, e.path, none, none⟩, counts.cleared there, world⟩
  | (.error (.reported f), world) => failed e f counts world
  | (.error (.broken b), world) => ⟨.error b, counts, world⟩

/-- The first pass is complete. -/
def onReady (e : Event) (counts : Counts) (world : World) : Handled :=
  ⟨.ok ⟨e.kind, none, none, none⟩, counts,
    world.say .info ("Initial scan complete (" ++ toString counts.generated ++ " generated, "
      ++ toString counts.failed ++ " failed so far)")⟩

/-- The watcher failed. -/
def onError (e : Event) (counts : Counts) (world : World) : Handled :=
  let shown := (e.fault.map WatchFault.message).getD "None"
  ⟨.ok ⟨e.kind, e.path, none, e.fault.map fun f => .watch f.contained⟩, counts,
    world.say .error ("File watcher error: " ++ shown)⟩

end Dispatch

/-- Handles an event. -/
def dispatch (sink : Sink) (e : Event) (counts : Counts) (world : World) : Handled :=
  match e.kind, e.path with
  | .ready, _ => Dispatch.onReady e counts world
  | .error, _ => Dispatch.onError e counts world
  | _, none => ⟨.error .noPath, counts, world⟩
  | .unlink, some p => Dispatch.onUnlink sink e p counts world
  | _, some p => Dispatch.onWrite sink e p counts world

end QueryTypings
