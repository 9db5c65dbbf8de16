/-
  A watcher that watches nothing.

  It tells of given files when it is started, and then it is in a given state.  It counts how often
  it is closed.  With it the course of a build can be tried.
-/
import QueryTypings.Project.Plugin

namespace QueryTypings

/-- A watcher with a part to play. -/
structure Rehearsal where
  files : List Path
  outcome : Watch.State
  state : Watch.State
  isReady : Bool
  closings : Nat
deriving Repr, BEq

namespace Rehearsal

/-- Lets the files be handled as new ones, up to a breakdown. -/
def tell (sink : Sink) : List Path → Progress World → Except Breakdown Unit × Progress World
  | [], p => (.ok (), p)
  | file :: rest, p =>
      let h := dispatch sink (Event.add file) p.counts p.world
      match h.outcome with
      | .ok _ => tell sink rest ⟨h.counts, h.world⟩
      | .error b => (.error b, ⟨h.counts, h.world⟩)

/-- Tells of the files and takes on the state. -/
def start (sink : Sink) (r : Rehearsal) (p : Progress World) :
    Except Breakdown Unit × Rehearsal × Progress World :=
  match tell sink r.files p with
  | (.ok (), p) => (.ok (), { r with state := r.outcome, isReady := r.outcome == .ready }, p)
  | (.error b, p) => (.error b, r, p)

/-- The watcher as a build uses it. -/
def watching (files : List Path) (outcome : Watch.State) : Watching Rehearsal where
  make _ world := (some ⟨files, outcome, .idle, false, 0⟩, world)
  start := start
  settle _ r p := (r, p)
  close _ r p := ({ r with state := .closed, closings := r.closings + 1 }, p)
  state r := r.state
  isReady r := r.isReady

end Rehearsal

end QueryTypings
