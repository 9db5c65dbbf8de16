/-
  Watching the query files of a project.

  The query files are the files that the patterns of the extensions select from the search directory
  and that the filter for reported files accepts.  They are sorted by the names that lead to them,
  so what is in a directory stays together.

  A watcher that is started has a task.  The task first subscribes to its feed, so that no change
  from then on is missed.  Then it finds the query files that are there and emits an event for each,
  and one that says that this pass is complete.  After that it emits events for the batches of
  changes that the feed reports, until the feed ends or fails.  Events are handed to a handler one
  by one, in the order in which they were emitted; a handler that fails is reported, and nothing
  else happens.  A watcher that is closed stays closed.

  The task goes on in steps, and between two steps events may be handed over.  What a feed reports
  can be read off two sights of a tree, before and after.
-/
import QueryTypings.Config.Filter
import QueryTypings.FileTree.Basic
import QueryTypings.Project.Event
import QueryTypings.Watch.Glob
import QueryTypings.World

namespace QueryTypings.Watch

/-! ## The query files -/

/-- The first list of names comes before the second one, or they are the same. -/
def namesLe : List String → List String → Bool
  | [], _ => true
  | _ :: _, [] => false
  | a :: r, b :: s => if a = b then namesLe r s else decide (a < b)

/-- The path where names lead from a directory. -/
def filePath (directory : Path) (names : List String) : Path :=
  { directory with parts := directory.parts ++ names }

/-- The files of a directory that a pattern selects. -/
def filesOf (w : World) (directory : Path) (pattern : String) :
    Except WatchFault (List (List String)) :=
  match patternParts? pattern, w.isDirectory directory with
  | none, _ => .error .badPattern
  | _, .error r => .error (.unreachable directory r)
  | _, .ok false => .ok []
  | some parts, .ok true =>
      match select w.tree parts ⟨directory.parts, directory.parts⟩ with
      | .error o => .error (.unreachable ⟨.root, o.names⟩ o.refusal)
      | .ok spots =>
          .ok ((spots.filter fun s => (w.tree.octets? s.place).isSome).map fun s => s.names)

/-- The query files in a tree. -/
def scan (w : World) (c : Config) : Except WatchFault (List Path) := do
  let found ← c.globPatterns.mapM (filesOf w (c.resolvedSearch w.cwd))
  let files := (found.flatten.eraseDups.mergeSort namesLe).map (Path.mk .root)
  return files.filter fun p => c.reports? w.cwd p.text == some true

/-! ## The feed -/

/-- How a file changed. -/
inductive Change
  | added | modified | deleted
deriving Repr, BEq, DecidableEq

/-- The kind of event for a change. -/
def Change.eventKind : Change → EventKind
  | .added => .add
  | .modified => .change
  | .deleted => .unlink

/-- A report that the file at a path changed. -/
structure Report where
  change : Change
  path : String
deriving Repr, BEq, DecidableEq

/-- How the reports come to an end: they stop, the system fails, or no more of them come. -/
inductive Ending
  | stops
  | fails (text : String)
  | stays
deriving Repr, BEq, DecidableEq

/-- The batches of reports that will come. -/
structure Feed where
  batches : List (List Report)
  ending : Ending
deriving Repr, BEq

/-- The reports of a batch that matter, each once, sorted by the texts of their paths.  All must be
    judged. -/
def relevant? (cwd : Path) (c : Config) (batch : List Report) : Option (List Report) :=
  (batch.mapM fun r => (c.reports? cwd r.path).map (r, ·)).map fun judged =>
    ((judged.filter fun j => j.2).map fun j => j.1).eraseDups.mergeSort fun a b =>
      decide (a.path ≤ b.path)

/-- The event for a report. -/
def Report.event (r : Report) : Event := ⟨r.change.eventKind, some (Path.ofText r.path), none⟩

/-! ## The watcher -/

/-- What a watcher is doing. -/
inductive State
  | idle | scanning | ready | closed | error
deriving Repr, BEq, DecidableEq

/-- The name of the state. -/
def State.name : State → String
  | .idle => "idle"
  | .scanning => "scanning"
  | .ready => "ready"
  | .closed => "closed"
  | .error => "error"

/-- Where the task of a watcher stands. -/
inductive Task
  /-- There is no task. -/
  | none
  /-- The task has not begun. -/
  | waiting
  /-- The task has subscribed to the feed and not yet looked at the files. -/
  | subscribed
  /-- The task takes batches from the feed. -/
  | listening
  /-- The task has come to its end. -/
  | over
deriving Repr, BEq, DecidableEq

/-- A watcher, with the events that are emitted and not yet handed over. -/
structure Watcher where
  config : Config
  state : State
  isReady : Bool
  task : Task
  pending : List Event
  feed : Feed
deriving Repr, BEq

namespace Watcher

/-- A watcher that has not been started. -/
def fresh (c : Config) (feed : Feed) : Watcher := ⟨c, .idle, false, .none, [], feed⟩

/-- The text of the directory that is watched. -/
def directoryText (cwd : Path) (w : Watcher) : String := (w.config.resolvedSearch cwd).text

/-- Emits events. -/
def emit (w : Watcher) (events : List Event) : Watcher :=
  { w with pending := w.pending ++ events }

/-- Starts a watcher, but none that is closed.  It has no effect on one that has a task or has
    failed. -/
def start (w : Watcher) (world : World) : Except Breakdown (Watcher × World) :=
  if w.state = .closed then .error .closedWatcher
  else if w.task ≠ .none || w.state = .error then .ok (w, world)
  else
    let directory := w.config.resolvedSearch world.cwd
    match world.isDirectory directory with
    | .error r => .error (.unreachable directory r)
    | .ok true =>
        .ok ({ w with task := .waiting },
          world.say .info ("Watcher started for " ++ directory.text))
    | .ok false =>
        .ok ({ w with state := .error }.emit [.failure (.noDirectory directory)],
          world.say .error ("Search directory does not exist: " ++ directory.text))

/-- The task fails. -/
def fail (w : Watcher) (f : WatchFault) (world : World) : Watcher × World :=
  ({ w with state := .error, task := .over }.emit [.failure f],
    world.say .error ("Watcher failed for " ++ w.directoryText world.cwd))

/-- The first step of the task: from here on its feed reports every change. -/
def subscribe (w : Watcher) : Watcher := { w with state := .scanning, task := .subscribed }

/-- The second step of the task: the pass over the query files that are there. -/
def firstPass (w : Watcher) (world : World) : Watcher × World :=
  match scan world w.config with
  | .error f => w.fail f world
  | .ok paths =>
      ({ w with state := .ready, isReady := true, task := .listening }.emit
          (paths.map Event.add ++ [Event.ready]),
        world.say .info ("Found " ++ toString paths.length ++ " query file(s) in "
          ++ w.directoryText world.cwd))

/-- A later step of the task: the next batch that has reports that matter, or the end of the
    feed. -/
def nextBatch (w : Watcher) (world : World) : Watcher × World :=
  match w.feed.batches, w.feed.ending with
  | batch :: rest, _ =>
      let w := { w with feed := { w.feed with batches := rest } }
      match relevant? world.cwd w.config batch with
      | none => w.fail .nulInPath world
      | some reports => (w.emit (reports.map Report.event), world)
  | [], .stops => ({ w with task := .over }, world)
  | [], .fails text => w.fail (.system text) world
  | [], .stays => (w, world)

/-- One step of the task. -/
def advance (w : Watcher) (world : World) : Watcher × World :=
  match w.task with
  | .waiting => (w.subscribe, world)
  | .subscribed => w.firstPass world
  | .listening => w.nextBatch world
  | _ => (w, world)

/-! ## Handing events over -/

/-- What handles events: it has a state of its own and says whether it succeeded. -/
structure Handler (σ : Type) where
  handle : Event → σ → World → Bool × σ × World

/-- Hands one event over. -/
def handOver {σ : Type} (h : Handler σ) (s : σ × World) (e : Event) : σ × World :=
  match h.handle e s.1 s.2 with
  | (true, s, world) => (s, world)
  | (false, s, world) =>
      (s, world.say .error ("Error in watcher callback for " ++ e.pathText))

/-- Hands all emitted events over, in order. -/
def handOverAll {σ : Type} (h : Handler σ) (w : Watcher) (s : σ) (world : World) :
    Watcher × σ × World :=
  ({ w with pending := [] }, w.pending.foldl (handOver h) (s, world))

/-- So many steps of the task, with all events handed over after each. -/
def run {σ : Type} (h : Handler σ) : Nat → Watcher → σ → World → Watcher × σ × World
  | 0, w, s, world => w.handOverAll h s world
  | steps + 1, w, s, world =>
      let (w, s, world) := w.handOverAll h s world
      let (w, world) := w.advance world
      run h steps w s world

/-- Lets the task go on until it waits for reports that do not come, or is over. -/
def settle {σ : Type} (h : Handler σ) (w : Watcher) (s : σ) (world : World) :
    Watcher × σ × World :=
  w.run h (w.feed.batches.length + 3) s world

/-! ## Closing -/

/-- The task ends where it stands. -/
def cancel (w : Watcher) : Watcher := { w with task := .none }

/-- The watcher is closed from here on. -/
def markClosed (w : Watcher) (world : World) : Watcher × World :=
  ({ w with state := .closed },
    world.say .info ("Watcher stopped for " ++ w.directoryText world.cwd))

/-- Closes a watcher: its task is cancelled, the events that are emitted are handed over, and then
    it is closed.  One that is closed stays as it is. -/
def close {σ : Type} (h : Handler σ) (w : Watcher) (s : σ) (world : World) :
    Watcher × σ × World :=
  if w.state = .closed then (w, s, world)
  else
    let (w, s, world) := w.cancel.handOverAll h s world
    let (w, world) := w.markClosed world
    (w, s, world)

end Watcher

/-! ## Changes of a tree -/

/-- How a file changed, by its octets before and after. -/
def changeOf? (before after : Option (List Nat)) : Option Change :=
  match before, after with
  | none, some _ => some .added
  | some _, none => some .deleted
  | some a, some b => if a = b then none else some .modified
  | none, none => none

/-- The reports of the files below a directory that changed from one tree to another. -/
def differences (directory : Path) (before after : FileTree) : List Report :=
  let names := before.filesBelow directory.parts ++ after.filesBelow directory.parts
  names.eraseDups.filterMap fun n =>
    let place := directory.parts ++ n
    (changeOf? (before.octets? place) (after.octets? place)).map fun change =>
      ⟨change, (filePath directory n).text⟩

end QueryTypings.Watch
