/-
  A watcher among the other tasks of a program.

  Calls of a watcher's start and close, its task and the calls of its handler take turns: each goes
  on until it has to wait, and then any of the others may go on.  A start never waits.  A close waits
  twice: for the end of the task that it has cancelled, and for the calls of the handler that are
  under way then.  In between it lets the task go, and only in the end it marks the watcher as
  closed.  Between any two turns files may change.

  What a task does in its turn is what `Watcher.advance` says, and what a start does is what
  `Watcher.start` says; here is what they share and how turns follow each other.
-/
import QueryTypings.Watch.Watcher

namespace QueryTypings.Watch

/-- Where the call of the handler for an event stands. -/
inductive CallStage
  /-- It has not begun. -/
  | waiting
  /-- The handler is at work. -/
  | running
  | over
deriving Repr, BEq, DecidableEq

/-- An event that was emitted, and the call of the handler for it. -/
structure Call where
  event : Event
  stage : CallStage
deriving Repr, BEq, DecidableEq

/-- A task that a start has made. -/
structure Job where
  stage : Task
  feed : Feed
  isCancelled : Bool
deriving Repr, BEq

/-- A task may go on: it is not over, and if it is cancelled, then its feed has kept this to
    itself. -/
def Job.GoesOn (job : Job) : Prop :=
  job.stage ≠ .over ∧ (job.isCancelled = false ∨ job.stage = .listening)

instance (job : Job) : Decidable job.GoesOn := inferInstanceAs (Decidable (_ ∧ _))

/-- What a close that is under way waits for. -/
inductive Closing
  /-- The end of a task. -/
  | task (k : Nat)
  /-- The end of calls of the handler. -/
  | calls (ids : List Nat)
deriving Repr, BEq, DecidableEq

/-- A watcher with all that was started for it: tasks and calls keep their numbers. -/
structure Loop where
  world : World
  config : Config
  state : State
  isReady : Bool
  /-- The number of the task that the watcher holds. -/
  held : Option Nat
  jobs : List Job
  calls : List Call
  /-- The numbers of the calls of the handler, in the order in which they began. -/
  begun : List Nat
  closings : List Closing
  /-- Some close has returned. -/
  isReturned : Bool
deriving Repr, BEq

/-- A turn. -/
inductive Move
  /-- Others change files and report. -/
  | edit (t : FileTree) (log : List LogLine)
  /-- A start is called; the feed is that of the task, if it makes one. -/
  | start (feed : Feed)
  /-- A close is called. -/
  | close
  /-- A close that is under way goes on. -/
  | resume (number : Nat)
  /-- A task goes on. -/
  | step (k : Nat)
  /-- A task that is cancelled comes to its end; where it listens, its feed may fail. -/
  | stop (k : Nat) (fault : Option WatchFault)
  /-- The handler is called for an event. -/
  | call (i : Nat)
  /-- The handler is done with an event, and succeeded or not. -/
  | finish (i : Nat) (good : Bool)

namespace Loop

/-- A watcher that has not been started. -/
def fresh (c : Config) (world : World) : Loop where
  world := world
  config := c
  state := .idle
  isReady := false
  held := none
  jobs := []
  calls := []
  begun := []
  closings := []
  isReturned := false

/-- The events that were emitted, the first one first. -/
def events (l : Loop) : List Event := l.calls.map Call.event

/-- The watcher, as a task or a start sees it. -/
def watcher (l : Loop) (stage : Task) (feed : Feed) : Watcher :=
  ⟨l.config, l.state, l.isReady, stage, [], feed⟩

/-- What a task or a start has done to the watcher becomes that of the loop: the events that it
    emits are to be handed over. -/
def adopt (l : Loop) (w : Watcher) (world : World) : Loop :=
  { l with
    world := world
    state := w.state
    isReady := w.isReady
    calls := l.calls ++ w.pending.map fun e => ⟨e, .waiting⟩ }

/-! ## Start -/

/-- Starts the watcher.  It only matters whether the watcher holds a task, not where that stands. -/
def start (l : Loop) (feed : Feed) : Except Breakdown Loop := do
  let stage := if l.held = none then .none else .waiting
  let (w, world) ← (l.watcher stage feed).start l.world
  let l' := l.adopt w world
  return if l.held = none ∧ w.task = .waiting then
    { l' with held := some l.jobs.length, jobs := l.jobs ++ [⟨.waiting, feed, false⟩] }
  else l'

/-- What a start leaves, even if it is refused. -/
def started (l : Loop) (feed : Feed) : Loop :=
  match l.start feed with
  | .ok l' => l'
  | .error _ => l

/-! ## The task -/

/-- A task has done what it has done in its turn. -/
def settleJob (l : Loop) (k : Nat) (job : Job) (r : Watcher × World) : Loop :=
  { l.adopt r.1 r.2 with jobs := l.jobs.set k { job with stage := r.1.task, feed := r.1.feed } }

/-- A task goes on. -/
def step? (l : Loop) (k : Nat) : Option Loop :=
  match l.jobs[k]? with
  | none => none
  | some job =>
      if job.GoesOn then some (l.settleJob k job ((l.watcher job.stage job.feed).advance l.world))
      else none

/-- A cancelled task comes to its end. -/
def stop? (l : Loop) (k : Nat) (fault : Option WatchFault) : Option Loop :=
  match l.jobs[k]? with
  | none => none
  | some job =>
      if job.isCancelled = true ∧ job.stage ≠ .over then
        let w := l.watcher job.stage job.feed
        match fault with
        | none => some (l.settleJob k job ({ w with task := .over }, l.world))
        | some f =>
            if job.stage = .listening then some (l.settleJob k job (w.fail f l.world)) else none
      else none

/-! ## Handing events over -/

/-- The handler is called. -/
def call? (l : Loop) (i : Nat) : Option Loop :=
  match l.calls[i]? with
  | some ⟨e, .waiting⟩ => some { l with calls := l.calls.set i ⟨e, .running⟩, begun := l.begun ++ [i] }
  | _ => none

/-- The handler is done; that it has failed is reported, and nothing else happens. -/
def finish? (l : Loop) (i : Nat) (good : Bool) : Option Loop :=
  match l.calls[i]? with
  | some ⟨e, .running⟩ =>
      let world := if good then l.world
        else l.world.say .error ("Error in watcher callback for " ++ e.pathText)
      some { l with calls := l.calls.set i ⟨e, .over⟩, world := world }
  | _ => none

/-- The numbers of the calls that are not over. -/
def unfinished (l : Loop) : List Nat :=
  (List.range l.calls.length).filter fun i => (l.calls[i]?).any fun d => d.stage ≠ .over

/-! ## Close -/

/-- The tasks, when one of them has been cancelled. -/
def cancelled (l : Loop) (k : Nat) : List Job :=
  l.jobs.mapIdx fun i job => if i = k then { job with isCancelled := true } else job

/-- Close is called.  On a closed watcher it returns at once. -/
def close (l : Loop) : Loop :=
  if l.state = .closed then { l with isReturned := true }
  else match l.held with
    | some k => { l with jobs := l.cancelled k, closings := l.closings ++ [.task k] }
    | none => { l with closings := l.closings ++ [.calls l.unfinished] }

/-- A close that is under way goes on, if what it waits for is over: it lets the task go, or marks
    the watcher as closed and returns. -/
def resume? (l : Loop) (number : Nat) : Option Loop :=
  match l.closings[number]? with
  | none => none
  | some (.task k) =>
      if (l.jobs[k]?).any fun job => job.stage = .over then
        some { l with held := none, closings := l.closings.set number (.calls l.unfinished) }
      else none
  | some (.calls ids) =>
      if ids.all fun i => (l.calls[i]?).all fun d => d.stage = .over then
        let r := (l.watcher .none ⟨[], .stays⟩).markClosed l.world
        some { l.adopt r.1 r.2 with closings := l.closings.eraseIdx number, isReturned := true }
      else none

/-! ## Turns -/

/-- What a turn leaves, if it can be taken. -/
def go? (l : Loop) : Move → Option Loop
  | .edit t log => some { l with world := { l.world with tree := t, log := log } }
  | .start feed => some (l.started feed)
  | .close => some l.close
  | .resume number => l.resume? number
  | .step k => l.step? k
  | .stop k fault => l.stop? k fault
  | .call i => l.call? i
  | .finish i good => l.finish? i good

/-- What turns leave that are taken one after the other, if each can be taken and is admitted. -/
def run? (admits : Loop → Move → Bool) (l : Loop) : List Move → Option Loop
  | [] => some l
  | m :: moves => if admits l m then (l.go? m).bind fun l' => run? admits l' moves else none

/-- Any turn is admitted. -/
def anyhow (_ : Loop) (_ : Move) : Bool := true

/-- Calls of start and close are admitted unless a close is under way. -/
def apart (l : Loop) : Move → Bool
  | .start _ | .close => l.closings.isEmpty
  | _ => true

/-- A start is admitted unless it makes a task while a close is under way. -/
def timely (l : Loop) : Move → Bool
  | .start feed => l.closings.isEmpty || (l.started feed).jobs.length == l.jobs.length
  | _ => true

end Loop

end QueryTypings.Watch
