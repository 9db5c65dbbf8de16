/-
  Events that are handled at the same time.

  The calls of a writer take turns.  A call that has to wait lets the others go on, and in its next
  turn it finds what they have left.  In the turn in which a call returns, its answer is counted, and
  it becomes the outcome of the event; nothing comes in between.

  What the outcome is, what is counted and what is reported is what `dispatch` says.
-/
import QueryTypings.Project.Dispatch

namespace QueryTypings.Concurrent

/-! ## Computations in turns -/

/-- A computation over what it shares with others.  It has returned, or it waits for its next turn:
    what the turn leaves, and how the computation goes on, depends on what the turn finds. -/
inductive Routine (S α : Type) where
  | returned (answer : α)
  | waiting (leaves : S → S) (next : S → Routine S α)

namespace Routine

variable {S α β : Type}

/-- One turn. -/
def turn : Routine S α → S → Routine S α × S
  | .returned a, s => (.returned a, s)
  | .waiting leaves next, s => (next s, leaves s)

/-- All turns, while nobody else goes on. -/
def finish : Routine S α → S → α × S
  | .returned a, s => (a, s)
  | .waiting leaves next, s => (next s).finish (leaves s)

/-- The answer is seen as another value. -/
def map (f : α → β) : Routine S α → Routine S β
  | .returned a => .returned (f a)
  | .waiting leaves next => .waiting leaves fun s => (next s).map f

end Routine

/-! ## Calls of a writer -/

variable {σ : Type}

/-- A writer whose operations take turns.  They share the world, and what the writer keeps for
    itself. -/
structure Workshop (σ : Type) where
  write : String → Routine (σ × World) (Except FileFault Path)
  remove : String → Routine (σ × World) (Except FileFault Bool)

/-- What a call has answered. -/
inductive Answer
  | written (result : Except FileFault Path)
  | removed (result : Except FileFault Bool)
  /-- There was nothing to call for. -/
  | idle

/-- The call for an event. -/
def Workshop.call (shop : Workshop σ) (e : Event) : Routine (σ × World) Answer :=
  match e.kind, e.path with
  | .add, some p | .change, some p => (shop.write p.text).map .written
  | .unlink, some p => (shop.remove p.text).map .removed
  | _, _ => .returned .idle

/-- A writer that has just given an answer. -/
def Answer.sink (a : Answer) : Sink where
  write world _ := match a with
    | .written r => (r.mapError .reported, world)
    | _ => (.error (.broken .noPath), world)
  remove world _ := match a with
    | .removed r => (r.mapError .reported, world)
    | _ => (.error (.broken .noPath), world)

/-- A writer that nobody else interrupts. -/
def Workshop.sink (shop : Workshop σ) (shared : σ) : Sink where
  write world source :=
    let (r, _, world) := (shop.write source).finish (shared, world)
    (r.mapError .reported, world)
  remove world source :=
    let (r, _, world) := (shop.remove source).finish (shared, world)
    (r.mapError .reported, world)

/-! ## Events -/

/-- The handling of an event goes on, or it has come to an end. -/
inductive Stage (σ : Type)
  | underWay (call : Routine (σ × World) Answer)
  | handled (answer : Answer) (outcome : Except Breakdown Outcome)

/-- An event, and how far its handling is. -/
structure Task (σ : Type) where
  event : Event
  stage : Stage σ

/-- Events that are handled at the same time, and what has come of them so far. -/
structure Pool (σ : Type) where
  tasks : List (Task σ)
  counts : Counts
  shared : σ
  world : World

namespace Pool

/-- Nothing is counted yet, and every event waits for its first turn. -/
def start (shop : Workshop σ) (events : List Event) (shared : σ) (world : World) : Pool σ :=
  ⟨events.map fun e => ⟨e, .underWay (shop.call e)⟩, .zero, shared, world⟩

/-- The call for an event goes on.  If it returns, then the event is handled as its answer says. -/
def resume (p : Pool σ) (i : Nat) (e : Event) (call : Routine (σ × World) Answer) : Pool σ :=
  match call.turn (p.shared, p.world) with
  | (.returned answer, shared, world) =>
      let h := dispatch answer.sink e p.counts world
      ⟨p.tasks.set i ⟨e, .handled answer h.outcome⟩, h.counts, shared, h.world⟩
  | (call, shared, world) => ⟨p.tasks.set i ⟨e, .underWay call⟩, p.counts, shared, world⟩

/-- It is an event's turn.  An event that is handled lets it pass. -/
def turn (p : Pool σ) (i : Nat) : Pool σ :=
  match p.tasks[i]? with
  | some ⟨e, .underWay call⟩ => p.resume i e call
  | _ => p

/-- The first turns of a schedule, which says at any time whose turn it is. -/
def after (p : Pool σ) (schedule : Nat → Nat) : Nat → Pool σ
  | 0 => p
  | n + 1 => (p.turn (schedule 0)).after (fun k => schedule (k + 1)) n

end Pool

end QueryTypings.Concurrent
