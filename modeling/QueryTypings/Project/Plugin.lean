/-
  A build that keeps declarations up to date.

  At its beginning a build loads the schema, makes the directory for declarations anew and starts a
  watcher.  While it goes on, query files that are imported become script modules.  At its end it
  waits for the first pass, no longer than is allowed, and closes the watcher in any case, even if
  the wait breaks down.  A build that begins again closes the watcher of the time before.

  The watcher is whatever answers as a `Port` says.  A build does not know either what surrounds it:
  that is the world, or anything else in which it can prepare for a run and report.
-/
import QueryTypings.Project.Dispatch
import QueryTypings.Project.Prepare
import QueryTypings.Watch.Watcher

namespace QueryTypings

/-! ## Watchers -/

/-- What handling events has come to: how many there were of each kind, and the world. -/
structure Progress (σ : Type) where
  counts : Counts
  world : σ

/-- What a build needs of a watcher.  Events go to a sink. -/
structure Port (σ W : Type) where
  /-- A watcher for a configuration, if one can be had. -/
  make : Config → σ → Option W × σ
  start : Sink → W → Progress σ → Except Breakdown Unit × W × Progress σ
  /-- What happens while the build waits. -/
  settle : Sink → W → Progress σ → W × Progress σ
  close : Sink → W → Progress σ → W × Progress σ
  state : W → Watch.State
  isReady : W → Bool

/-- What a build needs of watchers in the world. -/
abbrev Watching (W : Type) := Port World W

/-- Handles an event of a watcher: a breakdown is the handler's failure. -/
def Sink.handler (sink : Sink) : Watch.Watcher.Handler Counts where
  handle e counts world :=
    let h := dispatch sink e counts world
    (h.outcome.isOk, h.counts, h.world)

/-- The watcher of query files, with a given feed. -/
def Watch.Watcher.watching (feed : Watch.Feed) : Watching Watch.Watcher where
  make c world := (some (.fresh c feed), world)
  start _ w p :=
    match w.start p.world with
    | .ok (w, world) => (.ok (), w, { p with world := world })
    | .error b => (.error b, w, p)
  settle sink w p :=
    let (w, counts, world) := w.settle sink.handler p.counts p.world
    (w, ⟨counts, world⟩)
  close sink w p :=
    let (w, counts, world) := w.close sink.handler p.counts p.world
    (w, ⟨counts, world⟩)
  state w := w.state
  isReady w := w.isReady

/-! ## Builds -/

/-- What a build does to what surrounds it, besides watching. -/
class Surroundings (σ : Type) where
  /-- The schema is loaded and the directory for declarations is made. -/
  prepare : Config → σ → Except StartFault Writer × σ
  say : σ → Level → String → σ

/-- What a build that has begun works with. -/
structure Activity where
  writer : Writer
  counts : Counts

/-- A build; it may not have begun, and it may have no watcher. -/
structure Plugin (W : Type) where
  config : Config
  activity : Option Activity
  watcher : Option W

/-- Why a build does not begin. -/
inductive BuildFault
  | start (fault : StartFault)
  | noWatcher
  | broken (breakdown : Breakdown)

/-- Why a file is not transformed. -/
inductive TransformFault
  | beforeStart
  | query (failure : Failure)

/-- The wording for a build that has not begun. -/
def TransformFault.beforeStartMessage : String := "transform called before build_start"

namespace Plugin

variable {σ W : Type}

/-- The name under which a build tool knows it. -/
def name : String := "typed-gql"

/-- A build that has not begun. -/
def fresh (c : Config) : Plugin W := ⟨c, none, none⟩

/-- The watcher is closed, and its last events are handled. -/
def closeWatcher (ops : Port σ W) (p : Plugin W) (world : σ) : Plugin W × σ :=
  match p.watcher, p.activity with
  | some w, some a =>
      let (w, after) := ops.close a.writer.sink w ⟨a.counts, world⟩
      let a := { a with counts := after.counts }
      ({ p with watcher := some w, activity := some a }, after.world)
  | _, _ => (p, world)

/-- The schema is loaded and the directory for declarations is made. -/
def prepare (c : Config) (world : World) : Except StartFault Writer × World :=
  let schemaPath := c.resolvedSchema world.cwd
  if c.baseDir.hasNul || c.schemaPath.hasNul then (.error (.broken .nulInPath), world)
  else match loadSchema world schemaPath with
  | .error f => (.error (.schema f), world)
  | .ok s =>
      if c.searchDir.hasNul then (.error (.broken .nulInPath), world)
      else Writer.prepare s c.scalars (c.resolvedBase world.cwd) c.virtualDir
        [schemaPath, c.resolvedSearch world.cwd] world

instance : Surroundings World := ⟨prepare, World.say⟩

@[simp] theorem prepare_world (c : Config) (world : World) :
    Surroundings.prepare c world = prepare c world := rfl

@[simp] theorem say_world (world : World) (level : Level) (message : String) :
    Surroundings.say world level message = world.say level message := rfl

/-- The build has a watcher, and starts it. -/
def launch (ops : Port σ W) (c : Config) (writer : Writer) (w : W) (world : σ) :
    Except BuildFault Unit × Plugin W × σ :=
  let (result, w, after) := ops.start writer.sink w ⟨.zero, world⟩
  (result.mapError .broken, ⟨c, some ⟨writer, after.counts⟩, some w⟩, after.world)

/-- The build begins. -/
def buildStart [Surroundings σ] (ops : Port σ W) (p : Plugin W) (world : σ) :
    Except BuildFault Unit × Plugin W × σ :=
  let (p, world) := p.closeWatcher ops world
  let p := { p with watcher := none }
  match Surroundings.prepare p.config world with
  | (.error f, world) => (.error (.start f), p, world)
  | (.ok writer, world) =>
      match ops.make p.config world with
      | (none, world) => (.error .noWatcher, { p with activity := some ⟨writer, .zero⟩ }, world)
      | (some w, world) => launch ops p.config writer w world

/-- The script module of a file that is imported, if it is a query file. -/
def transform (p : Plugin W) (code id : String) : Except TransformFault (Option String) :=
  if !p.config.hasExtension (Path.ofText id) then .ok none
  else match p.activity with
    | none => .error .beforeStart
    | some a => (a.writer.script code).map some |>.mapError .query

/-- The build goes on while the watcher's first pass is under way. -/
def await (ops : Port σ W) (p : Plugin W) (world : σ) : Plugin W × σ :=
  match p.watcher, p.activity with
  | some w, some a =>
      let (w, after) := ops.settle a.writer.sink w ⟨a.counts, world⟩
      let a := { a with counts := after.counts }
      ({ p with watcher := some w, activity := some a }, after.world)
  | _, _ => (p, world)

/-- What is reported if the first pass is not complete in time. -/
def lateMessage (timeoutMs : Int) : String :=
  Watch.WaitFault.late.message ++ " after " ++ toString timeoutMs ++ " ms; continuing"

/-- The first pass is awaited, unless the watcher has failed. -/
def awaitFirstPass [Surroundings σ] (ops : Port σ W) (p : Plugin W) (world : σ) :
    Except Breakdown Unit × Plugin W × σ :=
  let timeout := p.config.startupTimeoutMs
  match p.watcher.map ops.state with
  | none => (.ok (), p, world)
  | some .error =>
      (.ok (), p,
        Surroundings.say world .warning "File watcher failed before the initial scan completed")
  | some _ =>
      let (p, world) := if Watch.isMeasurable timeout then p.await ops world else (p, world)
      let complete := (p.watcher.map ops.isReady).getD false
      match Watch.awaitFirstPass complete timeout with
      | .ok () => (.ok (), p, world)
      | .error .late => (.ok (), p, Surroundings.say world .warning (lateMessage timeout))
      | .error .immeasurable => (.error .immeasurableWait, p, world)

/-- The build ends. -/
def buildEnd [Surroundings σ] (ops : Port σ W) (p : Plugin W) (world : σ) :
    Except Breakdown Unit × Plugin W × σ :=
  let (result, p, world) := p.awaitFirstPass ops world
  (result, p.closeWatcher ops world)

/-- A build from its beginning to its end, whatever is done in between. -/
def session {α : Type} [Surroundings σ] (ops : Port σ W) (p : Plugin W) (world : σ)
    (body : Plugin W → σ → α × Plugin W × σ) : Except BuildFault α × Plugin W × σ :=
  match p.buildStart ops world with
  | (.error f, p, world) => (.error f, p, world)
  | (.ok (), p, world) =>
      let (a, p, world) := body p world
      match p.buildEnd ops world with
      | (.ok (), p, world) => (.ok a, p, world)
      | (.error b, p, world) => (.error (.broken b), p, world)

end Plugin

end QueryTypings
