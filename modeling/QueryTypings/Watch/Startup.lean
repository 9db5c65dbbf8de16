/-
  The beginning of a watcher, while others change files.

  The first pass of a watcher takes time: the task subscribes to its feed and lets others go on, it
  looks for the files that are there, it emits an event for each, one after the other, and then it
  says that the pass is complete.  From then on it takes batches from the feed.  Between any two of
  these steps other programs may change files.

  Here the first pass is taken apart; all other steps are those of `Watcher.advance`.
-/
import QueryTypings.Watch.Watcher

namespace QueryTypings.Watch

/-- What happens to files and to the task of a watcher. -/
inductive Happening
  /-- Somebody created or edited a file. -/
  | written (p : Path)
  | deleted (p : Path)
  /-- From here on the feed reports every change. -/
  | subscribed
  /-- The task got a batch from its feed. -/
  | received (batch : List Report)
  | emitted (e : Event)
deriving DecidableEq

/-- A watcher whose first pass may be under way. -/
structure Startup where
  watcher : Watcher
  world : World
  /-- The files that were found, and for how many of them an event is emitted, until the pass is
      complete. -/
  found : Option (List Path × Nat)

namespace Startup

/-- A watcher that has just been started. -/
def waiting (c : Config) (feed : Feed) (world : World) : Startup :=
  ⟨{ Watcher.fresh c feed with task := .waiting }, world, none⟩

/-- Others change files. -/
def edit (s : Startup) (t : FileTree) : Startup := { s with world := { s.world with tree := t } }

/-- The task looks for the files that are there. -/
def look (s : Startup) : Startup × List Happening :=
  match scan s.world s.watcher.config with
  | .error f =>
      let (w, world) := s.watcher.fail f s.world
      (⟨w, world, none⟩, [.emitted (.failure f)])
  | .ok paths => ({ s with found := some (paths, 0) }, [])

/-- The task emits the event for the next file that was found, or it says that the pass is
    complete. -/
def tell (s : Startup) (paths : List Path) (told : Nat) : Startup × List Happening :=
  match paths[told]? with
  | some p =>
      ({ s with watcher := s.watcher.emit [.add p], found := some (paths, told + 1) },
        [.emitted (.add p)])
  | none =>
      (⟨{ s.watcher with state := .ready, isReady := true, task := .listening }.emit [.ready],
          s.world.say .info ("Found " ++ toString paths.length ++ " query file(s) in "
            ++ s.watcher.directoryText s.world.cwd), none⟩,
        [.emitted .ready])

/-- What a step gets before it emits anything.  A batch that cannot be judged is not received. -/
def arrived (s : Startup) : List Happening :=
  match s.watcher.task, s.watcher.feed.batches with
  | .waiting, _ => [.subscribed]
  | .listening, batch :: _ =>
      if (relevant? s.world.cwd s.watcher.config batch).isSome then [.received batch] else []
  | _, _ => []

/-- The task goes on as it does at any time. -/
def goOn (s : Startup) : Startup × List Happening :=
  let (w, world) := s.watcher.advance s.world
  (⟨w, world, s.found⟩,
    s.arrived ++ (w.pending.drop s.watcher.pending.length).map .emitted)

/-- One step of the task, with what happens in it. -/
def step (s : Startup) : Startup × List Happening :=
  match s.watcher.task, s.found with
  | .subscribed, none => s.look
  | .subscribed, some (paths, told) => s.tell paths told
  | _, _ => s.goOn

end Startup

end QueryTypings.Watch
