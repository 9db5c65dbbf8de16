/-
  A watcher with nothing else going on is one of the runs.

  1. **Handing over** — events that wait are handed over one after the other: the handler is called,
     changes files and reports, and is done (`exists_handed`).

  2. **Steps** — a loop that shows a watcher (`Shows`) follows each step of it (`Shows.advance`).

  3. **Close** — and its close, which takes the turns of one that waits for the task and for the calls
     of the handler (`Shows.close`).

  4. **Sequence** — so what a watcher does from its start to its close, as it is run on its own, are
     the turns of a run in which calls of start and close do not overlap (`sequence_is_run`), and what
     holds of all these runs holds of it.
-/
import QueryTypings.Proofs.Watch.Turns

namespace QueryTypings.Watch

open Watcher (Handler handOver)

variable {σ : Type} {h : Handler σ}

/-! ## Handing over -/

/-- The handler does not leave the working directory. -/
def KeepsCwd (h : Handler σ) : Prop := ∀ e s world, (h.handle e s world).2.2.cwd = world.cwd

namespace Loop

variable {l l' : Loop}

/-- One event is handed over. -/
theorem exists_handed_one (hcwd : KeepsCwd h) (s : σ) {i : Nat} {e : Event}
    (hcall : l.calls[i]? = some ⟨e, .waiting⟩) :
    ∃ moves l', run? apart l moves = some l' ∧ SameButCalls l l'
      ∧ l'.world = (handOver h (s, l.world) e).2 ∧ l'.calls = l.calls.set i ⟨e, .over⟩ := by
  have hi := (List.getElem?_eq_some_iff.mp hcall).1
  rcases hr : h.handle e s l.world with ⟨good, s', world'⟩
  have hstays : world'.cwd = l.world.cwd := by
    have hkeeps := hcwd e s l.world
    rwa [hr] at hkeeps
  -- the turns of the handler
  let called : Loop := { l with calls := l.calls.set i ⟨e, .running⟩, begun := l.begun ++ [i] }
  let edited : Loop := { called with world := { l.world with tree := world'.tree, log := world'.log } }
  let after : World := if good then edited.world
    else edited.world.say .error ("Error in watcher callback for " ++ e.pathText)
  have hrunning : edited.calls[i]? = some ⟨e, .running⟩ := List.getElem?_set_self hi
  have hcalled : l.go? (.call i) = some called := by
    simp only [go?, call?, hcall]
    rfl
  have hedited : called.go? (.edit world'.tree world'.log) = some edited := rfl
  have hfinished : edited.go? (.finish i good)
      = some { edited with calls := edited.calls.set i ⟨e, .over⟩, world := after } := by
    simp only [go?, finish?, hrunning]
    rfl
  have hrun := run?_append_of_run? (run?_singleton (rfl : apart l (.call i) = true) hcalled)
    (run?_append_of_run?
      (run?_singleton (rfl : apart called (.edit world'.tree world'.log) = true) hedited)
      (run?_singleton (rfl : apart edited (.finish i good) = true) hfinished))
  refine ⟨_, _, hrun, ?_, ?_, ?_⟩
  · have hbegun : SameButCalls l edited :=
      ⟨rfl, rfl, rfl, rfl, rfl, rfl, rfl, (same_called hcall).events⟩
    exact hbegun.trans (same_finished hrunning after)
  · have hworld : edited.world = world' := by
      show (⟨l.world.cwd, world'.tree, world'.log⟩ : World) = world'
      rw [← hstays]
    show after = _
    unfold handOver
    simp only [hr, after, hworld]
    cases good with
    | true => rfl
    | false => rfl
  · exact List.set_set _

/-- **Events that wait are handed over in order.** -/
theorem exists_handed (hcwd : KeepsCwd h) {es : List Event} (s : σ) {done : List Call}
    (hcalls : l.calls = done ++ es.map fun e => ⟨e, .waiting⟩) :
    ∃ moves l', run? apart l moves = some l' ∧ SameButCalls l l'
      ∧ l'.world = (es.foldl (handOver h) (s, l.world)).2
      ∧ l'.calls = done ++ es.map fun e => ⟨e, .over⟩ := by
  induction es generalizing l s done with
  | nil => exact ⟨[], l, rfl, .refl l, rfl, hcalls⟩
  | cons e es ih =>
      have hfirst : l.calls[done.length]? = some ⟨e, .waiting⟩ := by
        rw [hcalls, List.map_cons, List.getElem?_append_right (Nat.le_refl _), Nat.sub_self]
        rfl
      obtain ⟨moves, mid, hrun, hsame, hworld, hset⟩ := exists_handed_one hcwd s hfirst
      have hmid : mid.calls = (done ++ [⟨e, .over⟩]) ++ es.map fun e => ⟨e, .waiting⟩ := by
        rw [hset, hcalls, List.map_cons, List.set_append_right _ _ (Nat.le_refl _), Nat.sub_self,
          List.set_cons_zero, List.append_assoc]
        rfl
      obtain ⟨more, last, hmore, hsame', hworld', hlast⟩ :=
        ih (handOver h (s, l.world) e).1 hmid
      refine ⟨_, last, run?_append_of_run? hrun hmore, hsame.trans hsame', ?_, ?_⟩
      · rw [hworld', hworld]
        rfl
      · rw [hlast, List.append_assoc]
        rfl

/-! ## Steps -/

/-- The loop is where the watcher is, with nothing else going on. -/
structure Shows (l : Loop) (w : Watcher) : Prop where
  config : l.config = w.config
  state : l.state = w.state
  isReady : l.isReady = w.isReady
  closings : l.closings = []
  unstarted : w.task = .none → l.held = none ∧ l.jobs = []
  task : w.task ≠ .none → l.held = some 0 ∧ l.jobs = [⟨w.task, w.feed, false⟩]
  calls : ∃ done, (∀ d ∈ done, d.stage = .over)
    ∧ l.calls = done ++ w.pending.map fun e => ⟨e, .waiting⟩

/-- What a task sees of the watcher is the watcher without the events that wait. -/
theorem Shows.watcher {w : Watcher} (hs : l.Shows w) :
    l.watcher w.task w.feed = { w with pending := [] } := by
  rw [Loop.watcher, hs.config, hs.state, hs.isReady]

/-- Events that wait make no difference to a task; it emits behind them. -/
theorem advance_frame (w : Watcher) (world : World) :
    w.advance world
      = ({ ({ w with pending := [] }.advance world).1 with
          pending := w.pending ++ ({ w with pending := [] }.advance world).1.pending },
        ({ w with pending := [] }.advance world).2) := by
  obtain ⟨config, state, isReady, task, pending, feed⟩ := w
  cases task with
  | none => simp only [Watcher.advance, List.append_nil]
  | waiting => simp only [Watcher.advance, Watcher.subscribe, List.append_nil]
  | subscribed =>
      cases hscan : scan world config with
      | error f => simp only [Watcher.advance, Watcher.firstPass, hscan, Watcher.fail, Watcher.emit,
          Watcher.directoryText, List.nil_append]
      | ok paths => simp only [Watcher.advance, Watcher.firstPass, hscan, Watcher.emit,
          Watcher.directoryText, List.nil_append]
  | listening =>
      obtain ⟨batches, ending⟩ := feed
      cases batches with
      | nil =>
          cases ending with
          | stops => simp only [Watcher.advance, Watcher.nextBatch, List.append_nil]
          | fails text => simp only [Watcher.advance, Watcher.nextBatch, Watcher.fail, Watcher.emit,
              Watcher.directoryText, List.nil_append]
          | stays => simp only [Watcher.advance, Watcher.nextBatch, List.append_nil]
      | cons batch rest =>
          cases hrelevant : relevant? world.cwd config batch with
          | none => simp only [Watcher.advance, Watcher.nextBatch, hrelevant, Watcher.fail,
              Watcher.emit, Watcher.directoryText, List.nil_append]
          | some reports => simp only [Watcher.advance, Watcher.nextBatch, hrelevant, Watcher.emit,
              List.nil_append]
  | _ => simp only [Watcher.advance, List.append_nil]

/-- A task stays a task, and its settings stay. -/
theorem advance_stays (w : Watcher) (world : World) (hw : w.task ≠ .none) :
    (w.advance world).1.task ≠ .none ∧ (w.advance world).1.config = w.config := by
  have ha := advance_cases w world
  generalize (w.advance world).1 = w' at ha ⊢
  cases ha with
  | rested => exact ⟨hw, rfl⟩
  | subscribed h => exact ⟨nofun, rfl⟩
  | found h hscan => exact ⟨nofun, rfl⟩
  | unscanned h hscan => exact ⟨nofun, rfl⟩
  | heard h hbatches hrelevant => exact ⟨hw, rfl⟩
  | failed h => exact ⟨nofun, rfl⟩
  | ended => exact ⟨nofun, rfl⟩

/-- **The loop follows a step of the task.** -/
theorem Shows.advance {w : Watcher} (hs : l.Shows w) :
    ∃ moves l', run? apart l moves = some l' ∧ l'.Shows (w.advance l.world).1
      ∧ l'.world = (w.advance l.world).2 := by
  by_cases hidle : w.task = .none ∨ w.task = .over
  · have hsame : w.advance l.world = (w, l.world) := by
      unfold Watcher.advance
      rcases hidle with htask | htask
      · rw [htask]
      · rw [htask]
    rw [hsame]
    exact ⟨[], l, rfl, hs, rfl⟩
  · obtain ⟨hnone, hover⟩ := not_or.mp hidle
    obtain ⟨hheld, hjobs⟩ := hs.task hnone
    obtain ⟨done, hdone, hcalls⟩ := hs.calls
    let job : Job := ⟨w.task, w.feed, false⟩
    let r := ({ w with pending := [] } : Watcher).advance l.world
    have hjob : l.jobs[0]? = some job := by
      rw [hjobs]
      rfl
    have hgo : l.go? (.step 0) = some (l.settleJob 0 job r) := by
      simp only [go?, step?, hjob]
      rw [if_pos ⟨hover, Or.inl rfl⟩]
      show some (l.settleJob 0 job ((l.watcher w.task w.feed).advance l.world)) = _
      rw [hs.watcher]
    obtain ⟨htask, hconfig⟩ := advance_stays { w with pending := [] } l.world hnone
    rw [advance_frame]
    refine ⟨_, _, run?_singleton rfl hgo, ⟨?_, rfl, rfl, hs.closings, ?_, fun _ => ⟨hheld, ?_⟩, ?_⟩,
      rfl⟩
    · exact hs.config.trans hconfig.symm
    · exact fun hend => absurd hend htask
    · show l.jobs.set 0 _ = _
      rw [hjobs]
      rfl
    · refine ⟨done, hdone, ?_⟩
      show l.calls ++ r.1.pending.map _ = done ++ (w.pending ++ r.1.pending).map _
      rw [hcalls, List.map_append, List.append_assoc]

/-- **The loop follows when all events are handed over.** -/
theorem Shows.handOverAll (hcwd : KeepsCwd h) {w : Watcher} (hs : l.Shows w) (s : σ) :
    ∃ moves l', run? apart l moves = some l' ∧ l'.Shows (w.handOverAll h s l.world).1
      ∧ l'.world = (w.handOverAll h s l.world).2.2 := by
  obtain ⟨done, hdone, hcalls⟩ := hs.calls
  obtain ⟨moves, last, hrun, hsame, hworld, hlast⟩ := exists_handed hcwd s hcalls
  refine ⟨moves, last, hrun, ⟨?_, ?_, ?_, ?_, ?_, ?_, ?_⟩, hworld⟩
  · exact hsame.config.trans hs.config
  · exact hsame.state.trans hs.state
  · exact hsame.isReady.trans hs.isReady
  · exact hsame.closings.trans hs.closings
  · intro htask
    rw [hsame.held, hsame.jobs]
    exact hs.unstarted htask
  · intro htask
    rw [hsame.held, hsame.jobs]
    exact hs.task htask
  · refine ⟨last.calls, fun d hd => ?_, (List.append_nil _).symm⟩
    rw [hlast] at hd
    rcases List.mem_append.mp hd with hd | hd
    · exact hdone d hd
    · obtain ⟨e, -, rfl⟩ := List.mem_map.mp hd
      rfl

/-- What a run of a watcher begins with. -/
theorem run_succ (w : Watcher) (s : σ) (world : World) (steps : Nat) :
    w.run h (steps + 1) s world
      = ((w.handOverAll h s world).1.advance (w.handOverAll h s world).2.2).1.run h steps
        (w.handOverAll h s world).2.1
        ((w.handOverAll h s world).1.advance (w.handOverAll h s world).2.2).2 := by
  rw [Watcher.run]

/-- The loop follows so many steps, with all events handed over after each. -/
theorem Shows.run (hcwd : KeepsCwd h) (steps : Nat) {w : Watcher} (hs : l.Shows w) (s : σ) :
    ∃ moves l', run? apart l moves = some l' ∧ l'.Shows (w.run h steps s l.world).1
      ∧ l'.world = (w.run h steps s l.world).2.2 := by
  induction steps generalizing l w s with
  | zero => exact hs.handOverAll hcwd s
  | succ steps ih =>
      obtain ⟨handing, mid, hhanded, hmid, hworld⟩ := hs.handOverAll hcwd s
      obtain ⟨going, mid', hwent, hmid', hworld'⟩ := hmid.advance
      obtain ⟨more, last, hmore, hlast, hworld''⟩ := ih hmid' (w.handOverAll h s l.world).2.1
      rw [hworld', hworld] at hlast hworld''
      rw [run_succ]
      exact ⟨_, last, run?_append_of_run? hhanded (run?_append_of_run? hwent hmore), hlast, hworld''⟩

/-! ## Close -/

/-- A close that has let the task go, or has found none, hands over what is left and returns. -/
theorem exists_closed (hcwd : KeepsCwd h) {w : Watcher} (s : σ) {ids : List Nat} {done : List Call}
    (hconfig : l.config = w.config) (hdone : ∀ d ∈ done, d.stage = .over)
    (hcalls : l.calls = done ++ w.pending.map fun e => ⟨e, .waiting⟩)
    (hclosings : l.closings = [.calls ids]) :
    ∃ moves l', run? apart l moves = some l' ∧ l'.isReturned = true ∧ l'.state = .closed
      ∧ l'.isReady = l.isReady
      ∧ l'.world = ((w.cancel.handOverAll h s l.world).1.markClosed
        (w.cancel.handOverAll h s l.world).2.2).2 := by
  obtain ⟨moves, mid, hrun, hsame, hworld, hover⟩ := exists_handed hcwd s hcalls
  have hclosing : mid.closings[0]? = some (.calls ids) := by
    rw [hsame.closings, hclosings]
    rfl
  have hall : ∀ d ∈ mid.calls, d.stage = .over := by
    intro d hd
    rw [hover] at hd
    rcases List.mem_append.mp hd with hd | hd
    · exact hdone d hd
    · obtain ⟨e, -, rfl⟩ := List.mem_map.mp hd
      rfl
  refine ⟨_, _, run?_append_of_run? hrun (run?_singleton rfl (go_marked hclosing hall)), rfl, rfl,
    hsame.isReady, ?_⟩
  show mid.world.say .info ("Watcher stopped for " ++ mid.directory.text) = _
  rw [directory, hsame.config, hconfig, hworld]
  rfl

/-- Where nothing else is under way, a close may be called. -/
theorem Shows.admits_close {w : Watcher} (hs : l.Shows w) : apart l .close = true :=
  List.isEmpty_iff.mpr hs.closings

/-- A close that is called while a task is held cancels it, sees it come to its end if it is not over,
    and lets it go. -/
theorem exists_letGo {w : Watcher} (hs : l.Shows w) (hopen : l.state ≠ .closed)
    (hsome : w.task ≠ .none) : ∃ moves mid ids, run? apart l moves = some mid
      ∧ mid.config = l.config ∧ mid.calls = l.calls ∧ mid.isReady = l.isReady
      ∧ mid.world = l.world ∧ mid.closings = [.calls ids] := by
  obtain ⟨hheld, hjobs⟩ := hs.task hsome
  let job : Job := ⟨w.task, w.feed, true⟩
  let begun : Loop := { l with jobs := l.cancelled 0, closings := l.closings ++ [.task 0] }
  have hclose : l.close = begun := by
    unfold Loop.close
    rw [if_neg hopen]
    split
    · rename_i k hk
      obtain rfl := Option.some.inj (hk.symm.trans hheld)
      rfl
    · rename_i hk
      cases hk.symm.trans hheld
  have hbegun : run? apart l [.close] = some begun :=
    run?_singleton hs.admits_close (congrArg some hclose)
  have hjob : begun.jobs[0]? = some job := by
    show (l.cancelled 0)[0]? = some job
    rw [cancelled, hjobs]
    rfl
  have hclosing : begun.closings = [.task 0] := by
    show l.closings ++ [_] = _
    rw [hs.closings]
    rfl
  have hfirst : begun.closings[0]? = some (.task 0) := by
    rw [hclosing]
    rfl
  by_cases hover : job.stage = .over
  · have hgone := go_letGo hfirst hjob hover
    refine ⟨_, _, begun.unfinished, run?_append_of_run? hbegun (run?_singleton rfl hgone),
      rfl, rfl, rfl, rfl, ?_⟩
    show begun.closings.set 0 _ = _
    rw [hclosing]
    rfl
  · let stopped : Loop := begun.settleJob 0 job
      ({ begun.watcher job.stage job.feed with task := .over }, begun.world)
    have hstop : begun.go? (.stop 0 none) = some stopped := go_stop hjob rfl hover
    have hended : stopped.jobs[0]? = some { job with stage := .over } :=
      List.getElem?_set_self (List.getElem?_eq_some_iff.mp hjob).1
    have hgone := go_letGo (l := stopped) hfirst hended rfl
    have hrun := run?_append_of_run? hbegun
      (run?_append_of_run? (run?_singleton rfl hstop) (run?_singleton rfl hgone))
    refine ⟨_, _, stopped.unfinished, hrun, rfl, List.append_nil _, rfl, rfl, ?_⟩
    show begun.closings.set 0 _ = _
    rw [hclosing]
    rfl

/-- The turns of a close until it waits for calls of the handler. -/
theorem exists_waiting {w : Watcher} (hs : l.Shows w) (hopen : l.state ≠ .closed) :
    ∃ moves mid ids, run? apart l moves = some mid ∧ mid.config = l.config ∧ mid.calls = l.calls
      ∧ mid.isReady = l.isReady ∧ mid.world = l.world ∧ mid.closings = [.calls ids] := by
  by_cases hnone : w.task = .none
  · obtain ⟨hheld, -⟩ := hs.unstarted hnone
    have hgo : l.go? .close = some l.close := rfl
    rw [Loop.close, if_neg hopen, hheld] at hgo
    refine ⟨_, _, l.unfinished, run?_singleton hs.admits_close hgo, rfl, rfl, rfl, rfl, ?_⟩
    show l.closings ++ [_] = _
    rw [hs.closings]
    rfl
  · exact exists_letGo hs hopen hnone

/-- **The loop follows a close.** -/
theorem Shows.close (hcwd : KeepsCwd h) {w : Watcher} (hs : l.Shows w) (s : σ) :
    ∃ moves l', run? apart l moves = some l' ∧ l'.isReturned = true
      ∧ l'.state = (w.close h s l.world).1.state ∧ l'.isReady = (w.close h s l.world).1.isReady
      ∧ l'.world = (w.close h s l.world).2.2 := by
  by_cases hclosed : w.state = .closed
  · have hsame : w.close h s l.world = (w, s, l.world) := by
      rw [Watcher.close, if_pos hclosed]
    have hgo : l.go? .close = some l.close := rfl
    rw [Loop.close, if_pos (hs.state.trans hclosed)] at hgo
    rw [hsame]
    exact ⟨_, _, run?_singleton hs.admits_close hgo, rfl, hs.state, hs.isReady, rfl⟩
  · have hopen : l.state ≠ .closed := fun hl => hclosed (hs.state.symm.trans hl)
    obtain ⟨done, hdone, hcalls⟩ := hs.calls
    have hresult : w.close h s l.world
        = (((w.cancel.handOverAll h s l.world).1.markClosed
            (w.cancel.handOverAll h s l.world).2.2).1, (w.cancel.handOverAll h s l.world).2.1,
          ((w.cancel.handOverAll h s l.world).1.markClosed
            (w.cancel.handOverAll h s l.world).2.2).2) := by
      rw [Watcher.close, if_neg hclosed]
    rw [hresult]
    obtain ⟨moves, mid, ids, hrun, hconfig, hsame, hready, hworld, hclosings⟩ :=
      exists_waiting hs hopen
    obtain ⟨more, last, hmore, hreturned, hstate, hready', hlast⟩ :=
      exists_closed hcwd s (hconfig.trans hs.config) hdone (hsame.trans hcalls) hclosings
    rw [hworld] at hlast
    refine ⟨_, last, run?_append_of_run? hrun hmore, hreturned, hstate, ?_, hlast⟩
    rw [hready', hready]
    exact hs.isReady

/-! ## Sequence -/

/-- **The loop follows the start of a new watcher.** -/
theorem shows_started {c : Config} {feed : Feed} {world world' : World} {w : Watcher}
    (hstart : (Watcher.fresh c feed).start world = .ok (w, world')) :
    ∃ l, run? apart (Loop.fresh c world) [.start feed] = some l ∧ l.Shows w ∧ l.world = world' := by
  have hl : (Loop.fresh c world).start feed = .ok
      (if (Loop.fresh c world).held = none ∧ w.task = .waiting then
        { (Loop.fresh c world).adopt w world' with
          held := some 0, jobs := [⟨.waiting, feed, false⟩] }
      else (Loop.fresh c world).adopt w world') := by
    have hseen : (Loop.fresh c world).watcher .none feed = Watcher.fresh c feed := rfl
    have hworld : (Loop.fresh c world).world = world := rfl
    have hheld : (Loop.fresh c world).held = none := rfl
    simp only [start, hheld, hworld, if_true, hseen, hstart]
    rfl
  have hgo : (Loop.fresh c world).go? (.start feed) = some ((Loop.fresh c world).started feed) := rfl
  unfold started at hgo
  rw [hl] at hgo
  have hrun := run?_singleton (rfl : apart (Loop.fresh c world) (.start feed) = true) hgo
  have hnone : ∀ d ∈ ([] : List Call), d.stage = .over := fun d hd => by cases hd
  -- there is a directory to be watched, or none
  have hidle : ¬ (decide ((Watcher.fresh c feed).task ≠ .none)
      || decide ((Watcher.fresh c feed).state = .error)) = true := Bool.false_ne_true
  unfold Watcher.start at hstart
  rw [if_neg nofun, if_neg hidle] at hstart
  simp only at hstart
  split at hstart
  · cases hstart
  · obtain ⟨rfl, rfl⟩ := Prod.mk.inj (Except.ok.inj hstart)
    refine ⟨_, hrun, ?_, rfl⟩
    rw [if_pos ⟨rfl, rfl⟩]
    exact ⟨rfl, rfl, rfl, rfl, nofun, fun _ => ⟨rfl, rfl⟩, [], hnone, rfl⟩
  · obtain ⟨rfl, rfl⟩ := Prod.mk.inj (Except.ok.inj hstart)
    refine ⟨_, hrun, ?_, rfl⟩
    rw [if_neg (fun hboth => by cases hboth.2)]
    exact ⟨rfl, rfl, rfl, rfl, fun _ => ⟨rfl, rfl⟩, fun hsome => absurd rfl hsome, [], hnone, rfl⟩

/-- **What a watcher does on its own are the turns of a run** in which calls of start and close do not
    overlap: when it is started, goes so many steps with all events handed over after each, and is
    closed, then these turns lead to the same state and the same world, and a close has returned. -/
theorem sequence_is_run (hcwd : KeepsCwd h) (s : σ) (steps : Nat) {c : Config} {feed : Feed}
    {world world' : World} {w : Watcher}
    (hstart : (Watcher.fresh c feed).start world = .ok (w, world')) {gone closed : Watcher × σ × World}
    (hrun : w.run h steps s world' = gone) (hclose : gone.1.close h gone.2.1 gone.2.2 = closed) :
    ∃ moves l, run? apart (Loop.fresh c world) moves = some l ∧ l.isReturned = true
      ∧ l.state = closed.1.state ∧ l.isReady = closed.1.isReady ∧ l.world = closed.2.2 := by
  obtain ⟨l, hfirst, hs, hworld⟩ := shows_started hstart
  obtain ⟨going, mid, hwent, hs', hworld'⟩ := hs.run hcwd steps s
  obtain ⟨ending, last, hended, hreturned, hstate, hready, hlast⟩ := hs'.close hcwd gone.2.1
  rw [hworld, hrun] at hworld' hstate hready hlast
  rw [hworld', hclose] at hstate hready hlast
  exact ⟨_, last, run?_append_of_run? hfirst (run?_append_of_run? hwent hended), hreturned, hstate,
    hready, hlast⟩

end Loop

end QueryTypings.Watch
