/-
  What a turn can do.

  1. **Tasks** — what the task of a watcher does in its turn (`Advanced`); it changes no file.

  2. **Turns** — what each turn leaves, with all that was needed for it (`Turned`).  Later proofs go
     through these cases and never open a definition.

  3. **Runs** — what holds in the beginning and is kept by each turn that is admitted holds in the end
     (`run_induction`).

  4. **Calls** — the handler is called at most once for each event (`Numbered`), and nothing keeps the
     calls that are left from being made (`exists_finished`).
-/
import QueryTypings.Proofs.Result
import QueryTypings.Watch.Interleaving
import Mathlib.Data.List.Induction
import Mathlib.Data.List.Nodup

namespace QueryTypings.Watch

/-! ## Tasks -/

/-- What the task of a watcher does in its turn: what becomes of the watcher. -/
inductive Advanced (w : Watcher) (world : World) : Watcher → Prop
  /-- There is nothing to do. -/
  | rested : Advanced w world w
  | subscribed (h : w.task = .waiting) : Advanced w world w.subscribe
  | found {paths : List Path} (h : w.task = .subscribed) (hscan : scan world w.config = .ok paths) :
      Advanced w world ({ w with state := .ready, isReady := true, task := .listening }.emit
        (paths.map Event.add ++ [Event.ready]))
  | unscanned {f : WatchFault} (h : w.task = .subscribed) (hscan : scan world w.config = .error f) :
      Advanced w world (w.fail f world).1
  | heard {batch : List Report} {rest : List (List Report)} {reports : List Report}
      (h : w.task = .listening) (hbatches : w.feed.batches = batch :: rest)
      (hrelevant : relevant? world.cwd w.config batch = some reports) :
      Advanced w world ({ w with feed := { w.feed with batches := rest } }.emit
        (reports.map Report.event))
  | failed {f : WatchFault} {feed : Feed} (h : w.task = .listening) :
      Advanced w world ({ w with feed := feed }.fail f world).1
  | ended : Advanced w world { w with task := .over }

/-- **What a task does in its turn.** -/
theorem advance_cases (w : Watcher) (world : World) : Advanced w world (w.advance world).1 := by
  unfold Watcher.advance
  split
  · rename_i h
    exact .subscribed h
  · rename_i h
    unfold Watcher.firstPass
    split
    · rename_i f hscan
      exact .unscanned h hscan
    · rename_i paths hscan
      exact .found h hscan
  · rename_i h
    unfold Watcher.nextBatch
    split
    · rename_i batch rest hbatches
      simp only
      split
      · exact .failed h
      · rename_i reports hrelevant
        exact .heard h hbatches hrelevant
    · exact .ended
    · exact .failed h
    · exact .rested
  · exact .rested

/-- A task changes no file. -/
theorem advance_same (w : Watcher) (world : World) :
    (w.advance world).2.cwd = world.cwd ∧ (w.advance world).2.tree = world.tree := by
  unfold Watcher.advance
  split
  · exact ⟨rfl, rfl⟩
  · unfold Watcher.firstPass
    split
    · exact ⟨rfl, rfl⟩
    · exact ⟨rfl, rfl⟩
  · unfold Watcher.nextBatch
    split
    · simp only
      split
      · exact ⟨rfl, rfl⟩
      · exact ⟨rfl, rfl⟩
    · exact ⟨rfl, rfl⟩
    · exact ⟨rfl, rfl⟩
    · exact ⟨rfl, rfl⟩
  · exact ⟨rfl, rfl⟩

namespace Loop

variable {l l' : Loop}

/-! ## Turns -/

/-- The directory that is watched. -/
def directory (l : Loop) : Path := l.config.resolvedSearch l.world.cwd

/-- What a turn leaves, and what was needed for it. -/
inductive Turned (l : Loop) : Move → Loop → Prop
  | edited (t : FileTree) (log : List LogLine) :
      Turned l (.edit t log) { l with world := { l.world with tree := t, log := log } }
  /-- A start is refused, or there is nothing for it to do. -/
  | idle (feed : Feed) : Turned l (.start feed) l
  | missing (feed : Feed) {world : World} (hheld : l.held = none) (hopen : l.state ≠ .closed)
      (hgood : l.state ≠ .error) (hcwd : world.cwd = l.world.cwd)
      (hno : l.world.isDirectory l.directory = .ok false) :
      Turned l (.start feed) { l with
        world := world
        state := .error
        calls := l.calls ++ [⟨.failure (.noDirectory l.directory), .waiting⟩] }
  | made (feed : Feed) {world : World} (hheld : l.held = none) (hopen : l.state ≠ .closed)
      (hgood : l.state ≠ .error) (hcwd : world.cwd = l.world.cwd) :
      Turned l (.start feed) { l with
        world := world
        held := some l.jobs.length
        jobs := l.jobs ++ [⟨.waiting, feed, false⟩] }
  | returned (hclosed : l.state = .closed) : Turned l .close { l with isReturned := true }
  | awaitsJob {k : Nat} (hopen : l.state ≠ .closed) (hheld : l.held = some k) :
      Turned l .close { l with jobs := l.cancelled k, closings := l.closings ++ [.task k] }
  | awaitsCalls (hopen : l.state ≠ .closed) (hheld : l.held = none) :
      Turned l .close { l with closings := l.closings ++ [.calls l.unfinished] }
  | letGo {number k : Nat} {job : Job} (hclosing : l.closings[number]? = some (.task k))
      (hjob : l.jobs[k]? = some job) (hover : job.stage = .over) :
      Turned l (.resume number) { l with
        held := none
        closings := l.closings.set number (.calls l.unfinished) }
  | marked {number : Nat} {ids : List Nat} {world : World}
      (hclosing : l.closings[number]? = some (.calls ids))
      (hover : ∀ i ∈ ids, ∀ d, l.calls[i]? = some d → d.stage = .over)
      (hcwd : world.cwd = l.world.cwd) :
      Turned l (.resume number) { l with
        world := world
        state := .closed
        closings := l.closings.eraseIdx number
        isReturned := true }
  | stepped {k : Nat} {job : Job} {w : Watcher} {world : World} (hjob : l.jobs[k]? = some job)
      (halive : job.stage ≠ .over) (hcwd : world.cwd = l.world.cwd)
      (hadvanced : Advanced (l.watcher job.stage job.feed) l.world w) :
      Turned l (.step k) (l.settleJob k job (w, world))
  | stopped {k : Nat} {fault : Option WatchFault} {job : Job} {w : Watcher} {world : World}
      (hjob : l.jobs[k]? = some job) (halive : job.stage ≠ .over) (hcwd : world.cwd = l.world.cwd)
      (hadvanced : Advanced (l.watcher job.stage job.feed) l.world w) :
      Turned l (.stop k fault) (l.settleJob k job (w, world))
  | called {i : Nat} {e : Event} (hcall : l.calls[i]? = some ⟨e, .waiting⟩) :
      Turned l (.call i) { l with calls := l.calls.set i ⟨e, .running⟩, begun := l.begun ++ [i] }
  | finished {i : Nat} {e : Event} {good : Bool} {world : World} (hcwd : world.cwd = l.world.cwd)
      (hcall : l.calls[i]? = some ⟨e, .running⟩) :
      Turned l (.finish i good) { l with calls := l.calls.set i ⟨e, .over⟩, world := world }

/-- The watcher as it was seen is that of the loop. -/
theorem adopt_watcher (l : Loop) (stage : Task) (feed : Feed) :
    l.adopt (l.watcher stage feed) l.world = l := by
  unfold adopt watcher
  rw [List.map_nil, List.append_nil]

theorem start_turned {feed : Feed} (h : l.start feed = .ok l') : Turned l (.start feed) l' := by
  unfold start at h
  obtain ⟨⟨w, world⟩, hw, h⟩ := ok_of_bind_ok h
  cases hheld : l.held with
  | some k =>
      -- there is a task, so nothing happens
      simp only [hheld, reduceCtorEq, if_false, false_and] at hw h
      unfold Watcher.start at hw
      split at hw
      · cases hw
      · obtain ⟨rfl, rfl⟩ := Prod.mk.inj (Except.ok.inj hw)
        obtain rfl := Except.ok.inj h
        rw [adopt_watcher]
        exact .idle feed
  | none =>
      simp only [hheld, if_true, true_and] at hw h
      unfold Watcher.start at hw
      split at hw
      · cases hw
      · rename_i hopen
        split at hw
        · obtain ⟨rfl, rfl⟩ := Prod.mk.inj (Except.ok.inj hw)
          obtain rfl := Except.ok.inj h
          rw [if_neg (fun hwaiting => by cases hwaiting), adopt_watcher]
          exact .idle feed
        · rename_i hidle
          have hgood : l.state ≠ .error := fun herror => hidle (by
            rw [Bool.or_eq_true_iff]
            exact Or.inr (decide_eq_true herror))
          simp only at hw
          split at hw
          · cases hw
          · obtain ⟨rfl, rfl⟩ := Prod.mk.inj (Except.ok.inj hw)
            obtain rfl := Except.ok.inj h
            rw [if_pos rfl]
            have hcwd : (l.world.say .info ("Watcher started for " ++ l.directory.text)).cwd
                = l.world.cwd := rfl
            have hmade := Turned.made feed hheld hopen hgood hcwd
            rwa [← List.append_nil l.calls] at hmade
          · rename_i hno
            obtain ⟨rfl, rfl⟩ := Prod.mk.inj (Except.ok.inj hw)
            obtain rfl := Except.ok.inj h
            rw [if_neg (fun hwaiting => by cases hwaiting)]
            exact .missing feed hheld hopen hgood rfl hno

theorem started_turned (l : Loop) (feed : Feed) : Turned l (.start feed) (l.started feed) := by
  unfold started
  split
  · rename_i l' hstart
    exact start_turned hstart
  · exact .idle feed

theorem close_turned (l : Loop) : Turned l .close l.close := by
  unfold close
  split
  · rename_i hclosed
    exact .returned hclosed
  · rename_i hopen
    split
    · rename_i k hheld
      exact .awaitsJob hopen hheld
    · rename_i hheld
      exact .awaitsCalls hopen hheld

theorem resume?_turned {number : Nat} (h : l.resume? number = some l') :
    Turned l (.resume number) l' := by
  unfold resume? at h
  split at h
  · cases h
  · rename_i k hclosing
    split at h
    · rename_i hover
      obtain rfl := Option.some.inj h
      obtain ⟨job, hjob, hstage⟩ := (Option.any_eq_true _ _).mp hover
      exact .letGo hclosing hjob (of_decide_eq_true hstage)
    · cases h
  · rename_i ids hclosing
    split at h
    · rename_i hover
      obtain rfl := Option.some.inj h
      have hcalls : ∀ i ∈ ids, ∀ d, l.calls[i]? = some d → d.stage = .over := by
        intro i hi d hd
        have hall := List.all_eq_true.mp hover i hi
        rw [hd, Option.all_some] at hall
        exact of_decide_eq_true hall
      have hcwd : ((l.watcher .none ⟨[], .stays⟩).markClosed l.world).2.cwd = l.world.cwd := rfl
      have hmarked := Turned.marked hclosing hcalls hcwd
      rwa [← List.append_nil l.calls] at hmarked
    · cases h

theorem step?_turned {k : Nat} (h : l.step? k = some l') : Turned l (.step k) l' := by
  unfold step? at h
  split at h
  · cases h
  · rename_i job hjob
    split at h
    · rename_i hgoes
      obtain rfl := Option.some.inj h
      exact .stepped hjob hgoes.1 (advance_same _ _).1 (advance_cases _ _)
    · cases h

theorem stop?_turned {k : Nat} {fault : Option WatchFault} (h : l.stop? k fault = some l') :
    Turned l (.stop k fault) l' := by
  unfold stop? at h
  split at h
  · cases h
  · rename_i job hjob
    split at h
    · rename_i hgoes
      cases fault with
      | none =>
          obtain rfl := Option.some.inj h
          exact .stopped hjob hgoes.2 rfl .ended
      | some f =>
          simp only at h
          split at h
          · rename_i hlistening
            obtain rfl := Option.some.inj h
            exact .stopped hjob hgoes.2 rfl (.failed hlistening)
          · cases h
    · cases h

theorem call?_turned {i : Nat} (h : l.call? i = some l') : Turned l (.call i) l' := by
  unfold call? at h
  split at h
  · rename_i e hcall
    obtain rfl := Option.some.inj h
    exact .called hcall
  · cases h

theorem finish?_turned {i : Nat} {good : Bool} (h : l.finish? i good = some l') :
    Turned l (.finish i good) l' := by
  unfold finish? at h
  split at h
  · rename_i e hcall
    obtain rfl := Option.some.inj h
    refine .finished ?_ hcall
    cases good with
    | true => rfl
    | false => rfl
  · cases h

/-- **What each turn leaves.** -/
theorem go?_turned {m : Move} (h : l.go? m = some l') : Turned l m l' := by
  cases m with
  | edit t log =>
      obtain rfl := Option.some.inj h
      exact .edited t log
  | start feed =>
      obtain rfl := Option.some.inj h
      exact started_turned l feed
  | close =>
      obtain rfl := Option.some.inj h
      exact close_turned l
  | resume number => exact resume?_turned h
  | step k => exact step?_turned h
  | stop k fault => exact stop?_turned h
  | call i => exact call?_turned h
  | finish i good => exact finish?_turned h

theorem go_step {k : Nat} {job : Job} (hjob : l.jobs[k]? = some job) (hgoes : job.GoesOn) :
    l.go? (.step k)
      = some (l.settleJob k job ((l.watcher job.stage job.feed).advance l.world)) := by
  simp only [go?, step?, hjob, if_pos hgoes]

theorem go_stop {k : Nat} {job : Job} (hjob : l.jobs[k]? = some job)
    (hcancelled : job.isCancelled = true) (halive : job.stage ≠ .over) :
    l.go? (.stop k none) = some (l.settleJob k job
      ({ l.watcher job.stage job.feed with task := .over }, l.world)) := by
  simp only [go?, stop?, hjob]
  rw [if_pos ⟨hcancelled, halive⟩]

theorem go_letGo {number k : Nat} {job : Job} (hclosing : l.closings[number]? = some (.task k))
    (hjob : l.jobs[k]? = some job) (hover : job.stage = .over) :
    l.go? (.resume number) = some { l with
      held := none
      closings := l.closings.set number (.calls l.unfinished) } := by
  simp only [go?, resume?, hclosing, hjob, Option.any_some, hover, decide_true, if_true]

theorem go_marked {number : Nat} {ids : List Nat}
    (hclosing : l.closings[number]? = some (.calls ids)) (hover : ∀ d ∈ l.calls, d.stage = .over) :
    l.go? (.resume number) = some { l with
      world := l.world.say .info ("Watcher stopped for " ++ l.directory.text)
      state := .closed
      closings := l.closings.eraseIdx number
      isReturned := true } := by
  have hall : ids.all (fun i => (l.calls[i]?).all fun d => d.stage = .over) = true := by
    refine List.all_eq_true.mpr fun i _ => ?_
    cases hd : l.calls[i]? with
    | none => rfl
    | some d => exact decide_eq_true (hover d (List.mem_of_getElem? hd))
  simp only [go?, resume?, hclosing, hall, if_true, adopt]
  simp only [Watcher.markClosed, watcher, List.map_nil, List.append_nil, Watcher.directoryText,
    directory]

/-- What a task or a start emits comes behind all other events. -/
theorem events_adopt (l : Loop) (w : Watcher) (world : World) :
    (l.adopt w world).events = l.events ++ w.pending := by
  have heach : (w.pending.map fun e => (⟨e, .waiting⟩ : Call)).map Call.event = w.pending := by
    rw [List.map_map]
    exact List.map_id _
  rw [events, events, adopt, List.map_append, heach]

/-- The events stay when a call goes on. -/
theorem events_set {i : Nat} {d : Call} (h : l.calls[i]? = some d) (d' : Call)
    (he : d'.event = d.event) :
    (l.calls.set i d').map Call.event = l.calls.map Call.event := by
  rw [List.map_set, he]
  obtain ⟨hi, hd⟩ := List.getElem?_eq_some_iff.mp h
  refine List.ext_getElem (by rw [List.length_set]) fun j hj hj' => ?_
  rw [List.getElem_set]
  split
  · rename_i hij
    subst hij
    rw [List.getElem_map, hd]
  · rfl

/-- Cancelling moves no task. -/
theorem mem_cancelled {k : Nat} {job : Job} (h : job ∈ l.cancelled k) :
    ∃ before ∈ l.jobs, job.stage = before.stage ∧ job.feed = before.feed := by
  obtain ⟨i, hi, rfl⟩ := List.mem_mapIdx.mp h
  refine ⟨l.jobs[i], List.getElem_mem hi, ?_⟩
  split
  · exact ⟨rfl, rfl⟩
  · exact ⟨rfl, rfl⟩

/-! ## Runs -/

variable {admits : Loop → Move → Bool} {moves : List Move} {m : Move}

theorem run?_append (more : List Move) :
    run? admits l (moves ++ more) = (run? admits l moves).bind fun mid => run? admits mid more := by
  induction moves generalizing l with
  | nil => rfl
  | cons m moves ih =>
      rw [List.cons_append, run?, run?]
      by_cases hm : admits l m = true
      · rw [if_pos hm, if_pos hm]
        cases l.go? m with
        | none => rfl
        | some mid => exact ih
      · rw [if_neg hm, if_neg hm]
        rfl

theorem run?_append_of_run? {mid : Loop} {more : List Move} (h : run? admits l moves = some mid)
    (h' : run? admits mid more = some l') : run? admits l (moves ++ more) = some l' := by
  rw [run?_append, h]
  exact h'

theorem run?_singleton (hm : admits l m = true) (h : l.go? m = some l') :
    run? admits l [m] = some l' := by
  rw [run?, if_pos hm, h]
  rfl

/-- The last turn of a run. -/
theorem run?_concat : run? admits l (moves ++ [m]) = some l' ↔
    ∃ mid, run? admits l moves = some mid ∧ admits mid m = true ∧ mid.go? m = some l' := by
  rw [run?_append, Option.bind_eq_some_iff]
  constructor
  · rintro ⟨mid, hmid, hlast⟩
    unfold run? at hlast
    split at hlast
    · rename_i hm
      obtain ⟨last, hgo, hrest⟩ := Option.bind_eq_some_iff.mp hlast
      obtain rfl := Option.some.inj hrest
      exact ⟨mid, hmid, hm, hgo⟩
    · cases hlast
  · rintro ⟨mid, hmid, hm, hgo⟩
    exact ⟨mid, hmid, run?_singleton hm hgo⟩

/-- **What holds in the beginning and is kept by each turn holds in the end.** -/
theorem run_induction {motive : List Move → Loop → Prop} (hbegin : motive [] l)
    (hturn : ∀ moves mid m l', run? admits l moves = some mid → motive moves mid →
      admits mid m = true → mid.go? m = some l' → motive (moves ++ [m]) l')
    (hrun : run? admits l moves = some l') : motive moves l' := by
  induction moves using List.reverseRecOn generalizing l' with
  | nil =>
      obtain rfl := Option.some.inj hrun
      exact hbegin
  | append_singleton moves m ih =>
      obtain ⟨mid, hmid, hm, hgo⟩ := run?_concat.mp hrun
      exact hturn moves mid m l' hmid (ih hmid) hm hgo

/-! ## Calls -/

/-- The calls of the handler that have begun, each once, are those that do not wait. -/
structure Numbered (l : Loop) : Prop where
  once : l.begun.Nodup
  begun : ∀ i, i ∈ l.begun ↔ ∃ d, l.calls[i]? = some d ∧ d.stage ≠ .waiting

theorem Numbered.adopt (h : l.Numbered) (w : Watcher) (world : World) :
    (l.adopt w world).Numbered := by
  refine ⟨h.once, fun i => (h.begun i).trans ?_⟩
  show _ ↔ ∃ d, (l.calls ++ w.pending.map fun e => (⟨e, .waiting⟩ : Call))[i]? = some d
    ∧ d.stage ≠ .waiting
  by_cases hi : i < l.calls.length
  · rw [List.getElem?_append_left hi]
  · rw [List.getElem?_append_right (Nat.le_of_not_lt hi), List.getElem?_eq_none (Nat.le_of_not_lt hi)]
    constructor
    · rintro ⟨d, hd, -⟩
      cases hd
    · -- what comes behind is waiting
      rintro ⟨d, hd, hstage⟩
      rw [List.getElem?_map, Option.map_eq_some_iff] at hd
      obtain ⟨e, -, rfl⟩ := hd
      exact absurd rfl hstage

theorem Numbered.settleJob (h : l.Numbered) (k : Nat) (job : Job) (r : Watcher × World) :
    (l.settleJob k job r).Numbered :=
  ⟨(h.adopt r.1 r.2).once, (h.adopt r.1 r.2).begun⟩

theorem Numbered.turned (h : l.Numbered) (ht : Turned l m l') : l'.Numbered := by
  cases ht with
  | edited t log => exact ⟨h.once, h.begun⟩
  | idle feed => exact h
  | missing feed hheld hopen hgood hcwd hno =>
      have hw := h.adopt ⟨l.config, .error, l.isReady, .none,
        [.failure (.noDirectory l.directory)], feed⟩ l.world
      exact ⟨hw.once, hw.begun⟩
  | made feed hheld hopen hgood hcwd => exact ⟨h.once, h.begun⟩
  | returned hclosed => exact ⟨h.once, h.begun⟩
  | awaitsJob hopen hheld => exact ⟨h.once, h.begun⟩
  | awaitsCalls hopen hheld => exact ⟨h.once, h.begun⟩
  | letGo hclosing hjob hover => exact ⟨h.once, h.begun⟩
  | marked hclosing hover hcwd => exact ⟨h.once, h.begun⟩
  | @stepped k job w world hjob halive hcwd hadvanced => exact h.settleJob k job (w, world)
  | @stopped k fault job w world hjob halive hcwd hadvanced => exact h.settleJob k job (w, world)
  | @called i e hcall =>
      have hi : i < l.calls.length := (List.getElem?_eq_some_iff.mp hcall).1
      have hnew : i ∉ l.begun := by
        intro hmem
        obtain ⟨d, hd, hstage⟩ := (h.begun i).mp hmem
        rw [hcall] at hd
        obtain rfl := Option.some.inj hd
        exact hstage rfl
      refine ⟨List.nodup_append.mpr ⟨h.once, List.nodup_singleton i, ?_⟩, fun j => ?_⟩
      · intro j hj j' hj' heq
        exact hnew (List.mem_singleton.mp hj' ▸ heq ▸ hj)
      · show j ∈ l.begun ++ [i] ↔ ∃ d, (l.calls.set i ⟨e, .running⟩)[j]? = some d ∧ d.stage ≠ .waiting
        rw [List.mem_append, List.mem_singleton, h.begun j]
        by_cases hij : i = j
        · subst hij
          rw [List.getElem?_set_self hi]
          exact ⟨fun _ => ⟨_, rfl, nofun⟩, fun _ => Or.inr rfl⟩
        · rw [List.getElem?_set_ne hij]
          exact or_iff_left (Ne.symm hij)
  | @finished i e good world hcwd hcall =>
      have hi : i < l.calls.length := (List.getElem?_eq_some_iff.mp hcall).1
      refine ⟨h.once, fun j => (h.begun j).trans ?_⟩
      show _ ↔ ∃ d, (l.calls.set i ⟨e, .over⟩)[j]? = some d ∧ d.stage ≠ .waiting
      by_cases hij : i = j
      · subst hij
        rw [List.getElem?_set_self hi, hcall]
        exact ⟨fun _ => ⟨_, rfl, nofun⟩, fun _ => ⟨_, rfl, nofun⟩⟩
      · rw [List.getElem?_set_ne hij]

/-- **The handler is called at most once for each event**, in every run. -/
theorem numbered_of_run {c : Config} {world : World}
    (h : run? admits (fresh c world) moves = some l) : l.Numbered := by
  refine run_induction (motive := fun _ l => l.Numbered) ⟨List.nodup_nil, fun i => ?_⟩
    (fun _ _ _ _ _ ih _ hgo => ih.turned (go?_turned hgo)) h
  constructor
  · intro hmem
    cases hmem
  · rintro ⟨d, hd, -⟩
    cases hd

/-- Nothing differs but how far the calls of the handler are. -/
structure SameButCalls (l l' : Loop) : Prop where
  config : l'.config = l.config
  state : l'.state = l.state
  isReady : l'.isReady = l.isReady
  held : l'.held = l.held
  jobs : l'.jobs = l.jobs
  closings : l'.closings = l.closings
  isReturned : l'.isReturned = l.isReturned
  events : l'.events = l.events

theorem SameButCalls.refl (l : Loop) : SameButCalls l l := ⟨rfl, rfl, rfl, rfl, rfl, rfl, rfl, rfl⟩

theorem SameButCalls.trans {l'' : Loop} (h : SameButCalls l l') (h' : SameButCalls l' l'') :
    SameButCalls l l'' :=
  ⟨h'.config.trans h.config, h'.state.trans h.state, h'.isReady.trans h.isReady,
    h'.held.trans h.held, h'.jobs.trans h.jobs, h'.closings.trans h.closings,
    h'.isReturned.trans h.isReturned, h'.events.trans h.events⟩

theorem same_called {i : Nat} {e : Event} (h : l.calls[i]? = some ⟨e, .waiting⟩) :
    SameButCalls l { l with calls := l.calls.set i ⟨e, .running⟩, begun := l.begun ++ [i] } :=
  ⟨rfl, rfl, rfl, rfl, rfl, rfl, rfl, events_set h ⟨e, .running⟩ rfl⟩

theorem same_finished {i : Nat} {e : Event} (h : l.calls[i]? = some ⟨e, .running⟩) (world : World) :
    SameButCalls l { l with calls := l.calls.set i ⟨e, .over⟩, world := world } :=
  ⟨rfl, rfl, rfl, rfl, rfl, rfl, rfl, events_set h ⟨e, .over⟩ rfl⟩

/-- The handler can be called and be done at any time. -/
def AdmitsCalls (admits : Loop → Move → Bool) : Prop :=
  ∀ l i, admits l (.call i) = true ∧ ∀ good, admits l (.finish i good) = true

/-- A call that runs can come to its end. -/
theorem exists_finish (ha : AdmitsCalls admits) {i : Nat} {e : Event}
    (h : l.calls[i]? = some ⟨e, .running⟩) :
    ∃ l', run? admits l [.finish i true] = some l' ∧ SameButCalls l l'
      ∧ l'.calls = l.calls.set i ⟨e, .over⟩ := by
  have hgo : l.go? (.finish i true) = some { l with calls := l.calls.set i ⟨e, .over⟩ } := by
    rw [go?, finish?, h]
    rfl
  exact ⟨_, run?_singleton ((ha l i).2 true) hgo, same_finished h l.world, rfl⟩

/-- Wherever a call stands, it can come to its end. -/
theorem exists_finished_at (ha : AdmitsCalls admits) {i : Nat} {d : Call}
    (h : l.calls[i]? = some d) :
    ∃ more l', run? admits l more = some l' ∧ SameButCalls l l'
      ∧ l'.calls = l.calls.set i ⟨d.event, .over⟩ := by
  obtain ⟨e, stage⟩ := d
  obtain ⟨hi, hd⟩ := List.getElem?_eq_some_iff.mp h
  cases stage with
  | running =>
      obtain ⟨l', hrun, hsame, hcalls⟩ := exists_finish ha h
      exact ⟨_, l', hrun, hsame, hcalls⟩
  | waiting =>
      have hgo : l.go? (.call i)
          = some { l with calls := l.calls.set i ⟨e, .running⟩, begun := l.begun ++ [i] } := by
        rw [go?, call?, h]
      obtain ⟨l', hrun, hsame, hcalls⟩ := exists_finish ha
        (l := { l with calls := l.calls.set i ⟨e, .running⟩, begun := l.begun ++ [i] })
        (List.getElem?_set_self hi)
      refine ⟨_, l', run?_append_of_run? (run?_singleton (ha l i).1 hgo) hrun,
        (same_called h).trans hsame, ?_⟩
      rw [hcalls]
      exact List.set_set _
  | _ =>
      -- it is over
      refine ⟨[], l, rfl, .refl l, ?_⟩
      rw [← hd, List.set_getElem_self]

/-- **Nothing keeps the calls from coming to their ends**: without any turn but theirs, all can. -/
theorem exists_finished (ha : AdmitsCalls admits) (l : Loop) :
    ∃ more l', run? admits l more = some l' ∧ SameButCalls l l' ∧ ∀ d ∈ l'.calls, d.stage = .over := by
  -- one after the other, from the first on
  have hfirst : ∀ n : Nat, ∃ more l', run? admits l more = some l' ∧ SameButCalls l l'
      ∧ ∀ i < n, ∀ d : Call, l'.calls[i]? = some d → d.stage = .over := by
    intro n
    induction n with
    | zero => exact ⟨[], l, rfl, .refl l, fun i hi => absurd hi (Nat.not_lt_zero i)⟩
    | succ n ih =>
        obtain ⟨more, mid, hrun, hsame, hover⟩ := ih
        cases hn : mid.calls[n]? with
        | none =>
            refine ⟨more, mid, hrun, hsame, fun i hi d hd => ?_⟩
            rcases Nat.lt_succ_iff_lt_or_eq.mp hi with hi | rfl
            · exact hover i hi d hd
            · rw [hn] at hd
              cases hd
        | some d =>
            obtain ⟨last, l', hrun', hsame', hcalls⟩ := exists_finished_at ha hn
            refine ⟨_, l', run?_append_of_run? hrun hrun', hsame.trans hsame', fun i hi d' hd' => ?_⟩
            rw [hcalls] at hd'
            by_cases hin : n = i
            · subst hin
              rw [List.getElem?_set_self (List.getElem?_eq_some_iff.mp hn).1] at hd'
              obtain rfl := Option.some.inj hd'
              rfl
            · rw [List.getElem?_set_ne hin] at hd'
              exact hover i (by omega) d' hd'
  obtain ⟨more, l', hrun, hsame, hover⟩ := hfirst l.calls.length
  have hlength : l'.calls.length = l.calls.length := by
    simpa only [events, List.length_map] using congrArg List.length hsame.events
  refine ⟨more, l', hrun, hsame, fun d hd => ?_⟩
  obtain ⟨i, hi, hget⟩ := List.mem_iff_getElem.mp hd
  exact hover i (hlength ▸ hi) d (List.getElem?_eq_some_iff.mpr ⟨hi, hget⟩)

end Loop

end QueryTypings.Watch
