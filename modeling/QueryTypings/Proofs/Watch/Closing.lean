/-
  What closing a watcher comes to.

  1. **Tasks** — a task never marks a watcher as closed, and it tells once, by an event and by a mark,
     that the first pass is complete (`Advanced.ready`).

  2. **Order** — as long as no start makes a task while a close is under way, there is no second task;
     a close that has let the task go leaves no room for one (`Orderly`).

  3. **Closed** — then a close that has returned leaves a watcher closed for good, with nothing that
     could emit an event (`Done.turned`).

  4. **A start too late** — a start that makes a task while a close is under way undoes it: the close
     may return, and then the task goes on (`exists_undone`).  So a watcher stays closed if and only
     if no start comes at that time (`closed_terminal`).
-/
import QueryTypings.Proofs.Project.Start
import QueryTypings.Proofs.Watch.Turns
import Mathlib.Order.Basic

namespace QueryTypings.Watch

/-! ## Tasks -/

/-- How many of the events say that the first pass is complete. -/
def readyCount (events : List Event) : Nat := events.countP fun e => e.kind = .ready

theorem readyCount_append (es fs : List Event) :
    readyCount (es ++ fs) = readyCount es + readyCount fs :=
  List.countP_append

theorem readyCount_found (paths : List Path) :
    readyCount (paths.map Event.add ++ [Event.ready]) = 1 := by
  have hadds : readyCount (paths.map Event.add) = 0 := by
    refine List.countP_eq_zero.mpr fun e he => ?_
    obtain ⟨p, -, rfl⟩ := List.mem_map.mp he
    exact Bool.false_ne_true
  rw [readyCount_append, hadds]
  rfl

theorem readyCount_reports (reports : List Report) : readyCount (reports.map Report.event) = 0 := by
  refine List.countP_eq_zero.mpr fun e he => ?_
  obtain ⟨⟨change, path⟩, -, rfl⟩ := List.mem_map.mp he
  cases change with
  | added => exact Bool.false_ne_true
  | modified => exact Bool.false_ne_true
  | deleted => exact Bool.false_ne_true

variable {w w' : Watcher} {world : World}

/-- A task does not mark a watcher as closed. -/
theorem Advanced.not_closed (h : Advanced w world w') (hw : w.state ≠ .closed) :
    w'.state ≠ .closed := by
  cases h with
  | rested => exact hw
  | subscribed h => exact nofun
  | found h hscan => exact nofun
  | unscanned h hscan => exact nofun
  | heard h hbatches hrelevant => exact hw
  | failed h => exact nofun
  | ended => exact hw

/-- **A task tells that the first pass is complete** when it marks this, and at no other time. -/
theorem Advanced.ready (h : Advanced w world w') :
    (w'.isReady = w.isReady ∧ readyCount w'.pending = readyCount w.pending)
      ∨ (w.task = .subscribed ∧ w'.isReady = true
        ∧ readyCount w'.pending = readyCount w.pending + 1) := by
  have hfail : ∀ f, readyCount [Event.failure f] = 0 := fun f => rfl
  cases h with
  | rested => exact Or.inl ⟨rfl, rfl⟩
  | subscribed h => exact Or.inl ⟨rfl, rfl⟩
  | @found paths h hscan =>
      refine Or.inr ⟨h, rfl, ?_⟩
      show readyCount (w.pending ++ _) = _
      rw [readyCount_append, readyCount_found]
  | @unscanned f h hscan =>
      refine Or.inl ⟨rfl, ?_⟩
      show readyCount (w.pending ++ [.failure f]) = _
      rw [readyCount_append, hfail, Nat.add_zero]
  | heard h hbatches hrelevant =>
      refine Or.inl ⟨rfl, ?_⟩
      show readyCount (w.pending ++ _) = _
      rw [readyCount_append, readyCount_reports, Nat.add_zero]
  | @failed f feed h =>
      refine Or.inl ⟨rfl, ?_⟩
      show readyCount (w.pending ++ [.failure f]) = _
      rw [readyCount_append, hfail, Nat.add_zero]
  | ended => exact Or.inl ⟨rfl, rfl⟩

/-- The task has not looked at the files. -/
def Task.IsEarly (t : Task) : Prop := t = .waiting ∨ t = .subscribed

/-- A task that has not looked at the files had not before, and has marked nothing. -/
theorem Advanced.early (h : Advanced w world w') (he : w'.task.IsEarly) :
    w.task.IsEarly ∧ w'.isReady = w.isReady := by
  cases h with
  | rested => exact ⟨he, rfl⟩
  | subscribed h => exact ⟨Or.inl h, rfl⟩
  | found h hscan => rcases he with he | he <;> cases he
  | unscanned h hscan => rcases he with he | he <;> cases he
  | heard h hbatches hrelevant => exact ⟨he, rfl⟩
  | failed h => rcases he with he | he <;> cases he
  | ended => rcases he with he | he <;> cases he

namespace Loop

variable {l l' : Loop} {moves : List Move} {m : Move}

/-! ## Order -/

/-- What a list of at most one element holds somewhere, it holds at the first place and nowhere
    else. -/
theorem eq_singleton_of_getElem? {α : Type} {xs : List α} {k : Nat} {x : α} (h : xs.length ≤ 1)
    (hx : xs[k]? = some x) : k = 0 ∧ xs = [x] := by
  obtain ⟨hk, hget⟩ := List.getElem?_eq_some_iff.mp hx
  obtain rfl : k = 0 := by omega
  obtain ⟨only, rfl⟩ := List.length_eq_one_iff.mp (by omega : xs.length = 1)
  exact ⟨rfl, congrArg (fun y => [y]) hget⟩

/-- **What holds as long as no start comes too late.**  There is at most one task, and while it is
    alive the watcher holds it and closes wait for it; when the watcher has let it go, a close is under
    way or the watcher is closed. -/
structure Orderly (l : Loop) : Prop where
  few : l.jobs.length ≤ 1
  held : ∀ k, l.held = some k → k < l.jobs.length
  alive : ∀ job ∈ l.jobs, job.stage ≠ .over →
    l.held = some 0 ∧ l.state ≠ .closed ∧ ∀ x ∈ l.closings, x = .task 0
  dropped : l.held = none → l.jobs ≠ [] → l.closings ≠ [] ∨ l.state = .closed
  returned : l.isReturned = true → l.state = .closed
  unready : (∀ job ∈ l.jobs, job.stage.IsEarly) → l.isReady = false
  once : readyCount l.events = if l.isReady then 1 else 0

theorem Orderly.fresh (c : Config) (world : World) : (fresh c world).Orderly where
  few := Nat.zero_le 1
  held := nofun
  alive := nofun
  dropped := fun _ hne => absurd rfl hne
  returned := nofun
  unready := fun _ => rfl
  once := rfl

theorem Orderly.of_same (h : l.Orderly) (hs : SameButCalls l l') : l'.Orderly := by
  obtain ⟨-, hstate, hready, hheld, hjobs, hclosings, hreturned, hevents⟩ := hs
  constructor
  case few => exact hjobs ▸ h.few
  case held => rw [hheld, hjobs]; exact h.held
  case alive => rw [hjobs, hheld, hstate, hclosings]; exact h.alive
  case dropped => rw [hheld, hjobs, hclosings, hstate]; exact h.dropped
  case returned => rw [hreturned, hstate]; exact h.returned
  case unready => rw [hjobs, hready]; exact h.unready
  case once => rw [hevents, hready]; exact h.once

/-- A task with a number is the only one. -/
theorem Orderly.single (h : l.Orderly) {k : Nat} {job : Job} (hjob : l.jobs[k]? = some job) :
    k = 0 ∧ l.jobs = [job] :=
  eq_singleton_of_getElem? h.few hjob

theorem Orderly.settleJob (h : l.Orderly) {k : Nat} {job : Job} (hjob : l.jobs[k]? = some job)
    (halive : job.stage ≠ .over) {w : Watcher} {world : World}
    (ha : Advanced (l.watcher job.stage job.feed) l.world w) :
    (l.settleJob k job (w, world)).Orderly := by
  obtain ⟨rfl, hjobs⟩ := h.single hjob
  obtain ⟨hheld, hopen, hclosings⟩ := h.alive job (hjobs ▸ List.mem_singleton_self job) halive
  have hevents : (l.settleJob 0 job (w, world)).events = l.events ++ w.pending :=
    events_adopt l w world
  have hunready : job.stage.IsEarly → l.isReady = false := by
    intro he
    refine h.unready fun other hother => ?_
    rw [hjobs] at hother
    rwa [List.mem_singleton.mp hother]
  constructor
  case few => exact (List.length_set ..).trans_le h.few
  case held => exact fun k hk => (h.held k hk).trans_eq (List.length_set ..).symm
  case alive => exact fun _ _ _ => ⟨hheld, ha.not_closed hopen, hclosings⟩
  case dropped =>
    intro hnone
    cases hheld.symm.trans hnone
  case returned => exact fun hr => absurd (h.returned hr) hopen
  case unready =>
    intro hearly
    have hjob' : (⟨w.task, w.feed, job.isCancelled⟩ : Job) ∈ (l.settleJob 0 job (w, world)).jobs := by
      show _ ∈ l.jobs.set 0 _
      rw [hjobs]
      exact List.mem_cons_self
    obtain ⟨hbefore, hsame⟩ := ha.early (hearly _ hjob')
    exact hsame.trans (hunready hbefore)
  case once =>
    rw [hevents, readyCount_append, h.once]
    rcases ha.ready with ⟨hsame, hcount⟩ | ⟨hbefore, hmarked, hcount⟩
    · show _ = if w.isReady then 1 else 0
      rw [hcount, hsame]
      rfl
    · -- before the first pass nothing was marked
      show _ = if w.isReady then 1 else 0
      rw [hcount, hmarked, hunready (Or.inr hbefore)]
      rfl

/-- A start that makes a task is in time if no close is under way. -/
theorem closings_of_timely {feed : Feed} (hm : l.timely (.start feed) = true)
    (hmade : (l.started feed).jobs.length ≠ l.jobs.length) : l.closings = [] := by
  rcases Bool.or_eq_true_iff.mp hm with hempty | hsame
  · exact List.isEmpty_iff.mp hempty
  · exact absurd (eq_of_beq hsame) hmade

/-- When neither a task is held nor a close is under way, there has been no task. -/
theorem Orderly.unstarted (h : l.Orderly) (hheld : l.held = none) (hopen : l.state ≠ .closed)
    (hclosings : l.closings = []) : l.jobs = [] := by
  by_contra hne
  rcases h.dropped hheld hne with hunder | hclosed
  · exact hunder hclosings
  · exact hopen hclosed

/-- A task that is made while no close is under way is the only one. -/
theorem Orderly.make (h : l.Orderly) (hheld : l.held = none) (hopen : l.state ≠ .closed)
    (hclosings : l.closings = []) (feed : Feed) (world : World) :
    Orderly { l with
      world := world
      held := some l.jobs.length
      jobs := l.jobs ++ [⟨.waiting, feed, false⟩] } := by
  have hjobs : l.jobs = [] := h.unstarted hheld hopen hclosings
  have hlength : (l.jobs ++ [(⟨.waiting, feed, false⟩ : Job)]).length = 1 := by
    rw [hjobs]
    rfl
  constructor
  case few => exact Nat.le_of_eq hlength
  case held =>
    intro k hk
    obtain rfl := Option.some.inj hk
    show _ < (l.jobs ++ [_]).length
    rw [hlength, hjobs]
    exact Nat.zero_lt_one
  case alive =>
    refine fun job hjob hover => ⟨?_, hopen, fun x hx => ?_⟩
    · show some l.jobs.length = some 0
      rw [hjobs]
      rfl
    · rw [hclosings] at hx
      cases hx
  case dropped => exact nofun
  case returned => exact fun hr => absurd (h.returned hr) hopen
  case unready =>
    refine fun _ => h.unready fun job hjob => ?_
    rw [hjobs] at hjob
    cases hjob
  case once => exact h.once

/-- A close that cancels the task that is held waits for the only one. -/
theorem Orderly.cancel (h : l.Orderly) {k : Nat} (hheld : l.held = some k) :
    Orderly { l with jobs := l.cancelled k, closings := l.closings ++ [.task k] } := by
  have hlength : (l.cancelled k).length = l.jobs.length := List.length_mapIdx
  obtain rfl : k = 0 := by
    have hk := h.held k hheld
    have hfew := h.few
    omega
  constructor
  case few => exact hlength.trans_le h.few
  case held => exact fun k hk => (h.held k hk).trans_eq hlength.symm
  case alive =>
    intro job hjob hover
    obtain ⟨before, hbefore, hstage, -⟩ := mem_cancelled hjob
    obtain ⟨hheld', hopen, hclosings⟩ := h.alive before hbefore (hstage ▸ hover)
    refine ⟨hheld', hopen, fun x hx => ?_⟩
    rcases List.mem_append.mp hx with hx | hx
    · exact hclosings x hx
    · exact List.mem_singleton.mp hx
  case dropped =>
    intro hnone
    cases hheld.symm.trans hnone
  case returned => exact h.returned
  case unready =>
    refine fun hearly => h.unready fun before hbefore => ?_
    obtain ⟨i, hi, hget⟩ := List.mem_iff_getElem.mp hbefore
    have hmem := List.getElem_mem (hlength ▸ hi : i < (l.cancelled 0).length)
    have hstage := hearly _ hmem
    simp only [cancelled, List.getElem_mapIdx, hget] at hstage
    split at hstage
    · exact hstage
    · exact hstage
  case once => exact h.once

/-- A close that lets the task go goes on to wait for calls. -/
theorem Orderly.letGo (h : l.Orderly) {number k : Nat} {job : Job}
    (hclosing : l.closings[number]? = some (.task k)) (hjob : l.jobs[k]? = some job)
    (hover : job.stage = .over) :
    Orderly { l with held := none, closings := l.closings.set number (.calls l.unfinished) } := by
  obtain ⟨rfl, hjobs⟩ := h.single hjob
  refine ⟨h.few, nofun, fun other hother hstage => ?_, fun _ _ => Or.inl ?_, h.returned, h.unready,
    h.once⟩
  · rw [hjobs] at hother
    rw [List.mem_singleton.mp hother] at hstage
    exact absurd hover hstage
  · intro hnil
    rw [List.set_eq_nil_iff] at hnil
    rw [hnil] at hclosing
    cases hclosing

theorem Orderly.turned (h : l.Orderly) (hm : l.timely m = true) (hgo : l.go? m = some l') :
    l'.Orderly := by
  cases go?_turned hgo with
  | edited t log => exact ⟨h.few, h.held, h.alive, h.dropped, h.returned, h.unready, h.once⟩
  | idle feed => exact h
  | missing feed hheld hopen hgood hcwd hno =>
      refine ⟨h.few, h.held, fun job hjob hover => ?_, fun hnone hne => ?_, fun hr => ?_, h.unready, ?_⟩
      · cases hheld.symm.trans (h.alive job hjob hover).1
      · exact Or.inl ((h.dropped hnone hne).resolve_right hopen)
      · exact absurd (h.returned hr) hopen
      · show readyCount ((l.calls ++ [_]).map Call.event) = _
        rw [List.map_append, readyCount_append]
        exact h.once
  | @made feed world hheld hopen hgood hcwd =>
      have hstarted := Option.some.inj hgo
      have hclosings : l.closings = [] := by
        refine closings_of_timely hm ?_
        rw [hstarted]
        show (l.jobs ++ [_]).length ≠ _
        rw [List.length_append, List.length_singleton]
        exact Nat.succ_ne_self _
      exact h.make hheld hopen hclosings feed world
  | returned hclosed =>
      exact ⟨h.few, h.held, h.alive, h.dropped, fun _ => hclosed, h.unready, h.once⟩
  | awaitsJob hopen hheld => exact h.cancel hheld
  | awaitsCalls hopen hheld =>
      refine ⟨h.few, h.held, fun job hjob hover => ?_, fun _ _ => Or.inl ?_, h.returned, h.unready,
        h.once⟩
      · cases hheld.symm.trans (h.alive job hjob hover).1
      · exact List.concat_ne_nil _ _
  | letGo hclosing hjob hover => exact h.letGo hclosing hjob hover
  | @marked number ids world hclosing hover hcwd =>
      have hmem := List.mem_of_getElem? hclosing
      refine ⟨h.few, h.held, fun job hjob halive => ?_, fun _ _ => Or.inr rfl, fun _ => rfl,
        h.unready, h.once⟩
      cases (h.alive job hjob halive).2.2 _ hmem
  | stepped hjob halive hcwd hadvanced => exact h.settleJob hjob halive hadvanced
  | stopped hjob halive hcwd hadvanced => exact h.settleJob hjob halive hadvanced
  | called hcall => exact h.of_same (same_called hcall)
  | @finished i e good world hcwd hcall => exact h.of_same (same_finished hcall world)

theorem orderly_of_run {c : Config} {world : World}
    (h : run? timely (Loop.fresh c world) moves = some l) : l.Orderly :=
  run_induction (motive := fun _ l => l.Orderly) (.fresh c world)
    (fun _ _ _ _ _ ih hm hgo => ih.turned hm hgo) h

/-! ## Closed -/

variable {admits : Loop → Move → Bool} {more : List Move}

/-- The watcher is closed, and no task is alive. -/
structure Done (l : Loop) : Prop where
  closed : l.state = .closed
  ended : ∀ job ∈ l.jobs, job.stage = .over

/-- **Whatever turn is taken then, nothing comes of it**, be it in time or not. -/
theorem Done.turned (h : l.Done) (ht : Turned l m l') :
    l'.state = .closed ∧ l'.jobs = l.jobs ∧ l'.events = l.events := by
  cases ht with
  | edited t log => exact ⟨h.closed, rfl, rfl⟩
  | idle feed => exact ⟨h.closed, rfl, rfl⟩
  | missing feed hheld hopen hgood hcwd hno => exact absurd h.closed hopen
  | made feed hheld hopen hgood hcwd => exact absurd h.closed hopen
  | returned hclosed => exact ⟨h.closed, rfl, rfl⟩
  | awaitsJob hopen hheld => exact absurd h.closed hopen
  | awaitsCalls hopen hheld => exact absurd h.closed hopen
  | letGo hclosing hjob hover => exact ⟨h.closed, rfl, rfl⟩
  | marked hclosing hover hcwd => exact ⟨rfl, rfl, rfl⟩
  | stepped hjob halive hcwd hadvanced =>
      exact absurd (h.ended _ (List.mem_of_getElem? hjob)) halive
  | stopped hjob halive hcwd hadvanced =>
      exact absurd (h.ended _ (List.mem_of_getElem? hjob)) halive
  | called hcall => exact ⟨h.closed, rfl, (same_called hcall).events⟩
  | @finished i e good world hcwd hcall => exact ⟨h.closed, rfl, (same_finished hcall world).events⟩

theorem Done.run (h : l.Done) (hrun : run? admits l more = some l') :
    l'.state = .closed ∧ l'.jobs = l.jobs ∧ l'.events = l.events := by
  refine run_induction (motive := fun _ last => last.state = .closed ∧ last.jobs = l.jobs
    ∧ last.events = l.events) ⟨h.closed, rfl, rfl⟩ ?_ hrun
  intro moves mid m last _ ih _ hgo
  obtain ⟨hclosed, hjobs, hevents⟩ := ih
  have hdone : mid.Done := ⟨hclosed, hjobs ▸ h.ended⟩
  obtain ⟨hclosed', hjobs', hevents'⟩ := hdone.turned (go?_turned hgo)
  exact ⟨hclosed', hjobs'.trans hjobs, hevents'.trans hevents⟩

/-- When starts are in time, a close that has returned leaves the watcher closed for good. -/
theorem Orderly.done (h : l.Orderly) (hr : l.isReturned = true) : l.Done where
  closed := h.returned hr
  ended := by
    intro job hjob
    by_contra hover
    exact (h.alive job hjob hover).2.1 (h.returned hr)

/-! ## A start too late -/

/-- A task for which a close waits is cancelled or over, and a task that is held is there. -/
structure Awaited (l : Loop) : Prop where
  held : ∀ k, l.held = some k → k < l.jobs.length
  ending : ∀ k, .task k ∈ l.closings →
    ∃ job, l.jobs[k]? = some job ∧ (job.isCancelled = true ∨ job.stage = .over)

theorem Awaited.fresh (c : Config) (world : World) : (fresh c world).Awaited :=
  ⟨nofun, nofun⟩

theorem Awaited.settleJob (h : l.Awaited) {k : Nat} {job : Job} (hjob : l.jobs[k]? = some job)
    (halive : job.stage ≠ .over) (r : Watcher × World) : (l.settleJob k job r).Awaited := by
  have hk := (List.getElem?_eq_some_iff.mp hjob).1
  refine ⟨fun j hj => (h.held j hj).trans_eq (List.length_set ..).symm, fun j hj => ?_⟩
  obtain ⟨awaited, hawaited, hending⟩ := h.ending j hj
  by_cases hkj : k = j
  · subst hkj
    rw [hjob] at hawaited
    obtain rfl := Option.some.inj hawaited
    exact ⟨_, List.getElem?_set_self hk, Or.inl (hending.resolve_right halive)⟩
  · exact ⟨awaited, (List.getElem?_set_ne hkj).trans hawaited, hending⟩

theorem Awaited.turned (h : l.Awaited) (ht : Turned l m l') : l'.Awaited := by
  cases ht with
  | edited t log => exact ⟨h.held, h.ending⟩
  | idle feed => exact h
  | missing feed hheld hopen hgood hcwd hno => exact ⟨h.held, h.ending⟩
  | @made feed world hheld hopen hgood hcwd =>
      refine ⟨fun k hk => ?_, fun k hk => ?_⟩
      · obtain rfl := Option.some.inj hk
        show _ < (l.jobs ++ [_]).length
        rw [List.length_append, List.length_singleton]
        exact Nat.lt_succ_self _
      · obtain ⟨job, hjob, hending⟩ := h.ending k hk
        have hk := (List.getElem?_eq_some_iff.mp hjob).1
        exact ⟨job, (List.getElem?_append_left hk).trans hjob, hending⟩
  | returned hclosed => exact ⟨h.held, h.ending⟩
  | @awaitsJob k hopen hheld =>
      have hget : ∀ j : Nat, (l.cancelled k)[j]?
          = (l.jobs[j]?).map fun job => if j = k then { job with isCancelled := true } else job :=
        fun j => List.getElem?_mapIdx
      refine ⟨fun j hj => (h.held j hj).trans_eq List.length_mapIdx.symm, fun j hj => ?_⟩
      show ∃ job, (l.cancelled k)[j]? = some job ∧ _
      rcases List.mem_append.mp hj with hj | hj
      · obtain ⟨job, hjob, hending⟩ := h.ending j hj
        rw [hget, hjob]
        refine ⟨_, rfl, ?_⟩
        split
        · exact Or.inl rfl
        · exact hending
      · obtain rfl : j = k := by
          injection List.mem_singleton.mp hj
        have hj := List.getElem?_eq_getElem (h.held j hheld)
        rw [hget, hj, Option.map_some, if_pos rfl]
        exact ⟨_, rfl, Or.inl rfl⟩
  | awaitsCalls hopen hheld =>
      refine ⟨h.held, fun k hk => ?_⟩
      rcases List.mem_append.mp hk with hk | hk
      · exact h.ending k hk
      · cases List.mem_singleton.mp hk
  | letGo hclosing hjob hover =>
      refine ⟨nofun, fun k hk => ?_⟩
      rcases List.mem_or_eq_of_mem_set hk with hk | hk
      · exact h.ending k hk
      · cases hk
  | marked hclosing hover hcwd =>
      exact ⟨h.held, fun k hk => h.ending k (List.mem_of_mem_eraseIdx hk)⟩
  | @stepped k job w world hjob halive hcwd hadvanced => exact h.settleJob hjob halive (w, world)
  | @stopped k fault job w world hjob halive hcwd hadvanced =>
      exact h.settleJob hjob halive (w, world)
  | called hcall => exact ⟨h.held, h.ending⟩
  | finished hcwd hcall => exact ⟨h.held, h.ending⟩

theorem awaited_of_run {c : Config} {world : World}
    (h : run? admits (Loop.fresh c world) moves = some l) : l.Awaited :=
  run_induction (motive := fun _ l => l.Awaited) (.fresh c world)
    (fun _ _ _ _ _ ih _ hgo => ih.turned (go?_turned hgo)) h

/-- The tasks that nobody has cancelled are where they were. -/
def KeepsJobs (l l' : Loop) : Prop :=
  ∀ (k : Nat) (job : Job), l.jobs[k]? = some job → job.isCancelled = false →
    l'.jobs[k]? = some job

/-- The task for which a close waits can come to its end. -/
theorem exists_stopped {k : Nat} {job : Job} (hjob : l.jobs[k]? = some job)
    (hending : job.isCancelled = true ∨ job.stage = .over) :
    ∃ more l' job', run? anyhow l more = some l' ∧ l'.closings = l.closings ∧ KeepsJobs l l'
      ∧ l'.jobs[k]? = some job' ∧ job'.stage = .over := by
  by_cases hover : job.stage = .over
  · exact ⟨[], l, job, rfl, rfl, fun _ _ hget _ => hget, hjob, hover⟩
  · have hcancelled := hending.resolve_right hover
    refine ⟨[.stop k none], _, _, run?_singleton rfl (go_stop hjob hcancelled hover), rfl,
      fun j other hother hnot => ?_,
      List.getElem?_set_self (List.getElem?_eq_some_iff.mp hjob).1, rfl⟩
    have hkj : k ≠ j := by
      rintro rfl
      rw [hjob] at hother
      obtain rfl := Option.some.inj hother
      rw [hnot] at hcancelled
      cases hcancelled
    exact (List.getElem?_set_ne hkj).trans hother

/-- **A close that is under way can return**, and no task has to take a turn for it that nobody has
    cancelled. -/
theorem exists_returned (h : l.Awaited) (hunder : l.closings ≠ []) :
    ∃ more l', run? anyhow l more = some l' ∧ l'.isReturned = true ∧ KeepsJobs l l' := by
  -- first the close comes to wait for calls of the handler
  have hcalls : ∃ more mid ids, run? anyhow l more = some mid
      ∧ mid.closings[0]? = some (.calls ids) ∧ KeepsJobs l mid := by
    cases hclosings : l.closings with
    | nil => exact absurd hclosings hunder
    | cons x rest =>
        have hfirst : l.closings[0]? = some x := by
          rw [hclosings]
          rfl
        cases x with
        | calls ids => exact ⟨[], l, ids, rfl, hfirst, fun _ _ hget _ => hget⟩
        | task k =>
            obtain ⟨job, hjob, hending⟩ := h.ending k (List.mem_of_getElem? hfirst)
            obtain ⟨more, mid, job', hrun, hsame, hkeeps, hjob', hover⟩ := exists_stopped hjob hending
            have hgo := go_letGo (hsame.symm ▸ hfirst) hjob' hover
            refine ⟨_, _, mid.unfinished, run?_append_of_run? hrun (run?_singleton rfl hgo), ?_, hkeeps⟩
            refine List.getElem?_set_self ?_
            rw [hsame, hclosings]
            exact Nat.zero_lt_succ _
  obtain ⟨more, mid, ids, hrun, hclosing, hkeeps⟩ := hcalls
  -- then the calls come to their ends
  obtain ⟨finishing, mid', hrun', hsame, hover⟩ :=
    exists_finished (fun _ _ => ⟨rfl, fun _ => rfl⟩ : AdmitsCalls anyhow) mid
  have hclosing' : mid'.closings[0]? = some (.calls ids) := hsame.closings ▸ hclosing
  have hgo := go_marked hclosing' hover
  refine ⟨_, _, run?_append_of_run? (run?_append_of_run? hrun hrun') (run?_singleton rfl hgo), rfl,
    fun k job hget hnot => ?_⟩
  show mid'.jobs[k]? = some job
  rw [hsame.jobs]
  exact hkeeps k job hget hnot

/-- A start that comes too late has made a task, and leaves the closes as they are. -/
theorem made_of_late {feed : Feed} (hlate : l.timely (.start feed) = false) :
    l.closings ≠ [] ∧ (l.started feed).closings = l.closings
      ∧ (l.started feed).jobs[l.jobs.length]? = some ⟨.waiting, feed, false⟩ := by
  obtain ⟨hunder, hmade⟩ := Bool.or_eq_false_iff.mp hlate
  have hne : l.closings ≠ [] := fun hnil => by
    rw [hnil] at hunder
    cases hunder
  obtain ⟨last, hlast⟩ : ∃ last, l.started feed = last := ⟨_, rfl⟩
  have ht := started_turned l feed
  rw [hlast] at hmade ht ⊢
  cases ht with
  | idle feed => exact absurd rfl (ne_of_beq_false hmade)
  | missing feed hheld hopen hgood hcwd hno => exact absurd rfl (ne_of_beq_false hmade)
  | made feed hheld hopen hgood hcwd => exact ⟨hne, rfl, List.getElem?_concat_length⟩

/-- **A start that comes too late may undo a close**: some close returns, and then the task that the
    start has made goes on. -/
theorem exists_undone (h : l.Awaited) {feed : Feed} (hlate : l.timely (.start feed) = false) :
    ∃ more l', run? anyhow l (.start feed :: more) = some l' ∧ l'.isReturned = true
      ∧ l'.state = .scanning ∧ ∃ job ∈ l'.jobs, job.stage = .subscribed := by
  obtain ⟨hunder, hclosings, hjob⟩ := made_of_late hlate
  have hgo : l.go? (.start feed) = some (l.started feed) := rfl
  have hawaited : (l.started feed).Awaited := h.turned (go?_turned hgo)
  obtain ⟨more, mid, hrun, hreturned, hkeeps⟩ := exists_returned hawaited (hclosings ▸ hunder)
  have hjob' := hkeeps _ _ hjob rfl
  have hstep := go_step hjob' ⟨nofun, Or.inl rfl⟩
  have hfirst : run? anyhow l [.start feed] = some (l.started feed) := run?_singleton rfl hgo
  have hlast := run?_singleton (rfl : anyhow mid (.step l.jobs.length) = true) hstep
  have hwhole := run?_append_of_run? hfirst (run?_append_of_run? hrun hlast)
  refine ⟨_, _, hwhole, hreturned, rfl, ⟨.subscribed, feed, false⟩, ?_, rfl⟩
  exact List.mem_of_getElem? (List.getElem?_set_self (List.getElem?_eq_some_iff.mp hjob').1)

/-- **When a watcher stays closed.**  If no start makes a task while a close is under way, then the
    watcher says at most once that its first pass is complete; and once some close has returned, it is
    closed, no task is alive, and whatever turns follow change nothing of this and emit nothing.  A
    start that makes a task at that time lets turns follow after which some close has returned, and
    the watcher is not closed and its task is alive. -/
theorem closed_terminal (c : Config) (world : World) :
    (∀ moves l, run? timely (Loop.fresh c world) moves = some l →
      readyCount l.events ≤ 1
        ∧ (l.isReturned = true → l.state = .closed ∧ (∀ job ∈ l.jobs, job.stage = .over)
          ∧ ∀ more l', run? anyhow l more = some l' →
            l'.state = .closed ∧ l'.jobs = l.jobs ∧ l'.events = l.events))
    ∧ ∀ moves l feed, run? anyhow (Loop.fresh c world) moves = some l →
      l.timely (.start feed) = false →
        ∃ more l', run? anyhow l (.start feed :: more) = some l' ∧ l'.isReturned = true
          ∧ l'.state ≠ .closed ∧ ∃ job ∈ l'.jobs, job.stage ≠ .over := by
  constructor
  · intro moves l hrun
    have horderly := orderly_of_run hrun
    refine ⟨?_, fun hreturned => ?_⟩
    · rw [horderly.once]
      split
      · exact Nat.le_refl 1
      · exact Nat.zero_le 1
    · have hdone := horderly.done hreturned
      exact ⟨hdone.closed, hdone.ended, fun more l' hmore => hdone.run hmore⟩
  · intro moves l feed hrun hlate
    obtain ⟨more, l', hundone, hreturned, hstate, job, hjob, hstage⟩ :=
      exists_undone (awaited_of_run hrun) hlate
    refine ⟨more, l', hundone, hreturned, ?_, job, hjob, ?_⟩
    · rw [hstate]
      exact nofun
    · rw [hstage]
      exact nofun

/-- A feed that never reports anything. -/
def quietFeed : Feed := ⟨[], .stays⟩

/-- A watcher is started and looks at the files; it is closed while the handler is still at work on
    the first event. -/
def closingTurns : List Move :=
  [.start quietFeed, .step 0, .step 0, .call 0, .call 1, .finish 1 true, .close, .stop 0 none,
    .resume 0, .finish 0 true]

/-- What the turns come to in the small project: in time and with a start that is not, after which
    the close returns and the second task looks at the files. -/
theorem closing_facts :
    ((run? timely (Loop.fresh smallConfig (smallWorld "query Q{a}"))
        (closingTurns ++ [.resume 0])).map fun l => l.isReturned) = some true
      ∧ ((run? anyhow (Loop.fresh smallConfig (smallWorld "query Q{a}")) closingTurns).map
        fun l => l.timely (.start quietFeed)) = some false
      ∧ ((run? anyhow (Loop.fresh smallConfig (smallWorld "query Q{a}"))
        (closingTurns ++ [.start quietFeed, .resume 0, .step 1, .step 1])).map
          fun l => (l.isReturned, l.state, readyCount l.events)) = some (true, .ready, 2) := by
  decide +kernel

/-- In the small project the watcher stays closed if no start comes; if one comes before the close
    returns, then the watcher becomes ready after that, and says so for the second time. -/
theorem closed_terminal_smallWorld :
    (∃ l, run? timely (Loop.fresh smallConfig (smallWorld "query Q{a}"))
        (closingTurns ++ [.resume 0]) = some l ∧ l.state = .closed ∧ readyCount l.events ≤ 1)
      ∧ (∃ l more l', run? anyhow (Loop.fresh smallConfig (smallWorld "query Q{a}")) closingTurns
          = some l ∧ run? anyhow l (.start quietFeed :: more) = some l'
        ∧ l'.isReturned = true ∧ l'.state ≠ .closed)
      ∧ ∃ l, run? anyhow (Loop.fresh smallConfig (smallWorld "query Q{a}"))
          (closingTurns ++ [.start quietFeed, .resume 0, .step 1, .step 1]) = some l
        ∧ l.isReturned = true ∧ l.state = .ready ∧ readyCount l.events = 2 := by
  obtain ⟨htimely, hlate, hundone⟩ := closing_facts
  obtain ⟨hstays, hundoes⟩ := closed_terminal smallConfig (smallWorld "query Q{a}")
  refine ⟨?_, ?_, ?_⟩
  · obtain ⟨l, hrun, hreturned⟩ := Option.map_eq_some_iff.mp htimely
    obtain ⟨honce, hclosed⟩ := hstays _ l hrun
    exact ⟨l, hrun, (hclosed hreturned).1, honce⟩
  · obtain ⟨l, hrun, hnot⟩ := Option.map_eq_some_iff.mp hlate
    obtain ⟨more, l', hmore, hreturned, hopen, -⟩ := hundoes _ l quietFeed hrun hnot
    exact ⟨l, more, l', hrun, hmore, hreturned, hopen⟩
  · obtain ⟨l, hrun, hfacts⟩ := Option.map_eq_some_iff.mp hundone
    obtain ⟨hreturned, hrest⟩ := Prod.mk.inj hfacts
    obtain ⟨hstate, hcount⟩ := Prod.mk.inj hrest
    exact ⟨l, hrun, hreturned, hstate, hcount⟩

end Loop

end QueryTypings.Watch
