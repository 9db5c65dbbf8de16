/-
  What a watcher tells, from its start to its close.

  1. **Telling** — the events that may be told by then (`Told`): nothing; one failure; or the files of
     a scan, that the scan is complete, and the reports of batches, with a failure at the end or not.

  2. **One task** — what a task emits in its turn continues what was told (`Recorded.advanced`).

  3. **Calls apart** — as long as calls of start and close do not overlap, a close waits for all calls
     of the handler that are left, so they are over when it marks the watcher as closed
     (`Sequential`), and the events are told in order (`Story`).

  4. **Protocol** — so each event is handed over once, and nothing comes after a close has returned
     (`watcher_protocol`).
-/
import QueryTypings.Proofs.Watch.Closing
import QueryTypings.Proofs.Watch.Coverage
import QueryTypings.Proofs.Watch.Scanned

namespace QueryTypings.Watch

variable {cwd : Path} {c : Config} {P P' : World → Prop} {F F' : Feed → Prop}
  {batches : List (List Report)} {events : List Event}

/-! ## Telling -/

/-- A scan of a world has been told of, in order, then that it is complete, and then the reports that
    matter of some batches, each batch in the order of the paths. -/
def Heard (cwd : Path) (c : Config) (P : World → Prop) (batches : List (List Report))
    (events : List Event) : Prop :=
  ∃ (world : World) (paths : List Path) (reports : List (List Report)),
    P world ∧ scan world c = .ok paths
      ∧ paths.Pairwise (fun p q => namesLe p.parts q.parts = true) ∧ paths.Nodup
      ∧ List.Forall₂ (fun batch rs => relevant? cwd c batch = some rs) batches reports
      ∧ (∀ rs ∈ reports, rs.Pairwise fun a b => a.path ≤ b.path)
      ∧ events = paths.map Event.add ++ Event.ready :: reports.flatten.map Report.event

/-- The events that may be told, where the worlds of a scan and the feeds of a task have
    properties. -/
inductive Told (cwd : Path) (c : Config) (P : World → Prop) (F : Feed → Prop) : List Event → Prop
  | nothing : Told cwd c P F []
  /-- The directory is missing. -/
  | missing {world : World} (passed : P world)
      (gone : world.isDirectory (c.resolvedSearch cwd) = .ok false) :
      Told cwd c P F [.failure (.noDirectory (c.resolvedSearch cwd))]
  /-- The scan fails. -/
  | unscanned {world : World} {f : WatchFault} (passed : P world)
      (failed : scan world c = .error f) : Told cwd c P F [.failure f]
  | heard {feed : Feed} {batches : List (List Report)} {events : List Event} (given : F feed)
      (received : batches <+: feed.batches) (told : Heard cwd c P batches events) :
      Told cwd c P F events
  /-- The feed fails. -/
  | broken {feed : Feed} {batches : List (List Report)} {events : List Event} (f : WatchFault)
      (given : F feed) (received : batches <+: feed.batches) (told : Heard cwd c P batches events) :
      Told cwd c P F (events ++ [.failure f])

theorem Heard.mono (h : Heard cwd c P batches events) (hP : ∀ world, P world → P' world) :
    Heard cwd c P' batches events := by
  obtain ⟨world, paths, reports, hworld, hrest⟩ := h
  exact ⟨world, paths, reports, hP world hworld, hrest⟩

theorem Told.mono (h : Told cwd c P F events) (hP : ∀ world, P world → P' world)
    (hF : ∀ feed, F feed → F' feed) : Told cwd c P' F' events := by
  cases h with
  | nothing => exact .nothing
  | missing passed gone => exact .missing (hP _ passed) gone
  | unscanned passed failed => exact .unscanned (hP _ passed) failed
  | heard given received told => exact .heard (hF _ given) received (told.mono hP)
  | broken f given received told => exact .broken f (hF _ given) received (told.mono hP)

theorem Heard.scanned {world : World} {paths : List Path} (hworld : P world)
    (hscan : scan world c = .ok paths) :
    Heard cwd c P [] (paths.map Event.add ++ [Event.ready]) := by
  obtain ⟨hsorted, honce⟩ := scan_sorted hscan
  exact ⟨world, paths, [], hworld, hscan, hsorted, honce, .nil, fun rs hrs => (by cases hrs), rfl⟩

/-- One more batch. -/
theorem Heard.concat (h : Heard cwd c P batches events) {batch rs : List Report}
    (hrs : relevant? cwd c batch = some rs) :
    Heard cwd c P (batches ++ [batch]) (events ++ rs.map Report.event) := by
  obtain ⟨world, paths, reports, hworld, hscan, hsorted, honce, hreports, horder, rfl⟩ := h
  refine ⟨world, paths, reports ++ [rs], hworld, hscan, hsorted, honce, ?_, fun rs' hrs' => ?_, ?_⟩
  · exact List.rel_append hreports (.cons hrs .nil)
  · rcases List.mem_append.mp hrs' with hrs' | hrs'
    · exact horder rs' hrs'
    · rw [List.mem_singleton.mp hrs']
      exact relevant?_sorted hrs
  · rw [List.flatten_append, List.map_append, List.append_assoc, List.cons_append]
    simp only [List.flatten_singleton]

/-! ## One task -/

/-- What was told agrees with where a task stands and with what its feed will report. -/
inductive Recorded (cwd : Path) (c : Config) (P : World → Prop) (F : Feed → Prop) (left : Feed) :
    Task → List Event → Prop
  | early {stage : Task} (stands : stage.IsEarly) (given : F left) :
      Recorded cwd c P F left stage []
  | listening {feed : Feed} {batches : List (List Report)} {events : List Event} (given : F feed)
      (split : feed.batches = batches ++ left.batches) (told : Heard cwd c P batches events) :
      Recorded cwd c P F left .listening events
  | ended {events : List Event} (told : Told cwd c P F events) : Recorded cwd c P F left .over events

variable {left : Feed} {stage : Task}

theorem Recorded.mono (h : Recorded cwd c P F left stage events) (hP : ∀ world, P world → P' world)
    (hF : ∀ feed, F feed → F' feed) : Recorded cwd c P' F' left stage events := by
  cases h with
  | early stands given => exact .early stands (hF _ given)
  | listening given split told => exact .listening (hF _ given) split (told.mono hP)
  | ended told => exact .ended (told.mono hP hF)

theorem Recorded.told (h : Recorded cwd c P F left stage events) : Told cwd c P F events := by
  cases h with
  | early stands given => exact .nothing
  | listening given split told => exact .heard given (split ▸ List.prefix_append _ _) told
  | ended told => exact told

/-- Before a task has looked at the files nothing is told. -/
theorem Recorded.of_early (h : Recorded cwd c P F left stage events) (hs : stage.IsEarly) :
    F left ∧ events = [] := by
  cases h with
  | early stands given => exact ⟨given, rfl⟩
  | listening given split told => rcases hs with hs | hs <;> cases hs
  | ended told => rcases hs with hs | hs <;> cases hs

theorem Recorded.of_listening (h : Recorded cwd c P F left stage events) (hs : stage = .listening) :
    ∃ feed batches, F feed ∧ feed.batches = batches ++ left.batches
      ∧ Heard cwd c P batches events := by
  cases h with
  | early stands given => rcases stands with hw | hw <;> cases hw.symm.trans hs
  | listening given split told => exact ⟨_, _, given, split, told⟩
  | ended told => cases hs

/-- **What a task emits in its turn continues what was told.** -/
theorem Recorded.advanced {l : Loop} {job : Job} (h : Recorded cwd c P F job.feed job.stage events)
    (hconfig : l.config = c) (hcwd : l.world.cwd = cwd) (hworld : P l.world) {w : Watcher}
    (ha : Advanced (l.watcher job.stage job.feed) l.world w) :
    Recorded cwd c P F w.feed w.task (events ++ w.pending) := by
  subst hconfig hcwd
  cases ha with
  | rested =>
      show Recorded _ _ P F job.feed job.stage (events ++ [])
      rwa [List.append_nil]
  | subscribed hs =>
      obtain ⟨given, rfl⟩ := h.of_early (Or.inl hs)
      exact .early (Or.inr rfl) given
  | found hs hscan =>
      obtain ⟨given, rfl⟩ := h.of_early (Or.inr hs)
      exact .listening given rfl (.scanned hworld hscan)
  | unscanned hs hscan =>
      obtain ⟨-, rfl⟩ := h.of_early (Or.inr hs)
      exact .ended (.unscanned hworld hscan)
  | @heard batch rest reports hs hbatches hrelevant =>
      obtain ⟨feed, batches, given, split, told⟩ := h.of_listening hs
      have hstage : job.stage = .listening := hs
      have hleft : job.feed.batches = batch :: rest := hbatches
      show Recorded _ _ P F { job.feed with batches := rest } job.stage
        (events ++ reports.map Report.event)
      rw [hstage]
      refine .listening given ?_ (told.concat hrelevant)
      rw [split, hleft, List.append_assoc]
      rfl
  | @failed f feed hs =>
      obtain ⟨given', batches, given, split, told⟩ := h.of_listening hs
      exact .ended (.broken f given (split ▸ List.prefix_append _ _) told)
  | ended =>
      show Recorded _ _ P F job.feed .over (events ++ [])
      rw [List.append_nil]
      exact .ended h.told

namespace Loop

variable {l l' : Loop} {moves : List Move} {m : Move}

/-! ## Calls apart -/

theorem timely_of_apart (h : l.apart m = true) : l.timely m = true := by
  cases m with
  | start feed =>
      rw [timely, Bool.or_eq_true_iff]
      exact Or.inl h
  | edit t log => rfl
  | close => rfl
  | resume number => rfl
  | step k => rfl
  | stop k fault => rfl
  | call i => rfl
  | finish i good => rfl

theorem mem_unfinished {i : Nat} : i ∈ l.unfinished ↔ ∃ d, l.calls[i]? = some d ∧ d.stage ≠ .over := by
  rw [unfinished, List.mem_filter, List.mem_range, Option.any_eq_true]
  constructor
  · rintro ⟨-, d, hd, hstage⟩
    exact ⟨d, hd, of_decide_eq_true hstage⟩
  · rintro ⟨d, hd, hstage⟩
    exact ⟨(List.getElem?_eq_some_iff.mp hd).1, d, hd, decide_eq_true hstage⟩

/-- **What holds as long as calls of start and close do not overlap.**  One close is under way at
    most; when it waits for calls of the handler, then for all that are left; and when the watcher is
    closed, none is left. -/
structure Sequential (l : Loop) : Prop where
  orderly : l.Orderly
  single : l.closings.length ≤ 1
  covered : ∀ ids, .calls ids ∈ l.closings → ∀ i ∈ l.unfinished, i ∈ ids
  settled : l.state = .closed → l.closings = [] ∧ ∀ d ∈ l.calls, d.stage = .over

theorem Sequential.fresh (c : Config) (world : World) : (fresh c world).Sequential :=
  ⟨.fresh c world, Nat.zero_le 1, nofun, nofun⟩

/-- While a task is alive, no close waits for calls. -/
theorem Sequential.settleJob (h : l.Sequential) {k : Nat} {job : Job} (hjob : l.jobs[k]? = some job)
    (halive : job.stage ≠ .over) {w : Watcher} {world : World}
    (ha : Advanced (l.watcher job.stage job.feed) l.world w) :
    (l.settleJob k job (w, world)).Sequential := by
  obtain ⟨-, hopen, hclosings⟩ := h.orderly.alive job (List.mem_of_getElem? hjob) halive
  refine ⟨h.orderly.settleJob hjob halive ha, h.single, fun ids hids => ?_, fun hclosed => ?_⟩
  · cases hclosings _ hids
  · exact absurd hclosed (ha.not_closed hopen)

/-- Calls that go on leave fewer to be awaited. -/
theorem mem_unfinished_of_set {i j : Nat} {e : Event} {stage stage' : CallStage}
    (hcall : l.calls[i]? = some ⟨e, stage⟩) (hstage : stage ≠ .over) {d : Call}
    (hd : (l.calls.set i ⟨e, stage'⟩)[j]? = some d) (hover : d.stage ≠ .over) : j ∈ l.unfinished := by
  by_cases hij : i = j
  · subst hij
    exact mem_unfinished.mpr ⟨_, hcall, hstage⟩
  · rw [List.getElem?_set_ne hij] at hd
    exact mem_unfinished.mpr ⟨d, hd, hover⟩

/-- While a call is left, the watcher is not closed; so it may go on. -/
theorem Sequential.of_same (h : l.Sequential) (hs : SameButCalls l l') {i : Nat} {e : Event}
    {stage stage' : CallStage} (hcall : l.calls[i]? = some ⟨e, stage⟩) (hstage : stage ≠ .over)
    (hcalls : l'.calls = l.calls.set i ⟨e, stage'⟩) : l'.Sequential := by
  refine ⟨h.orderly.of_same hs, ?_, fun ids hids j hj => ?_, fun hclosed => ?_⟩
  · rw [hs.closings]
    exact h.single
  · rw [hs.closings] at hids
    obtain ⟨d, hd, hover⟩ := mem_unfinished.mp hj
    rw [hcalls] at hd
    exact h.covered ids hids j (mem_unfinished_of_set hcall hstage hd hover)
  · rw [hs.state] at hclosed
    exact absurd ((h.settled hclosed).2 _ (List.mem_of_getElem? hcall)) hstage

/-- A close with a number is the only one. -/
theorem Sequential.closings_eq (h : l.Sequential) {number : Nat} {x : Closing}
    (hx : l.closings[number]? = some x) : number = 0 ∧ l.closings = [x] :=
  eq_singleton_of_getElem? h.single hx

theorem Sequential.turned (h : l.Sequential) (hm : l.apart m = true) (hgo : l.go? m = some l') :
    l'.Sequential := by
  have horderly := h.orderly.turned (timely_of_apart hm) hgo
  cases go?_turned hgo with
  | edited t log => exact ⟨horderly, h.single, h.covered, h.settled⟩
  | idle feed => exact h
  | missing feed hheld hopen hgood hcwd hno =>
      have hclosings : l.closings = [] := List.isEmpty_iff.mp hm
      refine ⟨horderly, h.single, fun ids hids => ?_, nofun⟩
      rw [hclosings] at hids
      cases hids
  | made feed hheld hopen hgood hcwd =>
      exact ⟨horderly, h.single, h.covered, fun hclosed => absurd hclosed hopen⟩
  | returned hclosed => exact ⟨horderly, h.single, h.covered, h.settled⟩
  | awaitsJob hopen hheld =>
      have hclosings : l.closings = [] := List.isEmpty_iff.mp hm
      refine ⟨horderly, ?_, fun ids hids => ?_, fun hclosed => absurd hclosed hopen⟩
      · show (l.closings ++ [_]).length ≤ 1
        rw [hclosings]
        exact Nat.le_refl 1
      · rw [hclosings] at hids
        cases List.mem_singleton.mp hids
  | awaitsCalls hopen hheld =>
      have hclosings : l.closings = [] := List.isEmpty_iff.mp hm
      refine ⟨horderly, ?_, fun ids hids => ?_, fun hclosed => absurd hclosed hopen⟩
      · show (l.closings ++ [_]).length ≤ 1
        rw [hclosings]
        exact Nat.le_refl 1
      · rw [hclosings] at hids
        obtain rfl := Closing.calls.inj (List.mem_singleton.mp hids)
        exact fun i hi => hi
  | @letGo number k job hclosing hjob hover =>
      obtain ⟨rfl, hclosings⟩ := h.closings_eq hclosing
      refine ⟨horderly, (List.length_set ..).trans_le h.single, fun ids hids => ?_, fun hclosed => ?_⟩
      · rw [hclosings] at hids
        obtain rfl := Closing.calls.inj (List.mem_singleton.mp hids)
        exact fun i hi => hi
      · rw [(h.settled hclosed).1] at hclosings
        cases hclosings
  | @marked number ids world hclosing hover hcwd =>
      obtain ⟨rfl, hclosings⟩ := h.closings_eq hclosing
      have hnone : l.closings.eraseIdx 0 = [] := by
        rw [hclosings]
        rfl
      refine ⟨horderly, ?_, fun ids' hids' => ?_, fun _ => ⟨hnone, fun d hd => ?_⟩⟩
      · show (l.closings.eraseIdx 0).length ≤ 1
        rw [hnone]
        exact Nat.zero_le 1
      · rw [hnone] at hids'
        cases hids'
      · -- what is left would have been awaited
        by_contra hleft
        obtain ⟨i, hi, rfl⟩ := List.mem_iff_getElem.mp hd
        have hget := List.getElem?_eq_getElem hi
        have hawaited := h.covered ids (List.mem_of_getElem? hclosing) i
          (mem_unfinished.mpr ⟨_, hget, hleft⟩)
        exact hleft (hover i hawaited _ hget)
  | stepped hjob halive hcwd hadvanced => exact h.settleJob hjob halive hadvanced
  | stopped hjob halive hcwd hadvanced => exact h.settleJob hjob halive hadvanced
  | called hcall => exact h.of_same (same_called hcall) hcall nofun rfl
  | @finished i e good world hcwd hcall => exact h.of_same (same_finished hcall world) hcall nofun rfl

/-- **What was told so far**, by the task of the watcher, or by a start that has found no
    directory. -/
structure Story (cwd : Path) (c : Config) (P : World → Prop) (F : Feed → Prop) (l : Loop) :
    Prop where
  config : l.config = c
  origin : l.world.cwd = cwd
  unstarted : l.jobs = [] →
    l.events = [] ∨ (l.state = .error ∨ l.state = .closed) ∧ Told cwd c P F l.events
  recorded : ∀ job ∈ l.jobs, Recorded cwd c P F job.feed job.stage l.events

theorem Story.mono (h : l.Story cwd c P F) (hP : ∀ world, P world → P' world)
    (hF : ∀ feed, F feed → F' feed) : l.Story cwd c P' F' where
  config := h.config
  origin := h.origin
  unstarted := fun hnone => (h.unstarted hnone).imp_right fun ⟨hstate, told⟩ => ⟨hstate, told.mono hP hF⟩
  recorded := fun job hjob => (h.recorded job hjob).mono hP hF

theorem Story.told (h : l.Story cwd c P F) : Told cwd c P F l.events := by
  cases hjobs : l.jobs with
  | nil =>
      rcases h.unstarted hjobs with hnone | ⟨-, told⟩
      · rw [hnone]
        exact .nothing
      · exact told
  | cons job rest =>
      have hjob : job ∈ l.jobs := hjobs ▸ List.mem_cons_self
      exact (h.recorded job hjob).told

theorem Story.of_same (h : l.Story cwd c P F) (hs : SameButCalls l l')
    (hcwd : l'.world.cwd = l.world.cwd) : l'.Story cwd c P F := by
  refine ⟨hs.config.trans h.config, hcwd.trans h.origin, ?_, ?_⟩
  · rw [hs.jobs, hs.events, hs.state]
    exact h.unstarted
  · rw [hs.jobs, hs.events]
    exact h.recorded

theorem Story.settleJob (h : l.Story cwd c P F) (hseq : l.Sequential) (hworld : P l.world) {k : Nat}
    {job : Job} (hjob : l.jobs[k]? = some job) {w : Watcher} {world : World}
    (hcwd : world.cwd = l.world.cwd) (ha : Advanced (l.watcher job.stage job.feed) l.world w) :
    (l.settleJob k job (w, world)).Story cwd c P F := by
  obtain ⟨rfl, hjobs⟩ := hseq.orderly.single hjob
  have hevents : (l.settleJob 0 job (w, world)).events = l.events ++ w.pending :=
    events_adopt l w world
  have hset : (l.settleJob 0 job (w, world)).jobs = [⟨w.task, w.feed, job.isCancelled⟩] := by
    show l.jobs.set 0 _ = _
    rw [hjobs]
    rfl
  refine ⟨h.config, hcwd.trans h.origin, fun hnone => ?_, fun other hother => ?_⟩
  · rw [hset] at hnone
    cases hnone
  · rw [hset] at hother
    rw [List.mem_singleton.mp hother, hevents]
    exact (h.recorded job (List.mem_of_getElem? hjob)).advanced h.config h.origin hworld ha

/-- When a start is not refused, nothing has been told without a task. -/
theorem Story.silent (h : l.Story cwd c P F) (hjobs : l.jobs = []) (hopen : l.state ≠ .closed)
    (hgood : l.state ≠ .error) : l.events = [] := by
  rcases h.unstarted hjobs with hnone | ⟨hstate, -⟩
  · exact hnone
  · rcases hstate with herror | hclosed
    · exact absurd herror hgood
    · exact absurd hclosed hopen

theorem Story.turned (h : l.Story cwd c P F) (hseq : l.Sequential) (hworld : P l.world)
    (hfeed : ∀ feed, m = .start feed → F feed) (hm : l.apart m = true) (hgo : l.go? m = some l') :
    l'.Story cwd c P F := by
  cases go?_turned hgo with
  | edited t log => exact ⟨h.config, h.origin, h.unstarted, h.recorded⟩
  | idle feed => exact h
  | @missing feed world hheld hopen hgood hcwd hno =>
      have hjobs := hseq.orderly.unstarted hheld hopen (List.isEmpty_iff.mp hm)
      have hevents : (l.calls ++ [(⟨.failure (.noDirectory l.directory), .waiting⟩ : Call)]).map
          Call.event = [.failure (.noDirectory l.directory)] := by
        have hsilent : l.calls.map Call.event = [] := h.silent hjobs hopen hgood
        rw [List.map_append, hsilent]
        rfl
      have hdirectory : l.directory = c.resolvedSearch cwd := by
        rw [directory, h.config, h.origin]
      refine ⟨h.config, hcwd.trans h.origin, fun _ => Or.inr ⟨Or.inl rfl, ?_⟩, fun job hjob => ?_⟩
      · show Told cwd c P F ((l.calls ++ [_]).map Call.event)
        rw [hevents, hdirectory]
        exact .missing hworld (hdirectory ▸ hno)
      · have hnone : job ∈ l.jobs := hjob
        rw [hjobs] at hnone
        cases hnone
  | @made feed world hheld hopen hgood hcwd =>
      have hjobs := hseq.orderly.unstarted hheld hopen (List.isEmpty_iff.mp hm)
      have hsilent := h.silent hjobs hopen hgood
      refine ⟨h.config, hcwd.trans h.origin, fun hnone => ?_, fun job hjob => ?_⟩
      · exact absurd hnone (List.concat_ne_nil _ _)
      · have hnew : job = ⟨.waiting, feed, false⟩ := by
          have hmem : job ∈ l.jobs ++ [⟨.waiting, feed, false⟩] := hjob
          rw [hjobs] at hmem
          exact List.mem_singleton.mp hmem
        show Recorded cwd c P F job.feed job.stage l.events
        rw [hnew, hsilent]
        exact .early (Or.inl rfl) (hfeed feed rfl)
  | returned hclosed => exact ⟨h.config, h.origin, h.unstarted, h.recorded⟩
  | @awaitsJob k hopen hheld =>
      refine ⟨h.config, h.origin, fun hnone => h.unstarted ?_, fun job hjob => ?_⟩
      · exact List.mapIdx_eq_nil_iff.mp hnone
      · obtain ⟨before, hbefore, hstage, hleft⟩ := mem_cancelled hjob
        show Recorded cwd c P F job.feed job.stage l.events
        rw [hstage, hleft]
        exact h.recorded before hbefore
  | awaitsCalls hopen hheld => exact ⟨h.config, h.origin, h.unstarted, h.recorded⟩
  | letGo hclosing hjob hover => exact ⟨h.config, h.origin, h.unstarted, h.recorded⟩
  | marked hclosing hover hcwd =>
      refine ⟨h.config, hcwd.trans h.origin, fun hnone => ?_, h.recorded⟩
      exact (h.unstarted hnone).imp_right fun hstopped => ⟨Or.inr rfl, hstopped.2⟩
  | stepped hjob halive hcwd hadvanced => exact h.settleJob hseq hworld hjob hcwd hadvanced
  | stopped hjob halive hcwd hadvanced => exact h.settleJob hseq hworld hjob hcwd hadvanced
  | called hcall => exact h.of_same (same_called hcall) rfl
  | @finished i e good world hcwd hcall => exact h.of_same (same_finished hcall world) hcwd

/-! ## Protocol -/

/-- A world that the watcher has seen before one of the turns, or sees after them. -/
def Passed (c : Config) (world : World) (moves : List Move) (seen : World) : Prop :=
  ∃ before mid, before <+: moves ∧ run? apart (Loop.fresh c world) before = some mid
    ∧ mid.world = seen

theorem sequential_of_run {world : World} (h : run? apart (Loop.fresh c world) moves = some l) :
    l.Sequential :=
  run_induction (motive := fun _ l => l.Sequential) (.fresh c world)
    (fun _ _ _ _ _ ih hm hgo => ih.turned hm hgo) h

theorem story_of_run {world : World} (h : run? apart (Loop.fresh c world) moves = some l) :
    l.Story world.cwd c (Passed c world moves) fun feed => .start feed ∈ moves := by
  refine run_induction (motive := fun moves l => l.Story world.cwd c (Passed c world moves)
    fun feed => .start feed ∈ moves)
    ⟨rfl, rfl, fun _ => Or.inl rfl, fun job hjob => (by cases hjob)⟩ ?_ h
  intro moves mid m l' hrun ih hm hgo
  have hlonger : moves <+: moves ++ [m] := List.prefix_append moves [m]
  have hmid : mid.Story world.cwd c (Passed c world (moves ++ [m]))
      fun feed => .start feed ∈ moves ++ [m] :=
    ih.mono (fun _ ⟨before, last, hbefore, hlast⟩ => ⟨before, last, hbefore.trans hlonger, hlast⟩)
      (fun _ hfeed => List.mem_append_left _ hfeed)
  refine hmid.turned (sequential_of_run hrun) ⟨moves, mid, hlonger, hrun, rfl⟩ (fun feed heq => ?_)
    hm hgo
  exact List.mem_append_right _ (heq ▸ List.mem_singleton_self m)

/-- When all calls of the handler are over, none goes on. -/
theorem Done.calls_eq (h : l.Done) (hover : ∀ d ∈ l.calls, d.stage = .over) (ht : Turned l m l') :
    l'.calls = l.calls ∧ l'.begun = l.begun := by
  cases ht with
  | edited t log => exact ⟨rfl, rfl⟩
  | idle feed => exact ⟨rfl, rfl⟩
  | missing feed hheld hopen hgood hcwd hno => exact absurd h.closed hopen
  | made feed hheld hopen hgood hcwd => exact ⟨rfl, rfl⟩
  | returned hclosed => exact ⟨rfl, rfl⟩
  | awaitsJob hopen hheld => exact ⟨rfl, rfl⟩
  | awaitsCalls hopen hheld => exact ⟨rfl, rfl⟩
  | letGo hclosing hjob hstage => exact ⟨rfl, rfl⟩
  | marked hclosing hstage hcwd => exact ⟨rfl, rfl⟩
  | stepped hjob halive hcwd hadvanced =>
      exact absurd (h.ended _ (List.mem_of_getElem? hjob)) halive
  | stopped hjob halive hcwd hadvanced =>
      exact absurd (h.ended _ (List.mem_of_getElem? hjob)) halive
  | called hcall => cases hover _ (List.mem_of_getElem? hcall)
  | finished hcwd hcall => cases hover _ (List.mem_of_getElem? hcall)

/-- **Nothing is left when a close has returned**: whatever turns follow, no event is emitted and no
    call of the handler goes on. -/
theorem Sequential.rest (h : l.Sequential) (hreturned : l.isReturned = true)
    {admits : Loop → Move → Bool} {more : List Move} (hrun : run? admits l more = some l') :
    l'.state = .closed ∧ l'.calls = l.calls ∧ l'.begun = l.begun := by
  have hdone := h.orderly.done hreturned
  have hover := (h.settled hdone.closed).2
  have hstays := run_induction (motive := fun _ last => last.Done ∧ last.calls = l.calls
    ∧ last.begun = l.begun) ⟨hdone, rfl, rfl⟩ ?_ hrun
  · exact ⟨hstays.1.closed, hstays.2⟩
  · intro moves mid m last _ ih _ hgo
    obtain ⟨hmid, hcalls, hbegun⟩ := ih
    have ht := go?_turned hgo
    obtain ⟨hclosed, hjobs, -⟩ := hmid.turned ht
    obtain ⟨hcalls', hbegun'⟩ := hmid.calls_eq (hcalls ▸ hover) ht
    exact ⟨⟨hclosed, hjobs ▸ hmid.ended⟩, hcalls'.trans hcalls, hbegun'.trans hbegun⟩

/-- **The protocol of a watcher**, as long as calls of start and close do not overlap.  It tells
    nothing, or that there is no directory or no scan, or the files of a scan that it has made, once
    that the scan is complete, and the reports of the first batches of the feed, with a failure at the
    end or not.  It is marked as ready if and only if it has told so.  The handler is called once for
    each event, and these calls can come to their ends whatever else is waiting.  When a close has
    returned, they are all over; and whatever turns follow, the watcher stays closed, tells nothing
    more, and the handler is not called again. -/
theorem watcher_protocol {world : World} (hrun : run? apart (Loop.fresh c world) moves = some l) :
    Told world.cwd c (Passed c world moves) (fun feed => .start feed ∈ moves) l.events
      ∧ readyCount l.events = (if l.isReady then 1 else 0)
      ∧ l.begun.Nodup ∧ (∀ i, i ∈ l.begun ↔ ∃ d, l.calls[i]? = some d ∧ d.stage ≠ .waiting)
      ∧ (∃ more l', run? apart l more = some l' ∧ l'.events = l.events
        ∧ ∀ d ∈ l'.calls, d.stage = .over)
      ∧ (l.isReturned = true → l.state = .closed ∧ (∀ d ∈ l.calls, d.stage = .over)
        ∧ ∀ more l', run? anyhow l more = some l' →
          l'.state = .closed ∧ l'.calls = l.calls ∧ l'.begun = l.begun) := by
  have hseq := sequential_of_run hrun
  have hnumbered := numbered_of_run hrun
  refine ⟨(story_of_run hrun).told, hseq.orderly.once, hnumbered.once, hnumbered.begun, ?_,
    fun hreturned => ?_⟩
  · obtain ⟨more, l', hmore, hsame, hover⟩ :=
      exists_finished (fun _ _ => ⟨rfl, fun _ => rfl⟩ : AdmitsCalls apart) l
    exact ⟨more, l', hmore, hsame.events, hover⟩
  · have hclosed := hseq.orderly.returned hreturned
    exact ⟨hclosed, (hseq.settled hclosed).2, fun more l' hmore => hseq.rest hreturned hmore⟩

/-- A feed that reports a change of the query file, and then fails. -/
def failingFeed : Feed := ⟨[[⟨.modified, "/b/src/q.gql"⟩]], .fails "no more"⟩

/-- A watcher from its start to its close, whose handler fails once. -/
def failingTurns : List Move :=
  [.start failingFeed, .step 0, .step 0, .call 0, .step 0, .finish 0 false, .call 2, .step 0, .close,
    .call 1, .resume 0, .finish 2 true, .call 3, .finish 1 true, .finish 3 true, .resume 0]

/-- What the turns come to in the small project. -/
theorem failing_facts :
    ((run? apart (Loop.fresh smallConfig (smallWorld "query Q{a}")) failingTurns).map fun l =>
      (l.isReturned, l.events.map Event.kind, l.begun))
        = some (true, [.add, .ready, .change, .error], [0, 2, 1, 3]) := by
  decide +kernel

/-- In the small project each of four events is handed over once, though the handler fails and the
    feed does. -/
theorem watcher_protocol_smallWorld :
    ∃ l, run? apart (Loop.fresh smallConfig (smallWorld "query Q{a}")) failingTurns = some l
      ∧ Told smallConfig.baseDir smallConfig
        (Passed smallConfig (smallWorld "query Q{a}") failingTurns)
        (fun feed => .start feed ∈ failingTurns) l.events
      ∧ l.events.map Event.kind = [.add, .ready, .change, .error] ∧ readyCount l.events ≤ 1
      ∧ l.begun.Nodup ∧ l.state = .closed ∧ ∀ d ∈ l.calls, d.stage = .over := by
  obtain ⟨l, hrun, hfacts⟩ := Option.map_eq_some_iff.mp failing_facts
  obtain ⟨hreturned, hrest⟩ := Prod.mk.inj hfacts
  obtain ⟨hkinds, -⟩ := Prod.mk.inj hrest
  obtain ⟨htold, hcount, honce, -, -, hclosed⟩ := watcher_protocol hrun
  obtain ⟨hstate, hover, -⟩ := hclosed hreturned
  refine ⟨l, hrun, htold, hkinds, ?_, honce, hstate, hover⟩
  rw [hcount]
  split
  · exact Nat.le_refl 1
  · exact Nat.zero_le 1

end Loop

end QueryTypings.Watch
