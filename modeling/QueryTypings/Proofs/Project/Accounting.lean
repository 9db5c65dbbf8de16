/-
  The counts of events that are handled at the same time.

  1. **Without interruption** — a call that takes all its turns in a row does what `dispatch` does
     with a writer that works in one go (`dispatch_finish`).

  2. **Answers** — what a call answers is the answer of the event's own call, to write for events that
     a file came or changed and to remove for those that it went (`fits_of_gives`).  With its answer an
     event about a file is handled without a breakdown (`dispatch_answer`).

  3. **One turn** — a turn lets one call go on and leaves the others alone, or one call returns, and
     its answer is added to those that are there (`Moved`).  So the counts are those of the answers at
     any time (`Accounted.moved`).

  4. **The end** — a turn that lets a call go on leaves less to do (`Remains.wellFounded`), however
     many turns the calls take, so a schedule that comes back to every event handles all of them
     (`exists_isDone`).
-/
import QueryTypings.Project.Concurrent
import Mathlib.Data.List.Perm.Basic
import Mathlib.Logic.Hydra

namespace QueryTypings.Concurrent

variable {S α β σ : Type} {shop : Workshop σ} {e : Event}

/-! ## Without interruption -/

/-- Seeing the answer as another value changes no turn. -/
theorem Routine.finish_map (f : α → β) (call : Routine S α) (s : S) :
    (call.map f).finish s = (f (call.finish s).1, (call.finish s).2) := by
  induction call generalizing s with
  | returned a => rfl
  | waiting leaves next ih => exact ih s (leaves s)

/-- **Without interruption**: what comes of an event whose call takes all its turns in a row is what
    comes of it with a writer that works in one go. -/
theorem dispatch_finish (shop : Workshop σ) (shared : σ) (e : Event) (n : Counts) (world : World) :
    let (answer, _, after) := (shop.call e).finish (shared, world)
    dispatch answer.sink e n after = dispatch (shop.sink shared) e n world := by
  obtain ⟨kind, path, fault⟩ := e
  cases path with
  | none => cases kind <;> rfl
  | some p =>
      cases kind with
      | ready => rfl
      | error => rfl
      | add | change =>
          simp only [Workshop.call, Routine.finish_map, dispatch, Dispatch.onWrite, Answer.sink,
            Workshop.sink]
      | unlink =>
          simp only [Workshop.call, Routine.finish_map, dispatch, Dispatch.onUnlink, Answer.sink,
            Workshop.sink]

/-! ## Answers -/

/-- A computation may come so far. -/
inductive Routine.Reaches : Routine S α → Routine S α → Prop
  | refl (call : Routine S α) : call.Reaches call
  | turn {call later : Routine S α} (h : call.Reaches later) (s : S) : call.Reaches (later.turn s).1

/-- A computation may return an answer. -/
def Routine.Gives (call : Routine S α) (a : α) : Prop := call.Reaches (.returned a)

/-- However far a computation comes, it is seen in the same way. -/
theorem Routine.exists_reaches_of_map {f : α → β} {call : Routine S α} {later : Routine S β}
    (h : (call.map f).Reaches later) : ∃ own, call.Reaches own ∧ later = own.map f := by
  generalize hseen : call.map f = seen at h
  induction h with
  | refl => exact ⟨call, .refl call, hseen.symm⟩
  | turn _ s ih =>
      obtain ⟨own, hown, rfl⟩ := ih
      refine ⟨(own.turn s).1, hown.turn s, ?_⟩
      cases own with
      | returned a => rfl
      | waiting leaves next => rfl

/-- The answers of a computation that is seen in another way. -/
theorem Routine.exists_gives_of_map {f : α → β} {call : Routine S α} {b : β}
    (h : (call.map f).Gives b) : ∃ a, call.Gives a ∧ b = f a := by
  obtain ⟨own, hown, heq⟩ := exists_reaches_of_map h
  cases own with
  | returned a => exact ⟨a, hown, Routine.returned.inj heq⟩
  | waiting leaves next => cases heq

namespace Answer

/-- A write returned. -/
def isWrite : Answer → Bool
  | .written (.ok _) => true
  | _ => false

/-- A removal returned that something was removed. -/
def isRemoval : Answer → Bool
  | .removed (.ok there) => there
  | _ => false

/-- The call raised. -/
def isFault : Answer → Bool
  | .written (.error _) | .removed (.error _) => true
  | _ => false

/-- The declaration that was written. -/
def artifact : Answer → Option Path
  | .written (.ok a) => some a
  | _ => none

/-- Why the call raised. -/
def fault : Answer → Option FileFault
  | .written (.error f) | .removed (.error f) => some f
  | _ => none

/-- How the counts go on. -/
def tally (a : Answer) (n : Counts) : Counts where
  generated := n.generated + a.isWrite.toNat
  removed := n.removed + a.isRemoval.toNat
  failed := n.failed + a.isFault.toNat

end Answer

/-- An event is about a query file: it came, changed or went. -/
def AboutFile (e : Event) : Prop :=
  (e.kind = .add ∨ e.kind = .change ∨ e.kind = .unlink) ∧ e.path.isSome

instance (e : Event) : Decidable (AboutFile e) := inferInstanceAs (Decidable (_ ∧ _))

/-- An answer of the writer's call for an event, which is about its path: to write, if the file came
    or changed, and to remove, if it went. -/
inductive Fits (shop : Workshop σ) (e : Event) : Answer → Prop
  | written {p : Path} {r : Except FileFault Path} (kind : e.kind = .add ∨ e.kind = .change)
      (path : e.path = some p) (gives : (shop.write p.text).Gives r) : Fits shop e (.written r)
  | removed {p : Path} {r : Except FileFault Bool} (kind : e.kind = .unlink)
      (path : e.path = some p) (gives : (shop.remove p.text).Gives r) : Fits shop e (.removed r)

/-- The call for an event about a query file is the writer's, for its path. -/
theorem fits_of_gives {a : Answer} (he : AboutFile e) (h : (shop.call e).Gives a) :
    Fits shop e a := by
  obtain ⟨hkind, hpath⟩ := he
  obtain ⟨p, hp⟩ := Option.isSome_iff_exists.mp hpath
  rcases hkind with hk | hk | hk
  · simp only [Workshop.call, hk, hp] at h
    obtain ⟨r, hr, rfl⟩ := Routine.exists_gives_of_map h
    exact .written (Or.inl hk) hp hr
  · simp only [Workshop.call, hk, hp] at h
    obtain ⟨r, hr, rfl⟩ := Routine.exists_gives_of_map h
    exact .written (Or.inr hk) hp hr
  · simp only [Workshop.call, hk, hp] at h
    obtain ⟨r, hr, rfl⟩ := Routine.exists_gives_of_map h
    exact .removed hk hp hr

/-- **Handled by its answer**: an event about a query file has an outcome, with the artifact or the
    fault of its call, and its call is counted. -/
theorem dispatch_answer {a : Answer} (h : Fits shop e a) (n : Counts) (world : World) :
    let handled := dispatch a.sink e n world
    handled.outcome = .ok ⟨e.kind, e.path, a.artifact, a.fault.map .file⟩
      ∧ handled.counts = a.tally n := by
  obtain ⟨kind, path, fault⟩ := e
  cases h with
  | @written p r hkind hpath _ =>
      obtain rfl : path = some p := hpath
      rcases hkind with hk | hk <;> obtain rfl := hk <;> cases r <;> exact ⟨rfl, rfl⟩
  | @removed p r hkind hpath _ =>
      obtain rfl : path = some p := hpath
      obtain rfl : kind = .unlink := hkind
      cases r with
      | error f => exact ⟨rfl, rfl⟩
      | ok there => cases there <;> exact ⟨rfl, rfl⟩

/-! ## One turn -/

/-- The answer of a call that has returned. -/
def Stage.answer? : Stage σ → Option Answer
  | .underWay _ => none
  | .handled a _ => some a

/-- The answers so far, in the order of the events. -/
def Pool.answers (p : Pool σ) : List Answer := p.tasks.filterMap fun t => t.stage.answer?

/-- A turn changes one task: its call goes on, or it returns, and its answer becomes the outcome. -/
inductive Moved (p : Pool σ) : Pool σ → Prop
  | goesOn {i : Nat} {e : Event} {call : Routine (σ × World) Answer} {q : Pool σ}
      (task : p.tasks[i]? = some ⟨e, .underWay call⟩)
      (leaves : ∃ w next, call = .waiting w next)
      (tasks : q.tasks = p.tasks.set i ⟨e, .underWay (call.turn (p.shared, p.world)).1⟩)
      (counts : q.counts = p.counts) : Moved p q
  | returns {i : Nat} {e : Event} {call : Routine (σ × World) Answer} {a : Answer} {q : Pool σ}
      (world : World)
      (task : p.tasks[i]? = some ⟨e, .underWay call⟩)
      (answer : (call.turn (p.shared, p.world)).1 = .returned a)
      (tasks : q.tasks = p.tasks.set i ⟨e, .handled a (dispatch a.sink e p.counts world).outcome⟩)
      (counts : q.counts = (dispatch a.sink e p.counts world).counts) : Moved p q

/-- A call that goes on makes a turn. -/
theorem moved_resume {p : Pool σ} {i : Nat} {call : Routine (σ × World) Answer}
    (h : p.tasks[i]? = some ⟨e, .underWay call⟩) : Moved p (p.resume i e call) := by
  rw [Pool.resume]
  rcases hturn : call.turn (p.shared, p.world) with ⟨later, shared, world⟩
  cases later with
  | returned a => exact .returns world h (by rw [hturn]) rfl rfl
  | waiting leaves next =>
      refine .goesOn h ?_ (by rw [hturn]) rfl
      cases call with
      | returned a => cases hturn
      | waiting leaves' next' => exact ⟨leaves', next', rfl⟩

/-- A turn is passed, and then the event is handled or there is none, or it moves a task. -/
theorem turn_cases (p : Pool σ) (i : Nat) :
    (p.turn i = p ∧ ∀ t, p.tasks[i]? = some t → t.stage.answer?.isSome) ∨ Moved p (p.turn i) := by
  rw [Pool.turn]
  split
  · rename_i e call htask
    exact Or.inr (moved_resume htask)
  · rename_i hother
    refine Or.inl ⟨rfl, fun ⟨e, stage⟩ ht => ?_⟩
    cases stage with
    | underWay call => exact absurd ht (hother e call)
    | handled a o => rfl

/-- A task that changes makes room for what it changes to, wherever it stands. -/
theorem set_perm {l : List α} {i : Nat} {a b : α} (h : l[i]? = some a) :
    ∃ rest, (l.set i b).Perm (b :: rest) ∧ l.Perm (a :: rest) := by
  obtain ⟨hi, rfl⟩ := List.getElem?_eq_some_iff.mp h
  exact ⟨l.eraseIdx i, List.set_perm_cons_eraseIdx hi b, (List.getElem_cons_eraseIdx_perm hi).symm⟩

/-- A call that goes on has no answer, and one that returns adds its own. -/
theorem answers_set_perm {p : Pool σ} {i : Nat} {call : Routine (σ × World) Answer}
    (h : p.tasks[i]? = some ⟨e, .underWay call⟩) (stage : Stage σ) :
    ((p.tasks.set i ⟨e, stage⟩).filterMap fun t => t.stage.answer?).Perm
      (stage.answer?.toList ++ p.answers) := by
  obtain ⟨rest, hset, hrest⟩ := set_perm (b := (⟨e, stage⟩ : Task σ)) h
  have hbefore : p.answers.Perm (rest.filterMap fun t => t.stage.answer?) := hrest.filterMap _
  have hafter := hset.filterMap fun t => t.stage.answer?
  cases stage with
  | underWay later => exact hafter.trans hbefore.symm
  | handled a o => exact hafter.trans (hbefore.symm.cons a)

/-! ## Accounts -/

/-- A task is at a stage that the event's own call comes to; the outcome, if there is one, is the
    event's, it is good if and only if the call did not raise, and it carries the artifact or the fault
    of the call. -/
def Task.Sound (shop : Workshop σ) (t : Task σ) : Prop :=
  match t.stage with
  | .underWay call => (shop.call t.event).Reaches call
  | .handled a outcome =>
      Fits shop t.event a ∧ ∃ o, outcome = .ok o ∧ o.kind = t.event.kind ∧ o.source = t.event.path
        ∧ (o.isGood = true ↔ a.isFault = false) ∧ o.artifact = a.artifact
        ∧ o.fault = a.fault.map .file

/-- **Exact accounts**: there is one task for every event, in their order, every task is sound, and
    the counts are those of the answers so far. -/
structure Accounted (shop : Workshop σ) (events : List Event) (p : Pool σ) : Prop where
  events : p.tasks.map Task.event = events
  sound : ∀ t ∈ p.tasks, t.Sound shop
  generated : p.counts.generated = p.answers.countP Answer.isWrite
  removed : p.counts.removed = p.answers.countP Answer.isRemoval
  failed : p.counts.failed = p.answers.countP Answer.isFault

/-- Before the first turn nothing is counted. -/
theorem accounted_start (shop : Workshop σ) (events : List Event) (shared : σ) (world : World) :
    Accounted shop events (.start shop events shared world) := by
  have hanswers : (Pool.start shop events shared world).answers = [] := by
    rw [Pool.answers, Pool.start, List.filterMap_map]
    exact List.filterMap_eq_nil_iff.mpr fun _ _ => rfl
  refine ⟨?_, fun t ht => ?_, by rw [hanswers]; rfl, by rw [hanswers]; rfl, by rw [hanswers]; rfl⟩
  · rw [Pool.start, List.map_map]
    exact List.map_id events
  · obtain ⟨e, _, rfl⟩ := List.mem_map.mp ht
    exact .refl _

/-- A task that goes on keeps its event. -/
theorem events_set {p : Pool σ} {i : Nat} {t : Task σ} (h : p.tasks[i]? = some t) (stage : Stage σ) :
    (p.tasks.set i ⟨t.event, stage⟩).map Task.event = p.tasks.map Task.event := by
  obtain ⟨hi, rfl⟩ := List.getElem?_eq_some_iff.mp h
  rw [List.map_set, ← List.getElem_map Task.event, List.set_getElem_self]
  rwa [List.length_map]

/-- An answer that is fitting and handled makes the task sound. -/
theorem Task.Sound.handled {a : Answer} (h : Fits shop e a) (n : Counts) (world : World) :
    (⟨e, .handled a (dispatch a.sink e n world).outcome⟩ : Task σ).Sound shop := by
  refine ⟨h, _, (dispatch_answer h n world).1, rfl, rfl, ?_, rfl, rfl⟩
  cases h with
  | @written p r _ _ _ => cases r <;> simp [Outcome.isGood, Answer.fault, Answer.isFault]
  | @removed p r _ _ _ => cases r <;> simp [Outcome.isGood, Answer.fault, Answer.isFault]

/-- How the number of answers of a kind grows by one. -/
theorem countP_cons_perm {l rest : List α} {a : α} (h : l.Perm (a :: rest)) (f : α → Bool) :
    l.countP f = rest.countP f + (f a).toNat := by
  rw [h.countP_eq, List.countP_cons]
  cases f a <;> rfl

/-- **One turn keeps the accounts exact.** -/
theorem Accounted.moved {events : List Event} {p q : Pool σ} (h : Accounted shop events p)
    (hevents : ∀ e ∈ events, AboutFile e) (hmoved : Moved p q) : Accounted shop events q := by
  cases hmoved with
  | @goesOn i e call _ htask _ htasks hcounts =>
      have hown : (shop.call e).Reaches call := h.sound _ (List.mem_of_getElem? htask)
      -- no call has returned, so no answer is new
      have hanswers : q.answers.Perm p.answers := by
        rw [Pool.answers, htasks]
        exact answers_set_perm htask _
      refine ⟨by rw [htasks, ← h.events]; exact events_set htask _, fun t ht => ?_, ?_, ?_, ?_⟩
      · rw [htasks] at ht
        rcases List.mem_or_eq_of_mem_set ht with hold | rfl
        · exact h.sound t hold
        · exact hown.turn _
      · rw [hcounts, h.generated, hanswers.countP_eq]
      · rw [hcounts, h.removed, hanswers.countP_eq]
      · rw [hcounts, h.failed, hanswers.countP_eq]
  | @returns i e call a _ world htask hanswer htasks hcounts =>
      have hmem : (⟨e, .underWay call⟩ : Task σ) ∈ p.tasks := List.mem_of_getElem? htask
      have hown : (shop.call e).Reaches call := h.sound _ hmem
      have hevent : e ∈ events := h.events ▸ List.mem_map_of_mem hmem
      -- the answer is the one that the event's own call gives
      have hfits : Fits shop e a :=
        fits_of_gives (hevents e hevent) (by rw [Routine.Gives, ← hanswer]; exact hown.turn _)
      have hanswers : q.answers.Perm (a :: p.answers) := by
        rw [Pool.answers, htasks]
        exact answers_set_perm htask _
      have hn := hcounts.trans (dispatch_answer hfits p.counts world).2
      refine ⟨by rw [htasks, ← h.events]; exact events_set htask _, fun t ht => ?_, ?_, ?_, ?_⟩
      · rw [htasks] at ht
        rcases List.mem_or_eq_of_mem_set ht with hold | rfl
        · exact h.sound t hold
        · exact .handled hfits p.counts world
      · rw [hn, countP_cons_perm hanswers, ← h.generated]; rfl
      · rw [hn, countP_cons_perm hanswers, ← h.removed]; rfl
      · rw [hn, countP_cons_perm hanswers, ← h.failed]; rfl

/-- Turns keep the accounts exact, whoever they are given to. -/
theorem Accounted.after {events : List Event} (hevents : ∀ e ∈ events, AboutFile e) {p : Pool σ}
    (h : Accounted shop events p) (schedule : Nat → Nat) (n : Nat) :
    Accounted shop events (p.after schedule n) := by
  induction n generalizing p schedule with
  | zero => exact h
  | succ n ih =>
      refine ih ?_ _
      rcases turn_cases p (schedule 0) with ⟨hsame, _⟩ | hmoved
      · rwa [hsame]
      · exact h.moved hevents hmoved

/-! ## The end -/

/-- All events are handled. -/
def Pool.IsDone (p : Pool σ) : Prop := ∀ t ∈ p.tasks, t.stage.answer?.isSome

/-- A schedule comes back to each of `n` events again and again. -/
def IsFair (n : Nat) (schedule : Nat → Nat) : Prop := ∀ i < n, ∀ m, ∃ k, m ≤ k ∧ schedule k = i

/-- What a stage may leave to do after one turn. -/
inductive Remains : Stage σ → Stage σ → Prop
  | answer (a : Answer) (o : Except Breakdown Outcome) (call : Routine (σ × World) Answer) :
      Remains (.handled a o) (.underWay call)
  | rest (leaves : σ × World → σ × World) (next : σ × World → Routine (σ × World) Answer)
      (s : σ × World) : Remains (.underWay (next s)) (.underWay (.waiting leaves next))

/-- A call has no more turns than it takes. -/
theorem Remains.wellFounded : WellFounded (Remains (σ := σ)) := by
  have hhandled (a : Answer) (o : Except Breakdown Outcome) :
      Acc Remains (Stage.handled (σ := σ) a o) :=
    ⟨_, fun _ h => nomatch h⟩
  refine ⟨fun stage => ?_⟩
  cases stage with
  | handled a o => exact hhandled a o
  | underWay call =>
      -- which turns are left depends on what each turn finds, so no number bounds them
      induction call with
      | returned a =>
          refine ⟨_, fun _ h => ?_⟩
          cases h
          exact hhandled _ _
      | waiting leaves next ih =>
          refine ⟨_, fun _ h => ?_⟩
          cases h with
          | answer => exact hhandled _ _
          | rest _ _ s => exact ih s

/-- The stages of all tasks, in whatever order. -/
def Pool.stages (p : Pool σ) : Multiset (Stage σ) := (p.tasks.map Task.stage : List (Stage σ))

/-- A turn that moves a task leaves less to do. -/
theorem Moved.cutExpand {p q : Pool σ} (h : Moved p q) :
    Relation.CutExpand Remains q.stages p.stages := by
  have hset {i : Nat} {e : Event} {old new : Stage σ} (htask : p.tasks[i]? = some ⟨e, old⟩)
      (hless : Remains new old) (htasks : q.tasks = p.tasks.set i ⟨e, new⟩) :
      Relation.CutExpand Remains q.stages p.stages := by
    obtain ⟨rest, hnew, hold⟩ := set_perm (b := (⟨e, new⟩ : Task σ)) htask
    have hq : q.stages = {new} + (rest.map Task.stage : List (Stage σ)) := by
      rw [Pool.stages, htasks]
      exact Multiset.coe_eq_coe.mpr (hnew.map _)
    have hp : p.stages = {old} + (rest.map Task.stage : List (Stage σ)) :=
      Multiset.coe_eq_coe.mpr (hold.map _)
    rw [hq, hp]
    exact Relation.cutExpand_single_add hless _
  cases h with
  | goesOn htask hleaves htasks _ =>
      obtain ⟨w, next, rfl⟩ := hleaves
      exact hset htask (.rest w next _) htasks
  | returns world htask _ htasks _ => exact hset htask (.answer _ _ _) htasks

/-- Tasks that have moved are as many as before. -/
theorem Moved.length_tasks {p q : Pool σ} (h : Moved p q) : q.tasks.length = p.tasks.length := by
  cases h with
  | goesOn _ _ htasks _ => rw [htasks, List.length_set]
  | returns _ _ _ htasks _ => rw [htasks, List.length_set]

/-- A schedule that comes to an event that is not handled moves a task, at that time or before. -/
theorem exists_moved {p : Pool σ} {t : Task σ} (k : Nat) {schedule : Nat → Nat}
    (ht : p.tasks[schedule k]? = some t) (hopen : t.stage.answer? = none) :
    ∃ m, Moved p (p.after schedule m) := by
  induction k generalizing schedule with
  | zero =>
      rcases turn_cases p (schedule 0) with ⟨_, hover⟩ | hmoved
      · have hanswer := hover t ht
        rw [hopen] at hanswer
        cases hanswer
      · exact ⟨1, hmoved⟩
  | succ k ih =>
      rcases turn_cases p (schedule 0) with ⟨hsame, _⟩ | hmoved
      · obtain ⟨m, hm⟩ := @ih (fun k => schedule (k + 1)) ht
        exact ⟨m + 1, by rwa [Pool.after, hsame]⟩
      · exact ⟨1, hmoved⟩

/-- The turns of a schedule, in two parts. -/
theorem after_add (p : Pool σ) (schedule : Nat → Nat) (m n : Nat) :
    p.after schedule (m + n) = (p.after schedule m).after (fun k => schedule (m + k)) n := by
  induction m generalizing p schedule with
  | zero => simp only [Nat.zero_add, Pool.after]
  | succ m ih =>
      rw [Nat.add_right_comm, Pool.after, ih, Pool.after]
      simp only [Nat.add_right_comm]

/-- **All events are handled** in the end, whatever a schedule that comes back to each of them does in
    between. -/
theorem exists_isDone (p : Pool σ) {schedule : Nat → Nat}
    (hfair : IsFair p.tasks.length schedule) : ∃ n, (p.after schedule n).IsDone := by
  -- by what is left to do in all tasks together, since a turn may go to any of them
  have hless := InvImage.wf Pool.stages (Remains.wellFounded (σ := σ)).cutExpand
  induction p using hless.induction generalizing schedule with
  | _ p ih =>
      by_cases hdone : p.IsDone
      · exact ⟨0, hdone⟩
      · obtain ⟨t, ht, hopen⟩ : ∃ t ∈ p.tasks, t.stage.answer? = none := by
          simpa only [Pool.IsDone, not_forall, exists_prop, Bool.not_eq_true,
            Option.isSome_eq_false_iff, Option.isNone_iff_eq_none] using hdone
        obtain ⟨i, hi, hget⟩ := List.getElem_of_mem ht
        obtain ⟨k, _, hk⟩ := hfair i hi 0
        have htask : p.tasks[schedule k]? = some t := by
          rw [hk, List.getElem?_eq_getElem hi, hget]
        obtain ⟨m, hm⟩ := exists_moved k htask hopen
        -- what is left of the schedule still comes back to every event
        have hrest : IsFair (p.after schedule m).tasks.length fun k => schedule (m + k) := by
          intro i hi first
          rw [hm.length_tasks] at hi
          obtain ⟨k, hk, hturn⟩ := hfair i hi (m + first)
          have hback : m + (k - m) = k := by omega
          exact ⟨k - m, by omega, (congrArg schedule hback).trans hturn⟩
        obtain ⟨n, hn⟩ := ih _ hm.cutExpand hrest
        exact ⟨m + n, by rwa [after_add]⟩

/-! ## Events about query files -/

/-- **The accounts of events about query files are exact.**  Whatever turns the calls of a writer take
    and in whatever order: at any time every event has its own task, an event whose call is over has
    an outcome and no breakdown, the outcome tells what that call answered, and the counts are those
    of the calls that are over.  If no event is forgotten, then all calls are over in the end. -/
theorem accounts_exact (shop : Workshop σ) {events : List Event}
    (hevents : ∀ e ∈ events, AboutFile e) (shared : σ) (world : World) (schedule : Nat → Nat) :
    let pool := Pool.start shop events shared world
    (∀ n, Accounted shop events (pool.after schedule n))
      ∧ (IsFair events.length schedule → ∃ n, (pool.after schedule n).IsDone) := by
  refine ⟨(accounted_start shop events shared world).after hevents schedule, fun hfair => ?_⟩
  exact exists_isDone _ (by rwa [Pool.start, List.length_map])

/-- A writer that writes one declaration, and then is busy; as long as nothing is written, there is
    nothing to remove. -/
def single : Workshop Nat where
  write source := .waiting (fun s => (s.1 + 1, s.2)) fun s => .waiting id fun _ =>
    .returned (if s.1 = 0 then .ok (.ofText (source ++ ".d.ts")) else .error (.query ["busy"] none))
  remove _ := .waiting id fun _ => .waiting id fun s => .returned (.ok (s.1 != 0))

/-- A query file came, another one went and a third one changed. -/
def threeFiles : List Event :=
  [.add (.ofText "a.graphql"), ⟨.unlink, some (.ofText "b.graphql"), none⟩,
    ⟨.change, some (.ofText "c.graphql"), none⟩]

/-- A working directory without files. -/
def bareWorld : World := ⟨⟨.root, []⟩, ⟨[]⟩, []⟩

/-- Three events in turn: the first call returns what it writes, the removal finds what the first one
    has written, and the last call finds the writer busy. -/
theorem accounts_exact_threeFiles :
    let pool := Pool.start single threeFiles 0 bareWorld
    (∀ e ∈ threeFiles, AboutFile e) ∧ IsFair 3 (· % 3)
      ∧ (pool.after (· % 3) 6).counts = ⟨1, 1, 1⟩
      ∧ Accounted single threeFiles (pool.after (· % 3) 6)
      ∧ ∃ n, (pool.after (· % 3) n).IsDone := by
  have hevents : ∀ e ∈ threeFiles, AboutFile e := by
    simp only [threeFiles, List.mem_cons, List.not_mem_nil, or_false]
    rintro e (rfl | rfl | rfl) <;> decide
  have hfair : IsFair 3 (· % 3) := fun i hi m => ⟨3 * m + i, by omega, by simp only; omega⟩
  obtain ⟨hexact, hdone⟩ := accounts_exact single hevents 0 bareWorld (· % 3)
  exact ⟨hevents, hfair, rfl, hexact 6, hdone hfair⟩

end QueryTypings.Concurrent
