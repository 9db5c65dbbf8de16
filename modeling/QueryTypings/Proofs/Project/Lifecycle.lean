/-
  What becomes of the watchers of a build that begins and ends again and again.

  1. **Journals** — the world is given a journal, and the watchers are numbered: whatever a build asks
     of them is written down when it is asked for (`Journaled`, `Watching.journaled`).

  2. **Courses** — a course is a finite sequence of beginnings, ends and sessions, with changes of
     files in between; at each beginning the source of watchers answers with some watcher or with
     none (`Course`, `Course.perform`).

  3. **A journal changes nothing** — a build about which a journal is kept does what it does otherwise,
     call by call and so in a whole course (`perform_journaled`).

  4. **Open watchers** — a watcher is open from the time at which it is obtained until a close of it
     has returned.  Each deed is allowed only while certain watchers are open (`Deed.Allows`), so never
     more than one is (`length_openAfter_le_one`).

  5. **Whole courses** — between two calls no watcher is open but the one that the build holds, and
     the next close will close that one (`Tidy`).  A watcher that the build holds and that is not open
     is closed by its own account, such as one that counts how often it is closed
     (`Rehearsal.closed_of_not_open`).
-/
import QueryTypings.Project.Rehearsal
import QueryTypings.Proofs.Project.Start
import Mathlib.Data.List.Induction

namespace QueryTypings

variable {W : Type}

/-! ## Journals -/

/-- What is written down.  Watchers have the numbers of the order in which they were obtained. -/
inductive Deed
  /-- The schema will be loaded, and the directory for declarations will be made anew. -/
  | preparing
  | obtained (k : Nat)
  /-- A watcher will be started. -/
  | starting (k : Nat)
  /-- The start of a watcher has broken down. -/
  | broken (k : Nat)
  /-- A close of a watcher has returned. -/
  | closed (k : Nat)
  /-- A beginning has failed for want of a schema, a directory for declarations or a watcher. -/
  | failed
  /-- An end is over, in whatever way. -/
  | ended
  /-- A session is over, in whatever way. -/
  | left
deriving DecidableEq

/-- The number of the watcher that is obtained. -/
def Deed.obtained? : Deed → Option Nat
  | .obtained k => some k
  | _ => none

/-- A world with a journal of what was asked for. -/
structure Journaled where
  world : World
  deeds : List Deed

namespace Journaled

/-- Something is written down. -/
def note (r : Journaled) (d : Deed) : Journaled := { r with deeds := r.deeds ++ [d] }

/-- The world goes on, and nothing is written down. -/
def become (r : Journaled) (world : World) : Journaled := { r with world := world }

/-- How many watchers were obtained. -/
def made (r : Journaled) : Nat := (r.deeds.filterMap Deed.obtained?).length

end Journaled

instance : Surroundings Journaled where
  prepare c r :=
    let (result, world) := Surroundings.prepare c r.world
    (result, (r.note .preparing).become world)
  say r level message := r.become (Surroundings.say r.world level message)

/-- A watcher with its number. -/
structure Tagged (W : Type) where
  number : Nat
  watcher : W

namespace Watching

/-- The same watchers, where what is asked of them is written down. -/
def journaled (ops : Watching W) : Port Journaled (Tagged W) where
  make c r :=
    match ops.make c r.world with
    | (none, world) => (none, r.become world)
    | (some w, world) => (some ⟨r.made, w⟩, (r.become world).note (.obtained r.made))
  start sink v q :=
    let (result, w, after) := ops.start sink v.watcher ⟨q.counts, q.world.world⟩
    let r := (q.world.note (.starting v.number)).become after.world
    match result with
    | .ok () => (.ok (), ⟨v.number, w⟩, ⟨after.counts, r⟩)
    | .error b => (.error b, ⟨v.number, w⟩, ⟨after.counts, r.note (.broken v.number)⟩)
  settle sink v q :=
    let (w, after) := ops.settle sink v.watcher ⟨q.counts, q.world.world⟩
    (⟨v.number, w⟩, ⟨after.counts, q.world.become after.world⟩)
  close sink v q :=
    let (w, after) := ops.close sink v.watcher ⟨q.counts, q.world.world⟩
    (⟨v.number, w⟩, ⟨after.counts, (q.world.become after.world).note (.closed v.number)⟩)
  state v := ops.state v.watcher
  isReady v := ops.isReady v.watcher

/-- The same watchers, where the source of watchers has one answer. -/
def answering (ops : Watching W) (answer : Option W) : Watching W :=
  { ops with make := fun _ world => (answer, world) }

end Watching

/-! ## Courses -/

/-- Where a course takes place: others change files there, and it may be written down how calls
    end. -/
class Scene (σ : Type) extends Surroundings σ where
  edit : σ → FileTree → σ
  note : σ → Deed → σ

/-- In the world itself nothing is written down. -/
instance : Scene World where
  edit world t := { world with tree := t }
  note world _ := world

instance : Scene Journaled where
  edit r t := r.become (Scene.edit r.world t)
  note := Journaled.note

/-- A finite sequence of calls.  At each beginning some watcher is obtained or none is, and a session
    may end with a fault of what is done in it. -/
inductive Course (W : Type)
  | nothing
  /-- Others change files. -/
  | edit (t : FileTree) (rest : Course W)
  /-- The watcher goes on. -/
  | wait (rest : Course W)
  | start (answer : Option W) (rest : Course W)
  | finish (rest : Course W)
  | session (answer : Option W) (body : Course W) (fault : Option String) (rest : Course W)

variable {σ V : Type}

/-- A beginning fails for want of something, and not since a watcher breaks down. -/
def BuildFault.isLack : BuildFault → Bool
  | .start _ | .noWatcher => true
  | .broken _ => false

/-- It is written down if a beginning has failed for want of something. -/
def Scene.noteStart [Scene σ] (s : σ) : Except BuildFault Unit → σ
  | .ok () => s
  | .error f => if f.isLack then note s .failed else s

/-- What a course comes to, with the watchers that there are for each answer of their source. -/
def Course.perform [Scene σ] (port : Option W → Port σ V) :
    Course W → Plugin V → σ → Plugin V × σ
  | .nothing, p, s => (p, s)
  | .edit t rest, p, s => rest.perform port p (Scene.edit s t)
  | .wait rest, p, s =>
      let (p, s) := p.await (port none) s
      rest.perform port p s
  | .start answer rest, p, s =>
      let (result, p, s) := p.buildStart (port answer) s
      rest.perform port p (Scene.noteStart s result)
  | .finish rest, p, s =>
      let (_, p, s) := p.buildEnd (port none) s
      rest.perform port p (Scene.note s .ended)
  | .session answer body fault rest, p, s =>
      let (_, p, s) := p.session (port answer) s fun p s => (fault, body.perform port p s)
      rest.perform port p (Scene.note s .left)

/-! ## A journal changes nothing -/

/-- A build with its watcher, seen without the number. -/
def Plugin.plain (p : Plugin (Tagged W)) : Plugin W :=
  ⟨p.config, p.activity, p.watcher.map Tagged.watcher⟩

/-- A build and the world around it, seen without number and journal. -/
def plainly (s : Plugin (Tagged W) × Journaled) : Plugin W × World := (s.1.plain, s.2.world)

namespace Watching

variable (ops : Watching W) (r : Journaled)

theorem prepare_journaled (c : Config) :
    ((Surroundings.prepare c r).1, (Surroundings.prepare c r).2.world)
      = Surroundings.prepare c r.world := rfl

theorem make_journaled (c : Config) :
    let s := ops.journaled.make c r
    (s.1.map Tagged.watcher, s.2.world) = ops.make c r.world := by
  simp only [journaled]
  rcases ops.make c r.world with ⟨answer, world⟩
  cases answer <;> rfl

/-- A watcher that is obtained gets the next number. -/
theorem make_cases (c : Config) :
    ∃ r' : Journaled, r'.deeds = r.deeds ∧ (ops.journaled.make c r = (none, r')
      ∨ ∃ w, ops.journaled.make c r = (some ⟨r'.made, w⟩, r'.note (.obtained r'.made))) := by
  rcases hmake : ops.make c r.world with ⟨answer, world⟩
  cases answer with
  | none => exact ⟨r.become world, rfl, Or.inl (by simp only [journaled, hmake])⟩
  | some w =>
      refine ⟨r.become world, rfl, Or.inr ⟨w, ?_⟩⟩
      simp only [journaled, hmake]
      rfl

theorem start_journaled (sink : Sink) (v : Tagged W) (counts : Counts) :
    let s := ops.journaled.start sink v ⟨counts, r⟩
    (s.1, s.2.1.watcher, (⟨s.2.2.counts, s.2.2.world.world⟩ : Progress World))
      = ops.start sink v.watcher ⟨counts, r.world⟩ := by
  rcases hstart : ops.start sink v.watcher ⟨counts, r.world⟩ with ⟨result, w, after⟩
  cases result <;> simp [journaled, Journaled.become, Journaled.note, hstart]

end Watching

namespace Plugin

variable (ops : Watching W) (p : Plugin (Tagged W)) (r : Journaled)

theorem closeWatcher_journaled :
    plainly (p.closeWatcher ops.journaled r) = p.plain.closeWatcher ops r.world := by
  obtain ⟨c, activity, watcher⟩ := p
  cases watcher with
  | none => rfl
  | some v => cases activity <;> rfl

theorem await_journaled : plainly (p.await ops.journaled r) = p.plain.await ops r.world := by
  obtain ⟨c, activity, watcher⟩ := p
  cases watcher with
  | none => rfl
  | some v => cases activity <;> rfl

theorem awaitFirstPass_journaled :
    let s := p.awaitFirstPass ops.journaled r
    (s.1, plainly s.2) = p.plain.awaitFirstPass ops r.world := by
  have hstate : p.watcher.map ops.journaled.state = p.plain.watcher.map ops.state := by
    rw [plain, Option.map_map]
    rfl
  have hready (q : Plugin (Tagged W)) :
      q.watcher.map ops.journaled.isReady = q.plain.watcher.map ops.isReady := by
    rw [plain, Option.map_map]
    rfl
  have hwaited : plainly (if Watch.isMeasurable p.config.startupTimeoutMs then
        p.await ops.journaled r else (p, r))
      = if Watch.isMeasurable p.plain.config.startupTimeoutMs then
        p.plain.await ops r.world else (p.plain, r.world) := by
    rw [← await_journaled]
    exact apply_ite plainly _ _ _
  simp only [awaitFirstPass, hstate]
  split
  · rfl
  · rfl
  · rw [← hwaited]
    generalize (if Watch.isMeasurable p.config.startupTimeoutMs = true then
      p.await ops.journaled r else (p, r)) = s
    obtain ⟨q, r⟩ := s
    have hwatcher := hready q
    have htimeout : p.plain.config = p.config := rfl
    simp only [plainly, hwatcher, htimeout]
    split <;> rfl

theorem launch_journaled (c : Config) (writer : Writer) (v : Tagged W) :
    let s := launch ops.journaled c writer v r
    (s.1, plainly s.2) = launch ops c writer v.watcher r.world := by
  rw [launch, launch, ← ops.start_journaled r]
  rfl

/-- **A beginning is the same with a journal.** -/
theorem buildStart_journaled :
    let s := p.buildStart ops.journaled r
    (s.1, plainly s.2) = p.plain.buildStart ops r.world := by
  have hclose := closeWatcher_journaled ops p r
  simp only [buildStart]
  rw [← hclose]
  obtain ⟨q, r⟩ := p.closeWatcher ops.journaled r
  have hprepare := Watching.prepare_journaled r q.config
  simp only [plainly, plain]
  rw [← hprepare]
  rcases Surroundings.prepare q.config r with ⟨result, r⟩
  cases result with
  | error f => rfl
  | ok writer =>
      have hmake := ops.make_journaled r q.config
      simp only
      rw [← hmake]
      rcases ops.journaled.make q.config r with ⟨answer, r⟩
      cases answer with
      | none => rfl
      | some v => exact launch_journaled ops r q.config writer v

/-- **An end is the same with a journal.** -/
theorem buildEnd_journaled :
    let s := p.buildEnd ops.journaled r
    (s.1, plainly s.2) = p.plain.buildEnd ops r.world := by
  have hawait := awaitFirstPass_journaled ops p r
  simp only [buildEnd]
  rw [← hawait]
  exact Prod.ext rfl (closeWatcher_journaled ops _ _)

/-- **A session is the same with a journal**, if what is done in it is the same. -/
theorem session_journaled {α : Type}
    (body : Plugin (Tagged W) → Journaled → α × Plugin (Tagged W) × Journaled)
    (body' : Plugin W → World → α × Plugin W × World)
    (hbody : ∀ q r, ((body q r).1, plainly (body q r).2) = body' q.plain r.world) :
    let s := p.session ops.journaled r body
    (s.1, plainly s.2) = p.plain.session ops r.world body' := by
  simp only [session]
  rw [← buildStart_journaled]
  rcases p.buildStart ops.journaled r with ⟨result, q, r⟩
  cases result with
  | error f => rfl
  | ok _ =>
      simp only [plainly]
      rw [← hbody q r]
      rcases body q r with ⟨a, q, r⟩
      simp only [plainly]
      rw [← buildEnd_journaled]
      rcases q.buildEnd ops.journaled r with ⟨result, q, r⟩
      cases result <;> rfl

end Plugin

/-- **A journal changes nothing**: a course about which one is kept leaves the build and the world as
    it does otherwise. -/
theorem Course.perform_journaled (ops : Watching W) (course : Course W) (p : Plugin (Tagged W))
    (r : Journaled) :
    plainly (course.perform (fun answer => (ops.answering answer).journaled) p r)
      = course.perform ops.answering p.plain r.world := by
  induction course generalizing p r with
  | nothing => rfl
  | edit t rest ih => exact ih _ _
  | wait rest ih =>
      rw [perform, perform, ← Plugin.await_journaled]
      exact ih _ _
  | start answer rest ih =>
      rw [perform, perform, ← Plugin.buildStart_journaled]
      rcases p.buildStart (ops.answering answer).journaled r with ⟨result, q, r⟩
      have hnoted : (Scene.noteStart r result).world = Scene.noteStart r.world result := by
        cases result with
        | ok _ => rfl
        | error f => cases f <;> rfl
      refine (ih q _).trans ?_
      rw [hnoted]
      rfl
  | finish rest ih =>
      rw [perform, perform, ← Plugin.buildEnd_journaled]
      exact ih _ _
  | session answer body fault rest ihbody ihrest =>
      have hsession := Plugin.session_journaled (ops.answering answer) p r
        (fun q r => (fault, body.perform _ q r)) (fun q world => (fault, body.perform _ q world))
        fun q r => congrArg (Prod.mk fault) (ihbody q r)
      rw [perform, perform, ← hsession]
      exact ihrest _ _

/-! ## Open watchers -/

/-- Which watchers are open after a deed. -/
def Deed.leaves (opened : List Nat) : Deed → List Nat
  | .obtained k => opened ++ [k]
  | .closed k => opened.filter (· ≠ k)
  | _ => opened

/-- The watchers that were obtained and are not closed. -/
def openAfter (deeds : List Deed) : List Nat := deeds.foldl Deed.leaves []

/-- Which deeds may follow which.  A directory is made anew, a watcher is obtained, and a beginning that
    fails for want of something, an end or a session is over, only while no watcher is open; a watcher
    is started while no other one is.  Only a session whose own watcher breaks down when it is started,
    so that the session is not entered, leaves that one open. -/
def Deed.Allows (before : List Deed) : Deed → Prop
  | .preparing | .obtained _ | .failed | .ended => openAfter before = []
  | .starting k | .broken k => openAfter before = [k]
  | .closed _ => True
  | .left => openAfter before = [] ∨ ∃ k, before.getLast? = some (.broken k)

@[simp] theorem openAfter_concat (deeds : List Deed) (d : Deed) :
    openAfter (deeds ++ [d]) = d.leaves (openAfter deeds) := by
  rw [openAfter, List.foldl_append]
  rfl

/-- By the deed no watcher is obtained or closed. -/
def Deed.IsMark (d : Deed) : Prop := (∀ opened, d.leaves opened = opened) ∧ d.obtained? = none

theorem openAfter_mark (deeds : List Deed) {d : Deed} (h : d.IsMark) :
    openAfter (deeds ++ [d]) = openAfter deeds :=
  (openAfter_concat deeds d).trans (h.1 _)

/-- Every deed is allowed at its time. -/
def Allowed (deeds : List Deed) : Prop := ∀ before d, before ++ [d] <+: deeds → d.Allows before

/-- What is written down so far stays allowed, and what is written down next has to be. -/
theorem Allowed.concat {deeds : List Deed} {d : Deed} (h : Allowed deeds) (hd : d.Allows deeds) :
    Allowed (deeds ++ [d]) := by
  intro before d' hprefix
  rcases List.prefix_concat_iff.mp hprefix with hlast | hearlier
  · obtain ⟨rfl, rfl⟩ := List.append_singleton_inj.mp hlast
    exact hd
  · exact h before d' hearlier

/-- **Never more than one watcher is open.** -/
theorem length_openAfter_le_one {deeds : List Deed} (h : Allowed deeds) :
    ∀ moment, moment <+: deeds → (openAfter moment).length ≤ 1 := by
  intro moment
  induction moment using List.reverseRecOn with
  | nil => exact fun _ => Nat.zero_le 1
  | append_singleton before d ih =>
      intro hprefix
      have hbefore := ih ((List.prefix_append _ _).trans hprefix)
      have hallowed := h before d hprefix
      rw [openAfter_concat]
      cases d with
      | obtained k =>
          rw [show openAfter before = [] from hallowed]
          exact Nat.le_refl 1
      | closed k => exact Nat.le_trans (List.length_filter_le _ _) hbefore
      | preparing | starting | broken | failed | ended | left => exact hbefore

/-! ## Whole courses -/

/-- A close leaves a watcher in a given condition, and it stays so while the build waits. -/
structure Watching.Closes (ops : Watching W) (Closed : W → Prop) : Prop where
  close : ∀ sink w q, Closed (ops.close sink w q).1
  settle : ∀ sink w q, Closed w → Closed (ops.settle sink w q).1

/-- **Between two calls** all deeds were allowed, the watchers have the numbers of their order, and no
    watcher is open but the one that the build has; the build has begun, so it can close it.  One that
    it has and that is not open is in the condition in which a close leaves it. -/
structure Tidy (Closed : W → Prop) (p : Plugin (Tagged W)) (deeds : List Deed) : Prop where
  allowed : Allowed deeds
  numbered : deeds.filterMap Deed.obtained? = List.range (deeds.filterMap Deed.obtained?).length
  held : openAfter deeds = [] ∨ ∃ v a, p.watcher = some v ∧ p.activity = some a
    ∧ openAfter deeds = [v.number]
  closed : ∀ v, p.watcher = some v → v.number ∉ openAfter deeds → Closed v.watcher

namespace Tidy

variable {Closed : W → Prop} {ops : Watching W} {p : Plugin (Tagged W)} {r : Journaled}
  {deeds : List Deed}

/-- A build about which nothing is written down yet. -/
theorem fresh (Closed : W → Prop) (c : Config) : Tidy Closed (.fresh c) [] where
  allowed := by
    intro before d hprefix
    have hnil := List.prefix_nil.mp hprefix
    exact absurd hnil (List.append_ne_nil_of_right_ne_nil _ (List.cons_ne_nil _ _))
  numbered := rfl
  held := Or.inl rfl
  closed := nofun

/-- Something is written down by which no watcher is obtained.  It is enough to know of a build with
    which it is written down that its watcher is the open one, or closed. -/
theorem note {q : Plugin (Tagged W)} {d : Deed} (h : Tidy Closed p deeds) (hd : d.Allows deeds)
    (hnew : d.obtained? = none)
    (hheld : openAfter (deeds ++ [d]) = [] ∨ ∃ v a, q.watcher = some v ∧ q.activity = some a
      ∧ openAfter (deeds ++ [d]) = [v.number])
    (hclosed : ∀ v, q.watcher = some v → v.number ∉ openAfter (deeds ++ [d]) → Closed v.watcher) :
    Tidy Closed q (deeds ++ [d]) := by
  have hobtained : (deeds ++ [d]).filterMap Deed.obtained? = deeds.filterMap Deed.obtained? := by
    simp [hnew]
  refine ⟨h.allowed.concat hd, ?_, hheld, hclosed⟩
  rw [hobtained]
  exact h.numbered

/-- Something is written down by which no watcher is obtained or closed. -/
theorem mark {d : Deed} (h : Tidy Closed p deeds) (hmark : d.IsMark) (hd : d.Allows deeds) :
    Tidy Closed p (deeds ++ [d]) := by
  have hopen := openAfter_mark deeds hmark
  refine h.note hd hmark.2 ?_ ?_
  · rw [hopen]
    exact h.held
  · rw [hopen]
    exact h.closed

/-- While no watcher is open, a build may have no watcher. -/
theorem without (h : Tidy Closed p deeds) (hopen : openAfter deeds = []) (c : Config)
    (activity : Option Activity) : Tidy Closed ⟨c, activity, none⟩ deeds :=
  ⟨h.allowed, h.numbered, Or.inl hopen, nofun⟩

/-- **A close closes.** -/
theorem closeWatcher (h : Tidy Closed p r.deeds) (hops : ops.Closes Closed) :
    let s := p.closeWatcher ops.journaled r
    Tidy Closed s.1 s.2.deeds ∧ openAfter s.2.deeds = [] := by
  rw [Plugin.closeWatcher]
  split
  · rename_i v a hv ha
    have hopen : openAfter (r.deeds ++ [.closed v.number]) = [] := by
      rw [openAfter_concat]
      rcases h.held with hclosed | ⟨v', a', hv', -, hheld⟩
      · rw [hclosed]
        rfl
      · obtain rfl := Option.some.inj (hv.symm.trans hv')
        rw [hheld]
        simp [Deed.leaves]
    refine ⟨h.note trivial rfl (Or.inl hopen) fun v' hv' _ => ?_, hopen⟩
    obtain rfl := Option.some.inj hv'
    exact hops.close _ _ _
  · -- a close without a watcher does nothing, and then none is open
    rename_i hother
    rcases h.held with hclosed | ⟨v, a, hv, ha, -⟩
    · exact ⟨h, hclosed⟩
    · exact absurd ha (hother v a hv)

/-- A watcher that is obtained gets the next number, and is the one that is open. -/
theorem obtain (h : Tidy Closed p r.deeds) (hopen : openAfter r.deeds = []) {q : Plugin (Tagged W)}
    {w : W} {a : Activity} (hw : q.watcher = some ⟨r.made, w⟩) (ha : q.activity = some a) :
    Tidy Closed q (r.deeds ++ [.obtained r.made])
      ∧ openAfter (r.deeds ++ [.obtained r.made]) = [r.made] := by
  have hnow : openAfter (r.deeds ++ [.obtained r.made]) = [r.made] := by
    rw [openAfter_concat, hopen]
    rfl
  refine ⟨⟨h.allowed.concat hopen, ?_, Or.inr ⟨_, a, hw, ha, hnow⟩, fun v hv hclosed => ?_⟩, hnow⟩
  · rw [List.filterMap_append, h.numbered, List.length_append, List.length_range]
    exact List.range_succ.symm
  · obtain rfl := Option.some.inj (hw.symm.trans hv)
    rw [hnow] at hclosed
    exact absurd List.mem_cons_self hclosed

/-- A watcher that is obtained and started, successfully or not, is the one that is open. -/
theorem launch (h : Tidy Closed p r.deeds) (ops : Watching W) (hopen : openAfter r.deeds = [])
    (c : Config) (writer : Writer) (w : W) :
    let s := Plugin.launch ops.journaled c writer ⟨r.made, w⟩ (r.note (.obtained r.made))
    Tidy Closed s.2.1 s.2.2.deeds
      ∧ ∀ f, s.1 = .error f → (∃ b, f = .broken b) ∧ s.2.2.deeds.getLast? = some (.broken r.made) := by
  rw [Plugin.launch]
  rcases hstart : ops.start writer.sink w ⟨.zero, r.world⟩ with ⟨result, w', after⟩
  obtain ⟨hobtained, hnow⟩ := h.obtain hopen (q := ⟨c, some ⟨writer, after.counts⟩,
    some ⟨r.made, w'⟩⟩) rfl rfl
  have hmark : (Deed.starting r.made).IsMark := ⟨fun _ => rfl, rfl⟩
  have hstarting := hobtained.mark hmark hnow
  cases result with
  | ok _ =>
      simp only [Watching.journaled, Journaled.note, Journaled.become, hstart]
      exact ⟨hstarting, fun f hf => (by cases hf)⟩
  | error b =>
      have hstill := (openAfter_mark _ hmark).trans hnow
      have hbroken := hstarting.mark (d := .broken r.made) ⟨fun _ => rfl, rfl⟩ hstill
      simp only [Watching.journaled, Journaled.note, Journaled.become, hstart]
      refine ⟨hbroken, fun f hf => ⟨⟨b, (Except.error.inj hf).symm⟩, ?_⟩⟩
      exact List.getLast?_concat

/-- **A beginning** leaves everything tidy.  If it fails, then for want of something, and no watcher is
    open, or since its watcher has broken down just now. -/
theorem start (h : Tidy Closed p r.deeds) (hops : ops.Closes Closed) :
    let s := p.buildStart ops.journaled r
    Tidy Closed s.2.1 s.2.2.deeds ∧ ∀ f, s.1 = .error f →
      (f.isLack = true ∧ openAfter s.2.2.deeds = [])
        ∨ (f.isLack = false ∧ ∃ k, s.2.2.deeds.getLast? = some (.broken k)) := by
  obtain ⟨hclosed, hopen⟩ := h.closeWatcher hops
  rw [Plugin.buildStart]
  generalize p.closeWatcher ops.journaled r = s at hclosed hopen ⊢
  obtain ⟨q, r⟩ := s
  obtain ⟨hready, hstill⟩ : Tidy Closed q (Surroundings.prepare q.config r).2.deeds
      ∧ openAfter (Surroundings.prepare q.config r).2.deeds = [] := by
    have hmark : Deed.preparing.IsMark := ⟨fun _ => rfl, rfl⟩
    exact ⟨hclosed.mark hmark hopen, (openAfter_mark r.deeds hmark).trans hopen⟩
  simp only
  generalize Surroundings.prepare q.config r = s at hready hstill ⊢
  obtain ⟨result, r⟩ := s
  cases result with
  | error f =>
      refine ⟨hready.without hstill _ _, fun f' hf => Or.inl ⟨?_, hstill⟩⟩
      cases hf
      rfl
  | ok writer =>
      simp only
      obtain ⟨r', hdeeds, hmake | ⟨w, hmake⟩⟩ := ops.make_cases r q.config
      · rw [hmake]
        simp only
        rw [hdeeds]
        refine ⟨hready.without hstill _ _, fun f hf => Or.inl ⟨?_, hstill⟩⟩
        cases hf
        rfl
      · rw [hmake]
        simp only
        have hready' : Tidy Closed q r'.deeds := hdeeds ▸ hready
        obtain ⟨htidy, hfault⟩ := hready'.launch ops (hdeeds ▸ hstill) q.config writer w
        refine ⟨htidy, fun f hf => Or.inr ?_⟩
        obtain ⟨⟨b, rfl⟩, hlast⟩ := hfault f hf
        exact ⟨rfl, _, hlast⟩

/-- It may be written down that a beginning has failed for want of something. -/
theorem noteStart (h : Tidy Closed p r.deeds) {result : Except BuildFault Unit}
    (hfault : ∀ f, result = .error f → (f.isLack = true ∧ openAfter r.deeds = [])
      ∨ (f.isLack = false ∧ ∃ k, r.deeds.getLast? = some (.broken k))) :
    Tidy Closed p (Scene.noteStart r result).deeds := by
  cases result with
  | ok _ => exact h
  | error f =>
      rw [Scene.noteStart]
      rcases hfault f rfl with ⟨hlack, hopen⟩ | ⟨hlack, -⟩
      · rw [if_pos hlack]
        exact h.mark (d := .failed) ⟨fun _ => rfl, rfl⟩ hopen
      · rw [hlack]
        exact h

/-- While the first pass is awaited, everything stays tidy. -/
theorem await (h : Tidy Closed p r.deeds) (hops : ops.Closes Closed) :
    let s := p.await ops.journaled r
    Tidy Closed s.1 s.2.deeds := by
  rw [Plugin.await]
  split
  · rename_i v a hv ha
    refine ⟨h.allowed, h.numbered, ?_, fun v' hv' hopen => ?_⟩
    · refine h.held.imp_right ?_
      rintro ⟨v', a', hv', -, hheld⟩
      obtain rfl := Option.some.inj (hv.symm.trans hv')
      exact ⟨_, _, rfl, rfl, hheld⟩
    · obtain rfl := Option.some.inj hv'
      exact hops.settle _ _ _ (h.closed v hv hopen)
  · exact h

/-- The watcher is awaited, or not, and a report changes nothing. -/
theorem awaitFirstPass (h : Tidy Closed p r.deeds) (hops : ops.Closes Closed) :
    let s := p.awaitFirstPass ops.journaled r
    Tidy Closed s.2.1 s.2.2.deeds := by
  have hawait : ∀ b : Bool, Tidy Closed (if b then p.await ops.journaled r else (p, r)).1
      (if b then p.await ops.journaled r else (p, r)).2.deeds := by
    intro b
    cases b with
    | true => exact h.await hops
    | false => exact h
  rw [Plugin.awaitFirstPass]
  simp only
  split
  · exact h
  · exact h
  · split <;> exact hawait _

/-- **An end** leaves everything tidy, and no watcher is open. -/
theorem finish (h : Tidy Closed p r.deeds) (hops : ops.Closes Closed) :
    let s := p.buildEnd ops.journaled r
    Tidy Closed s.2.1 s.2.2.deeds ∧ openAfter s.2.2.deeds = [] :=
  (h.awaitFirstPass hops).closeWatcher hops

/-- **A session** leaves everything tidy if what is done in it does.  No watcher is open then, unless
    that of the session has broken down just now. -/
theorem session {α : Type} (h : Tidy Closed p r.deeds) (hops : ops.Closes Closed)
    (body : Plugin (Tagged W) → Journaled → α × Plugin (Tagged W) × Journaled)
    (hbody : ∀ q r, Tidy Closed q r.deeds → Tidy Closed (body q r).2.1 (body q r).2.2.deeds) :
    let s := p.session ops.journaled r body
    Tidy Closed s.2.1 s.2.2.deeds ∧ Deed.left.Allows s.2.2.deeds := by
  obtain ⟨hstart, hfault⟩ := h.start hops
  rw [Plugin.session]
  generalize p.buildStart ops.journaled r = s at hstart hfault ⊢
  obtain ⟨result, q, r⟩ := s
  cases result with
  | error f =>
      refine ⟨hstart, ?_⟩
      rcases hfault f rfl with ⟨-, hopen⟩ | ⟨-, hbroken⟩
      · exact Or.inl hopen
      · exact Or.inr hbroken
  | ok _ =>
      simp only
      obtain ⟨hfinish, hopen⟩ := (hbody q r hstart).finish hops
      generalize (body q r).2.1.buildEnd ops.journaled (body q r).2.2 = s at hfinish hopen ⊢
      obtain ⟨result, q, r⟩ := s
      cases result <;> exact ⟨hfinish, Or.inl hopen⟩

/-- **A whole course** leaves everything tidy. -/
theorem course (hops : ops.Closes Closed) (course : Course W) (h : Tidy Closed p r.deeds) :
    let s := course.perform (fun answer => (ops.answering answer).journaled) p r
    Tidy Closed s.1 s.2.deeds := by
  have hanswering (answer : Option W) : (ops.answering answer).Closes Closed := ⟨hops.close, hops.settle⟩
  induction course generalizing p r with
  | nothing => exact h
  | edit t rest ih => exact ih h
  | wait rest ih =>
      have hawait := h.await (hanswering none)
      exact ih hawait
  | start answer rest ih =>
      obtain ⟨hstart, hfault⟩ := h.start (hanswering answer)
      rw [Course.perform]
      generalize p.buildStart (ops.answering answer).journaled r = s at hstart hfault ⊢
      obtain ⟨result, q, r⟩ := s
      exact ih (hstart.noteStart hfault)
  | finish rest ih =>
      obtain ⟨hfinish, hopen⟩ := h.finish (hanswering none)
      exact ih (hfinish.mark (d := .ended) ⟨fun _ => rfl, rfl⟩ hopen)
  | session answer body fault rest ihbody ihrest =>
      obtain ⟨hsession, hleft⟩ := h.session (hanswering answer)
        (fun q r => (fault, body.perform _ q r)) fun q r hq => ihbody hq
      exact ihrest (hsession.mark (d := .left) ⟨fun _ => rfl, rfl⟩ hleft)

end Tidy

/-- **No watcher leaks.**  Whatever a build goes through, with whatever watchers, a journal of what it
    asks of them and of the world changes nothing about it, and the watchers in it have the numbers of
    their order.  At any moment at most one watcher is open, and every deed is allowed.  So no watcher
    is open when the directory is made anew, when a beginning has failed for want of a schema, a
    directory or a watcher, and after any end or session; only a session that is not entered, since
    its watcher breaks down when it is started, leaves that one open. -/
theorem no_watcher_leaks (ops : Watching W) (c : Config) (world : World) (course : Course W) :
    let s := course.perform (fun answer => (ops.answering answer).journaled) (.fresh c) ⟨world, []⟩
    plainly s = course.perform ops.answering (.fresh c) world
      ∧ s.2.deeds.filterMap Deed.obtained? = List.range s.2.made
      ∧ (∀ moment, moment <+: s.2.deeds → (openAfter moment).length ≤ 1)
      ∧ ∀ before d, before ++ [d] <+: s.2.deeds → d.Allows before := by
  have hops : ops.Closes fun _ => True := ⟨fun _ _ _ => trivial, fun _ _ _ _ => trivial⟩
  have htidy := Tidy.course hops course (r := ⟨world, []⟩) (.fresh _ c)
  exact ⟨course.perform_journaled ops _ _, htidy.numbered, length_openAfter_le_one htidy.allowed,
    htidy.allowed⟩

/-- **A watcher that counts its closings** has counted one when it is the build's and not open. -/
theorem Rehearsal.closed_of_not_open (files : List Path) (outcome : Watch.State) (c : Config)
    (world : World) (course : Course Rehearsal) :
    let s := course.perform (fun answer => ((watching files outcome).answering answer).journaled)
      (.fresh c) ⟨world, []⟩
    ∀ v, s.1.watcher = some v → v.number ∉ openAfter s.2.deeds →
      v.watcher.state = .closed ∧ 0 < v.watcher.closings := by
  have hops : (watching files outcome).Closes fun r => r.state = .closed ∧ 0 < r.closings :=
    ⟨fun _ _ _ => ⟨rfl, Nat.succ_pos _⟩, fun _ _ _ h => h⟩
  exact (Tidy.course hops course (r := ⟨world, []⟩) (.fresh _ c)).closed

/-- A build begins, and again without a watcher; in a session it begins once more, and then something
    goes wrong. -/
example :
    let ops := Rehearsal.watching [] .ready
    let r : Rehearsal := ⟨[], .ready, .idle, false, 0⟩
    let course := Course.start (some r) (.start none
      (.session (some r) (.start (some r) .nothing) (some "fault") .nothing))
    (course.perform (fun answer => (ops.answering answer).journaled) (.fresh smallConfig)
        ⟨smallWorld "query Q{a}", []⟩).2.deeds
      = [.preparing, .obtained 0, .starting 0, .closed 0, .preparing, .failed,
        .preparing, .obtained 1, .starting 1, .closed 1, .preparing, .obtained 2, .starting 2,
        .closed 2, .left] := by
  decide +kernel

end QueryTypings
