/-
  What the beginning of a build leaves alone.

  1. **Elsewhere** — a writer changes no file outside its output directory, whatever it is asked for
     and whatever the tree is like (`attempt_elsewhere`, `remove_elsewhere`).

  2. **Watching** — so neither do the events of a watcher, in whatever order they come
     (`close_elsewhere`, `settle_elsewhere`).

  3. **Making** — the directory for declarations is emptied when a build begins, and no file outside
     it is touched (`prepare_elsewhere`).

  4. **Builds** — a build that begins, for the first time or again, leaves each query file as it is
     that does not lie in the directory for declarations (`buildStart_keeps`).  That directory may lie
     in the one with the query files; a query file that lies in it is lost
     (`buildStart_empties_root`).
-/
import QueryTypings.Proofs.Project.Preparation
import QueryTypings.Proofs.Watch.Scanned
import QueryTypings.Proofs.Watch.Turns

namespace QueryTypings

open QueryTypings.Text QueryTypings.FileTree QueryTypings.Watch

/-! ## Elsewhere -/

/-- The working directory is the same, and so are all files outside a directory. -/
structure Elsewhere (top : List String) (world world' : World) : Prop where
  cwd : world'.cwd = world.cwd
  files : ∀ q, ¬ top <+: q → world'.tree.octets? q = world.tree.octets? q

theorem Elsewhere.of_same {top : List String} {world world' : World} (hcwd : world'.cwd = world.cwd)
    (htree : world'.tree = world.tree) : Elsewhere top world world' :=
  ⟨hcwd, fun q _ => by rw [htree]⟩

theorem Elsewhere.refl (top : List String) (world : World) : Elsewhere top world world :=
  .of_same rfl rfl

theorem Elsewhere.trans {top : List String} {world world' world'' : World}
    (h : Elsewhere top world world') (h' : Elsewhere top world' world'') :
    Elsewhere top world world'' :=
  ⟨h'.cwd.trans h.cwd, fun q hq => (h'.files q hq).trans (h.files q hq)⟩

/-- A writer whose output directory lies in a directory. -/
structure Writer.Within (w : Writer) (top : List String) : Prop where
  placed : w.Placed
  below : top <+: w.outDir.parts

variable {w : Writer} {top : List String} {world : World}

theorem Writer.Within.ne {q : List String} {a : Path} (hw : w.Within top) (hq : ¬ top <+: q)
    (ha : Below w.outDir.parts a.parts) : q ≠ a.parts := by
  rintro rfl
  exact hq (hw.below.trans ha.1)

/-- **Writing touches no file elsewhere**, whatever goes wrong. -/
theorem Writer.attempt_elsewhere (hw : w.Within top) (setback : Setback) (s : String) :
    Elsewhere top world (w.attempt setback world s).2 := by
  rcases hattempt : w.attempt setback world s with ⟨result, after⟩
  obtain ⟨hcwd, _, heffect⟩ := attempt_effect hw.placed setback hattempt
  refine ⟨hcwd, fun q hq => ?_⟩
  cases heffect with
  | written hcompose hput =>
      exact hput.others (hw.ne hq (compose_below hw.placed hcompose).1)
  | failed hgrown _ => exact hgrown.octets? q

/-- **Removing touches no file elsewhere.** -/
theorem Writer.remove_elsewhere (hw : w.Within top) (s : String) :
    Elsewhere top world (w.remove world s).2 := by
  unfold Writer.remove
  split
  · exact .refl top world
  · rename_i a ha
    obtain ⟨hbelow, hdots⟩ := artifact_below hw.placed ha
    split
    · exact .refl top world
    · split
      · exact .refl top world
      · exact .refl top world
      · rename_i t ht
        obtain ⟨rfl, _⟩ := removeFile_ok hdots ht
        exact ⟨rfl, fun q hq => octets?_congr (entry?_clear_of_ne _ (hw.ne hq hbelow))⟩

/-! ## Watching -/

/-- Files change when a query file came or changed only as writing changes them. -/
theorem onWrite_same (sink : Sink) (e : Event) (p : Path) (n : Counts) (world : World) :
    (Dispatch.onWrite sink e p n world).world.cwd = (sink.write world p.text).2.cwd
      ∧ (Dispatch.onWrite sink e p n world).world.tree = (sink.write world p.text).2.tree := by
  unfold Dispatch.onWrite
  split
  · rename_i hwrite
    rw [hwrite]
    exact ⟨rfl, rfl⟩
  · rename_i hwrite
    rw [hwrite]
    exact ⟨rfl, rfl⟩
  · rename_i hwrite
    rw [hwrite]
    exact ⟨rfl, rfl⟩

/-- Files change when a query file went only as removing changes them. -/
theorem onUnlink_same (sink : Sink) (e : Event) (p : Path) (n : Counts) (world : World) :
    (Dispatch.onUnlink sink e p n world).world.cwd = (sink.remove world p.text).2.cwd
      ∧ (Dispatch.onUnlink sink e p n world).world.tree = (sink.remove world p.text).2.tree := by
  unfold Dispatch.onUnlink
  split
  · rename_i hremove
    rw [hremove]
    exact ⟨rfl, rfl⟩
  · rename_i hremove
    rw [hremove]
    exact ⟨rfl, rfl⟩
  · rename_i hremove
    rw [hremove]
    exact ⟨rfl, rfl⟩

/-- **Handling an event touches no file elsewhere.** -/
theorem dispatch_elsewhere (hw : w.Within top) (e : Event) (n : Counts) :
    Elsewhere top world (dispatch w.sink e n world).world := by
  have hwrite : ∀ p, Elsewhere top world (Dispatch.onWrite w.sink e p n world).world := fun p => by
    obtain ⟨hcwd, htree⟩ := onWrite_same w.sink e p n world
    exact (Writer.attempt_elsewhere hw .nothing p.text).trans (.of_same hcwd htree)
  have hunlink : ∀ p, Elsewhere top world (Dispatch.onUnlink w.sink e p n world).world := fun p => by
    obtain ⟨hcwd, htree⟩ := onUnlink_same w.sink e p n world
    exact (Writer.remove_elsewhere hw p.text).trans (.of_same hcwd htree)
  unfold dispatch
  split
  · exact .of_same rfl rfl
  · exact .of_same rfl rfl
  · exact .refl top world
  · exact hunlink _
  · exact hwrite _

theorem handOver_elsewhere (hw : w.Within top) (s : Counts × World) (e : Event) :
    Elsewhere top s.2 (Watcher.handOver w.sink.handler s e).2 := by
  have hdispatch := @dispatch_elsewhere w top s.2 hw e s.1
  simp only [Watcher.handOver, Sink.handler]
  cases (dispatch w.sink e s.1 s.2).outcome with
  | ok o => exact hdispatch
  | error b => exact ⟨hdispatch.cwd, hdispatch.files⟩

theorem handOvers_elsewhere (hw : w.Within top) (es : List Event) (s : Counts × World) :
    Elsewhere top s.2 (es.foldl (Watcher.handOver w.sink.handler) s).2 := by
  induction es generalizing s with
  | nil => exact .refl top s.2
  | cons e es ih => exact (handOver_elsewhere hw s e).trans (ih _)

theorem handOverAll_elsewhere (hw : w.Within top) (v : Watcher) (n : Counts) :
    Elsewhere top world (v.handOverAll w.sink.handler n world).2.2 :=
  handOvers_elsewhere hw v.pending (n, world)

/-- **Closing a watcher touches no file elsewhere.** -/
theorem close_elsewhere (hw : w.Within top) (v : Watcher) (n : Counts) :
    Elsewhere top world (v.close w.sink.handler n world).2.2 := by
  unfold Watcher.close
  split
  · exact .refl top world
  · have hall := @handOverAll_elsewhere w top world hw v.cancel n
    exact ⟨hall.cwd, hall.files⟩

theorem run_elsewhere (hw : w.Within top) (steps : Nat) (v : Watcher) (n : Counts) :
    Elsewhere top world (v.run w.sink.handler steps n world).2.2 := by
  induction steps generalizing v n world with
  | zero => exact handOverAll_elsewhere hw v n
  | succ steps ih =>
      -- what is emitted is handed over before the task goes on
      have hall := @handOverAll_elsewhere w top world hw v n
      simp only [Watcher.run]
      generalize v.handOverAll w.sink.handler n world = r at hall ⊢
      obtain ⟨hcwd, htree⟩ := advance_same r.1 r.2.2
      exact (hall.trans (.of_same hcwd htree)).trans (ih _ _)

/-- **A watcher that settles touches no file elsewhere.** -/
theorem settle_elsewhere (hw : w.Within top) (v : Watcher) (n : Counts) :
    Elsewhere top world (v.settle w.sink.handler n world).2.2 :=
  run_elsewhere hw _ v n

/-- Starting a watcher changes no file. -/
theorem start_same {v v' : Watcher} {world world' : World} (h : v.start world = .ok (v', world')) :
    world'.cwd = world.cwd ∧ world'.tree = world.tree := by
  unfold Watcher.start at h
  split at h
  · cases h
  · split at h
    · obtain ⟨rfl, rfl⟩ := Prod.mk.inj (Except.ok.inj h)
      exact ⟨rfl, rfl⟩
    · simp only at h
      split at h
      · cases h
      · obtain ⟨rfl, rfl⟩ := Prod.mk.inj (Except.ok.inj h)
        exact ⟨rfl, rfl⟩
      · obtain ⟨rfl, rfl⟩ := Prod.mk.inj (Except.ok.inj h)
        exact ⟨rfl, rfl⟩

/-! ## Making -/

/-- The directory for declarations. -/
def Config.root (cwd : Path) (c : Config) : Path :=
  Writer.rootAt cwd (c.resolvedBase cwd) c.virtualDir

/-- Files outside what is spared stay. -/
theorem FileTree.Spared.octets? {t t' : FileTree} (h : Spared t t' top) {q : List String}
    (hq : ¬ top <+: q) : t'.octets? q = t.octets? q := by
  rcases h q hq with heq | ⟨hnone, hdirectory, _⟩
  · exact octets?_congr heq
  · rw [octets?_of_directory hdirectory, FileTree.octets?, hnone]

/-- **Making the directory for declarations touches no file elsewhere**, whatever comes of it. -/
theorem prepare_elsewhere (hcwd : world.cwd.isAbsolute = true) (c : Config) :
    Elsewhere (c.root world.cwd).parts world (Plugin.prepare c world).2 := by
  unfold Plugin.prepare
  simp only
  split
  · exact .refl _ world
  · split
    · exact .refl _ world
    · rename_i s _
      split
      · exact .refl _ world
      · have hdots : ".." ∉ (c.root world.cwd).parts := Path.resolved_noDots hcwd
        rcases hprepare : Writer.prepare s c.scalars (c.resolvedBase world.cwd) c.virtualDir
          [c.resolvedSchema world.cwd, c.resolvedSearch world.cwd] world with ⟨result, after⟩
        cases Writer.tryPrepare_cases hprepare with
        | nul _ => exact .refl _ world
        | held _ _ _ => exact .refl _ world
        | refused _ _ hmade =>
            exact ⟨rfl, fun q hq => (Writer.madeRoot_effect .nothing hdots hmade).1.octets? hq⟩
        | made _ _ hmade _ _ _ _ _ =>
            exact ⟨rfl, fun q hq => (Writer.madeRoot_effect .nothing hdots hmade).1.octets? hq⟩

/-! ## Builds -/

namespace Plugin

/-- The writer of a build, if it has one, has its output directory in a directory. -/
def Within (p : Plugin Watcher) (top : List String) : Prop :=
  ∀ a, p.activity = some a → a.writer.Within top

/-- A step of a build keeps the settings and the writer, and touches no file elsewhere. -/
structure Keeps (top : List String) (p : Plugin Watcher) (world : World) (p' : Plugin Watcher)
    (world' : World) : Prop where
  config : p'.config = p.config
  writer : ∀ a', p'.activity = some a' → ∃ a, p.activity = some a ∧ a'.writer = a.writer
  elsewhere : Elsewhere top world world'

variable {p p' : Plugin Watcher} {world' : World}

theorem Keeps.refl (top : List String) (p : Plugin Watcher) (world : World) :
    Keeps top p world p world :=
  ⟨rfl, fun a ha => ⟨a, ha, rfl⟩, .refl top world⟩

theorem Keeps.trans {p'' : Plugin Watcher} {world'' : World} (h : Keeps top p world p' world')
    (h' : Keeps top p' world' p'' world'') : Keeps top p world p'' world'' := by
  refine ⟨h'.config.trans h.config, fun a'' ha'' => ?_, h.elsewhere.trans h'.elsewhere⟩
  obtain ⟨a', ha', hwriter'⟩ := h'.writer a'' ha''
  obtain ⟨a, ha, hwriter⟩ := h.writer a' ha'
  exact ⟨a, ha, hwriter'.trans hwriter⟩

theorem Keeps.within (h : Keeps top p world p' world') (hp : p.Within top) : p'.Within top := by
  intro a' ha'
  obtain ⟨a, ha, hwriter⟩ := h.writer a' ha'
  rw [hwriter]
  exact hp a ha

/-- Reports make no difference. -/
theorem Keeps.say (h : Keeps top p world p' world') (level : Level) (message : String) :
    Keeps top p world p' (world'.say level message) :=
  ⟨h.config, h.writer, h.elsewhere.trans (.of_same rfl rfl)⟩

theorem closeWatcher_keeps (hp : p.Within top) (feed : Feed) :
    Keeps top p world (p.closeWatcher (Watcher.watching feed) world).1
      (p.closeWatcher (Watcher.watching feed) world).2 := by
  unfold closeWatcher
  split
  · rename_i v a _ ha
    refine ⟨rfl, fun a' ha' => ⟨a, ha, ?_⟩, close_elsewhere (hp a ha) v a.counts⟩
    obtain rfl := Option.some.inj ha'
    rfl
  · exact .refl top p world

theorem await_keeps (hp : p.Within top) (feed : Feed) :
    Keeps top p world (p.await (Watcher.watching feed) world).1
      (p.await (Watcher.watching feed) world).2 := by
  unfold await
  split
  · rename_i v a _ ha
    refine ⟨rfl, fun a' ha' => ⟨a, ha, ?_⟩, settle_elsewhere (hp a ha) v a.counts⟩
    obtain rfl := Option.some.inj ha'
    rfl
  · exact .refl top p world

theorem awaitFirstPass_keeps (hp : p.Within top) (feed : Feed) :
    Keeps top p world (p.awaitFirstPass (Watcher.watching feed) world).2.1
      (p.awaitFirstPass (Watcher.watching feed) world).2.2 := by
  unfold awaitFirstPass
  simp only
  split
  · exact .refl top p world
  · exact (Keeps.refl top p world).say _ _
  · have hawait : Keeps top p world
        (if isMeasurable p.config.startupTimeoutMs = true then
          p.await (Watcher.watching feed) world else (p, world)).1
        (if isMeasurable p.config.startupTimeoutMs = true then
          p.await (Watcher.watching feed) world else (p, world)).2 := by
      split
      · exact await_keeps hp feed
      · exact .refl top p world
    split
    · exact hawait
    · exact hawait.say _ _
    · exact hawait

/-- **The end of a build touches no file elsewhere.** -/
theorem buildEnd_keeps (hp : p.Within top) (feed : Feed) :
    Keeps top p world (p.buildEnd (Watcher.watching feed) world).2.1
      (p.buildEnd (Watcher.watching feed) world).2.2 := by
  have hawait := @awaitFirstPass_keeps top world p hp feed
  exact hawait.trans (closeWatcher_keeps (hawait.within hp) feed)

/-- The writer with which a build begins has its output directory in the directory for
    declarations. -/
theorem within_of_prepare {c : Config} {w : Writer} {started : World} (hc : world.cwd.IsStart)
    (hconfig : c.IsWritten) (h : prepare c world = (.ok w, started)) :
    w.Within (c.root world.cwd).parts := by
  refine ⟨(prepare_ok hc hconfig h).2.placed, ?_⟩
  obtain ⟨s, h⟩ := prepare_eq h
  cases Writer.tryPrepare_cases h with
  | made _ _ _ _ _ _ hasOutDir _ =>
      rw [hasOutDir]
      exact List.prefix_append _ _

/-- **The beginning of a build touches no file outside the directory for declarations.**  It keeps
    the settings, and its writer is the one that it had or one that is made with the directory. -/
theorem buildStart_elsewhere (hcwd : world.cwd.isAbsolute = true)
    (hp : p.Within (p.config.root world.cwd).parts) (feed : Feed) :
    let r := p.buildStart (Watcher.watching feed) world
    Elsewhere (p.config.root world.cwd).parts world r.2.2 ∧ r.2.1.config = p.config
      ∧ ∀ a, r.2.1.activity = some a → (∃ a', p.activity = some a' ∧ a.writer = a'.writer)
        ∨ ∃ closed started, closed.cwd = world.cwd
          ∧ prepare p.config closed = (.ok a.writer, started) := by
  have hclosed := @closeWatcher_keeps _ world p hp feed
  simp only [buildStart, prepare_world]
  -- a watcher of the build before is closed first, and what it has emitted is still handed over
  generalize p.closeWatcher (Watcher.watching feed) world = r at hclosed ⊢
  obtain ⟨q, closed⟩ := r
  obtain ⟨hconfig, hwriter, helsewhere⟩ := hclosed
  have hcwd' : closed.cwd.isAbsolute = true := helsewhere.cwd.symm ▸ hcwd
  have hmade := prepare_elsewhere hcwd' q.config
  rw [helsewhere.cwd, hconfig] at hmade
  split
  · -- the build does not begin
    rename_i f started hprepare
    rw [hconfig] at hprepare
    rw [hprepare] at hmade
    exact ⟨helsewhere.trans hmade, hconfig, fun a ha => Or.inl (hwriter a ha)⟩
  · rename_i w started hprepare
    rw [hconfig] at hprepare
    rw [hprepare] at hmade
    have hall := helsewhere.trans hmade
    have hnew : ∀ n, ∀ a, some (Activity.mk w n) = some a →
        (∃ a', p.activity = some a' ∧ a.writer = a'.writer)
          ∨ ∃ closed started, closed.cwd = world.cwd
            ∧ prepare p.config closed = (.ok a.writer, started) := by
      intro n a ha
      obtain rfl := Option.some.inj ha
      exact Or.inr ⟨closed, started, helsewhere.cwd, hprepare⟩
    simp only [Watcher.watching, launch]
    cases hstart : (Watcher.fresh q.config feed).start started with
    | error b => exact ⟨hall, hconfig, hnew _⟩
    | ok v =>
        obtain ⟨hcwd₁, htree₁⟩ := start_same hstart
        exact ⟨hall.trans (.of_same hcwd₁ htree₁), hconfig, hnew _⟩

/-- What has come of an event that is handed over. -/
def handedOver (a : Activity) (world : World) (e : Event) : Counts × World :=
  Watcher.handOver a.writer.sink.handler (a.counts, world) e

/-- A build as it may be between two steps: it begins and ends, again and again, and in between its
    watcher goes on, the events that this one emits are handed over in any order, and files are edited
    at will. -/
inductive Reached (cwd : Path) (c : Config) : Plugin Watcher → World → Prop
  | fresh (t : FileTree) (log : List LogLine) : Reached cwd c (.fresh c) ⟨cwd, t, log⟩
  | edited {p : Plugin Watcher} {world : World} (before : Reached cwd c p world) (t : FileTree) :
      Reached cwd c p { world with tree := t }
  | began {p : Plugin Watcher} {world : World} (before : Reached cwd c p world) (feed : Feed) :
      Reached cwd c (p.buildStart (Watcher.watching feed) world).2.1
        (p.buildStart (Watcher.watching feed) world).2.2
  | advanced {p : Plugin Watcher} {world : World} {v : Watcher} (before : Reached cwd c p world)
      (hv : p.watcher = some v) :
      Reached cwd c { p with watcher := some (v.advance world).1 } (v.advance world).2
  | handed {p : Plugin Watcher} {world : World} {v : Watcher} {a : Activity} {es fs : List Event}
      {e : Event} (before : Reached cwd c p world) (hv : p.watcher = some v)
      (ha : p.activity = some a) (hpending : v.pending = es ++ e :: fs) :
      Reached cwd c
        { p with
          watcher := some { v with pending := es ++ fs }
          activity := some ⟨a.writer, (handedOver a world e).1⟩ }
        (handedOver a world e).2
  | ended {p : Plugin Watcher} {world : World} (before : Reached cwd c p world) (feed : Feed) :
      Reached cwd c (p.buildEnd (Watcher.watching feed) world).2.1
        (p.buildEnd (Watcher.watching feed) world).2.2

/-- **The invariant of a build**: its writer keeps to the directory for declarations. -/
theorem Reached.within {cwd : Path} {c : Config} (hc : cwd.IsStart) (hconfig : c.IsWritten)
    (h : Reached cwd c p world) :
    world.cwd = cwd ∧ p.config = c ∧ p.Within (c.root cwd).parts := by
  induction h with
  | fresh t log => exact ⟨rfl, rfl, fun a ha => (by cases ha)⟩
  | edited _ t ih => exact ih
  | @began p world _ feed ih =>
      obtain ⟨rfl, rfl, hwithin⟩ := ih
      obtain ⟨helsewhere, hsame, hwriter⟩ := buildStart_elsewhere hc.isAbsolute hwithin feed
      refine ⟨helsewhere.cwd, hsame, fun a ha => ?_⟩
      -- the writer is that of the build before, if no new one could be made
      rcases hwriter a ha with ⟨a', ha', heq⟩ | ⟨closed, started, hclosed, hprepare⟩
      · rw [heq]
        exact hwithin a' ha'
      · rw [← hclosed]
        exact within_of_prepare (hclosed.symm ▸ hc) hconfig hprepare
  | @advanced p world v _ hv ih =>
      obtain ⟨rfl, rfl, hwithin⟩ := ih
      exact ⟨(advance_same v world).1, rfl, hwithin⟩
  | @handed p world v a es fs e _ hv ha hpending ih =>
      obtain ⟨rfl, rfl, hwithin⟩ := ih
      refine ⟨(handOver_elsewhere (hwithin a ha) (a.counts, world) e).cwd, rfl, fun a' ha' => ?_⟩
      obtain rfl := Option.some.inj ha'
      exact hwithin a ha
  | @ended p world _ feed ih =>
      obtain ⟨rfl, rfl, hwithin⟩ := ih
      have hkeeps := @buildEnd_keeps _ world p hwithin feed
      exact ⟨hkeeps.elsewhere.cwd, hkeeps.config, hkeeps.within hwithin⟩

/-- **The beginning of a build keeps the query files.**  Whether it succeeds or not, and however often
    the build has begun before, each file that a scan finds, and that does not lie in the directory
    for declarations, is there afterwards as it was. -/
theorem buildStart_keeps {cwd : Path} {c : Config} (hc : cwd.IsStart) (hconfig : c.IsWritten)
    (h : Reached cwd c p world) (ht : NoDots world.tree) {paths : List Path}
    (hscan : scan world c = .ok paths) (feed : Feed) :
    ∀ q ∈ paths, (c.root cwd).contains (Path.resolved cwd q) = false →
      ∃ octets, world.tree.octets? (Path.resolved cwd q).parts = some octets
        ∧ (p.buildStart (Watcher.watching feed) world).2.2.tree.octets? (Path.resolved cwd q).parts
          = some octets := by
  obtain ⟨rfl, rfl, hwithin⟩ := h.within hc hconfig
  intro q hq hout
  have hnot : ¬ (p.config.root world.cwd).parts <+: (Path.resolved world.cwd q).parts := by
    intro hpre
    have hin := Path.contains_resolved_iff.mpr hpre
    rw [Config.root, Writer.rootAt] at hout
    rw [hout] at hin
    cases hin
  obtain ⟨octets, hoctets⟩ := Option.isSome_iff_exists.mp (scan_isFile ht hc.isAbsolute hscan q hq)
  refine ⟨octets, hoctets, ?_⟩
  rw [(buildStart_elsewhere hc.isAbsolute hwithin feed).1.files _ hnot, hoctets]

/-- The small project's query file is there after the beginning of a build. -/
theorem buildStart_keeps_smallFile :
    scan (smallWorld "query Q{a}") smallConfig = .ok [smallFile]
      ∧ ∃ octets, (smallWorld "query Q{a}").tree.octets? smallFile.parts = some octets
        ∧ ((Plugin.fresh smallConfig).buildStart (Watcher.watching ⟨[], .stays⟩)
          (smallWorld "query Q{a}")).2.2.tree.octets? smallFile.parts = some octets := by
  have hscan : scan (smallWorld "query Q{a}") smallConfig = .ok [smallFile] := by decide +kernel
  have hdots : NoDots (smallWorld "query Q{a}").tree := by decide
  have hreached : Reached ⟨.root, ["b"]⟩ smallConfig (.fresh smallConfig) (smallWorld "query Q{a}") :=
    .fresh (smallWorld "query Q{a}").tree []
  have hkeeps := buildStart_keeps (isStart_smallWorld "query Q{a}") isWritten_smallConfig hreached
    hdots hscan ⟨[], .stays⟩ smallFile List.mem_cons_self
  exact ⟨hscan, hkeeps (by decide)⟩

/-- A project whose directory for declarations lies in the one with the query files, and a file in
    it. -/
def nestedConfig : Config := { smallConfig with virtualDir := ⟨.here, ["src", "gen"]⟩ }

/-- The place of the file. -/
def nestedFile : Path := ⟨.root, ["b", "src", "gen", "q.gql"]⟩

/-- The project. -/
def nestedWorld : World where
  cwd := ⟨.root, ["b"]⟩
  tree := ⟨[(["b"], .directory), (["b", "src"], .directory), (["b", "src", "gen"], .directory),
    (["b", "s.graphql"], .file (encodeUtf8 "type Query{a:Int}".toList)),
    (nestedFile.parts, .file (encodeUtf8 "query Q{a}".toList))]⟩
  log := []

/-- **A query file in the directory for declarations is lost** when a build begins. -/
theorem buildStart_empties_root :
    scan nestedWorld nestedConfig = .ok [nestedFile]
      ∧ (nestedWorld.tree.octets? nestedFile.parts).isSome = true
      ∧ ((Plugin.fresh nestedConfig).buildStart (Watcher.watching ⟨[], .stays⟩)
        nestedWorld).2.2.tree.octets? nestedFile.parts = none := by
  decide +kernel

end Plugin

end QueryTypings
