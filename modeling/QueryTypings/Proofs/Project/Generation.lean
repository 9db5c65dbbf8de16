/-
  What it means that a run has ended well.

  1. **One pass** — handling the query files that are there one after the other leaves, for each of
     them, the declaration of its text; files whose handling breaks down have none and are not
     counted (`pass_effect`).

  2. **The run** — a run that writes all declarations once is one such pass over what the scan finds
     (`generate_passed`).

  3. **Ended well** — if such a run ends with code zero, a query file has its declaration if and only
     if the scan finds it and its declaration does not break down (`generate_complete_iff`).  So the
     code says nothing of files that the filter accepts and the scan passes over, nor of
     breakdowns.
-/
import QueryTypings.CommandLine.Run
import QueryTypings.Proofs.Project.Handling
import QueryTypings.Proofs.Watch.Scanned

namespace QueryTypings

open QueryTypings.Text QueryTypings.FileTree QueryTypings.Watch QueryTypings.CommandLine

variable {c : Config} {w : Writer} {world started after : World} {paths : List Path}

/-! ## One pass -/

/-- One of the paths denotes the place. -/
def Met (cwd : Path) (paths : List Path) (p : Path) : Prop :=
  ∃ q ∈ paths, Path.placeOf cwd q.text = p

/-- The declaration of a source is where it belongs, and is that of its text. -/
def Writer.Declared (w : Writer) (world : World) (source : String) : Prop :=
  ∃ a text, w.compose world source = .ok (a, text)
    ∧ world.tree.octets? a.parts = some (encodeUtf8 text.toList)

/-- No declaration of a source can be told, for a reason that nobody expects. -/
def Writer.Breaks (w : Writer) (world : World) (source : String) : Prop :=
  ∃ b, w.compose world source = .error (.broken b)

/-- What a declaration says is not changed by a change below the output directory. -/
theorem Writer.Kept.compose (hw : w.Placed) (hc : world.cwd.IsStart) {world' : World}
    (h : w.Kept world.tree world'.tree) (hcwd : world'.cwd = world.cwd) {p : Path} (hp : p.IsPlace)
    (hnot : ¬ Below w.outDir.parts p.parts) :
    w.compose world' p.text = w.compose world p.text := by
  refine compose_congr hcwd fun r hr => ?_
  rw [base_join hw hc hp hr]
  exact h.outside.read hp hnot

/-- What a pass over some paths comes to for a place that is not below the output directory. -/
structure PassEffect (w : Writer) (world : World) (qs : List Path) (t : FileTree) (p : Path) : Prop where
  told : Met world.cwd qs p → (∃ x, w.compose world p.text = .ok x) ∨ w.Breaks world p.text
  written : ∀ a text, w.compose world p.text = .ok (a, text) → Met world.cwd qs p →
    t.octets? a.parts = some (encodeUtf8 text.toList)
  left : ∀ a, w.artifact world.cwd p.text = .ok a →
    (∀ text, w.compose world p.text = .ok (a, text) → ¬ Met world.cwd qs p) →
    t.octets? a.parts = world.tree.octets? a.parts

/-- A path is handled before the others. -/
theorem PassEffect.cons (hw : w.Placed) (hc : world.cwd.IsStart) {world' : World} {q p : Path}
    {qs : List Path} {t : FileTree} (hq : q.isAbsolute = true) (hcwd : world'.cwd = world.cwd)
    (hp : p.IsPlace) (hstill : w.compose world' p.text = w.compose world p.text)
    (hfirst : (∃ a text, w.compose world q.text = .ok (a, text)
        ∧ world'.tree.octets? a.parts = some (encodeUtf8 text.toList)
        ∧ ∀ r, r ≠ a.parts → world'.tree.octets? r = world.tree.octets? r)
      ∨ ((∃ b, w.compose world q.text = .error (.broken b))
        ∧ ∀ r, world'.tree.octets? r = world.tree.octets? r))
    (h : PassEffect w world' qs t p) : PassEffect w world (q :: qs) t p := by
  have hs := Path.isAbsolute_ofText_text hq
  -- what the text denotes comes to the same as the text
  have hsource : Path.placeOf world.cwd q.text = p →
      w.compose world p.text = w.compose world q.text := by
    rintro rfl
    refine Writer.compose_placeOf hw hc hs fun f hf => ?_
    rcases hfirst with ⟨a, text, hok, _⟩ | ⟨⟨b, hb⟩, _⟩
    · rw [hok] at hf
      cases hf
    · rw [hb] at hf
      cases hf
  have hmet : Met world.cwd (q :: qs) p ↔
      Path.placeOf world.cwd q.text = p ∨ Met world'.cwd qs p := by
    rw [Met, Met, hcwd]
    exact List.exists_mem_cons_iff _ q qs
  refine ⟨fun hm => ?_, fun a text hok hm => ?_, fun a ha hnot => ?_⟩
  · rcases hmet.mp hm with heq | hrest
    · rcases hfirst with ⟨a, text, hok, _⟩ | ⟨⟨b, hb⟩, _⟩
      · exact Or.inl ⟨_, (hsource heq).trans hok⟩
      · exact Or.inr ⟨b, (hsource heq).trans hb⟩
    · have := h.told hrest
      rwa [Writer.Breaks, hstill] at this
  · by_cases hrest : Met world'.cwd qs p
    · exact h.written a text (hstill.trans hok) hrest
    · have heq := (hmet.mp hm).resolve_right hrest
      have hleft := h.left a (hcwd ▸ (Writer.compose_ok hok).1) fun _ _ => hrest
      rcases hfirst with ⟨a', text', hok', hthere, _⟩ | ⟨⟨b, hb⟩, _⟩
      · obtain ⟨rfl, rfl⟩ := Prod.mk.inj
          (Except.ok.inj (hok'.symm.trans ((hsource heq).symm.trans hok)))
        rw [hleft, hthere]
      · rw [hsource heq, hb] at hok
        cases hok
  · have hleft := h.left a (hcwd ▸ ha) fun text hok hrest =>
      hnot text (hstill ▸ hok) (hmet.mpr (Or.inr hrest))
    rw [hleft]
    rcases hfirst with ⟨a', text', hok', hthere, hothers⟩ | ⟨_, hsame⟩
    · by_cases hparts : a'.parts = a.parts
      · -- the declaration of the path would be that of the place, which is not met
        have ha' := (Writer.compose_ok hok').1
        have hp' := Path.isAbsolute_ofText_text hp.isAbsolute
        have heq : Path.placeOf world.cwd q.text = p := by
          rw [Writer.artifact_injective hw hc hs hp' ha' ha hparts, Path.placeOf_text hp]
        have haa : a' = a := by
          have hrel := Writer.relativeSource_of_artifact hw hc hs hp' ha' ha hparts
          rw [Writer.artifact, hrel] at ha'
          exact Except.ok.inj (ha'.symm.trans ha)
        exact absurd (hmet.mpr (Or.inl heq))
          (hnot text' ((hsource heq).trans (haa ▸ hok')))
      · exact hothers _ (Ne.symm hparts)
    · exact hsame _

/-- **The pass over the query files**, if none of them is counted as a failure. -/
theorem pass_effect (hw : w.Placed) {qs : List Path} (habs : ∀ q ∈ qs, q.isAbsolute = true)
    {n : Counts} (hc : world.cwd.IsStart) (hr : Rooted world.tree w.outDir.parts)
    {s : Counts × World}
    (hs : (qs.map Event.add).foldl (Watcher.handOver w.sink.handler) (n, world) = s) :
    s.2.cwd = world.cwd ∧ w.Kept world.tree s.2.tree ∧ n.failed ≤ s.1.failed
      ∧ (s.1.failed = n.failed → ∀ p : Path, p.IsPlace → ¬ Below w.outDir.parts p.parts →
        PassEffect w world qs s.2.tree p) := by
  induction qs generalizing n world with
  | nil =>
      subst hs
      refine ⟨rfl, Writer.Kept.refl hr, Nat.le_refl _, fun _ p _ _ => ⟨?_, ?_, fun _ _ _ => rfl⟩⟩
      · rintro ⟨q, hq, _⟩
        cases hq
      · rintro _ _ _ ⟨q, hq, _⟩
        cases hq
  | cons q rest ih =>
      have hq := habs q List.mem_cons_self
      obtain ⟨world', hover, htree, hcwd⟩ := handOver_eq w n world (Event.add q)
      obtain ⟨hcwd', hkept, _⟩ := dispatch_effect hw hr n (Event.add q)
      obtain ⟨hle, hfirst⟩ := dispatch_add_effect hw hr n
      rw [← htree] at hkept hfirst
      rw [← hcwd] at hcwd'
      rw [List.map_cons, List.foldl_cons, hover] at hs
      obtain ⟨hcwd₂, hkept₂, hle₂, hrest⟩ := ih (fun q' hq' => habs q' (List.mem_cons_of_mem _ hq'))
        (hcwd' ▸ hc) hkept.rooted hs
      refine ⟨hcwd₂.trans hcwd', hkept.trans hkept₂, hle.trans hle₂, fun hsame p hp hnot => ?_⟩
      have hstill := hkept.compose hw hc hcwd' hp hnot
      exact (hrest (by omega) p hp hnot).cons hw hc hq hcwd' hp hstill (hfirst (by omega))

/-! ## The run -/

/-- The world once a watcher has reported that it is started. -/
def announced (c : Config) (world : World) : World :=
  world.say .info ("Watcher started for " ++ (c.resolvedSearch world.cwd).text)

/-- The world once a watcher has reported how many query files it has found. -/
def counted (c : Config) (world : World) (paths : List Path) : World :=
  world.say .info ("Found " ++ toString paths.length ++ " query file(s) in "
    ++ (c.resolvedSearch world.cwd).text)

/-- A watcher that settles tells of the files that are there, and that these are all. -/
theorem settle_fresh {σ : Type} (h : Watcher.Handler σ) (s : σ) (hscan : scan world c = .ok paths) :
    ({ Watcher.fresh c quietFeed with task := .waiting }).settle h s world
      = ({ Watcher.fresh c quietFeed with state := .ready, isReady := true, task := .listening },
        (paths.map Event.add ++ [Event.ready]).foldl (Watcher.handOver h)
          (s, counted c world paths)) := by
  simp only [Watcher.settle, Watcher.run, Watcher.handOverAll, Watcher.advance,
    Watcher.subscribe, Watcher.firstPass, hscan, Watcher.nextBatch, quietFeed, Watcher.emit,
    Watcher.fresh, List.foldl_nil, List.length_nil]
  rfl

/-- A build that has begun and has nothing to tell yet. -/
def begun (c : Config) (w : Writer) : Plugin Watcher :=
  ⟨c, some ⟨w, .zero⟩, some { Watcher.fresh c quietFeed with task := .waiting }⟩

/-- A build begins with a watcher that has nothing to tell yet. -/
theorem buildStart_fresh (hprepare : Plugin.prepare c world = (.ok w, started))
    (hsearch : started.isDirectory (c.resolvedSearch started.cwd) = .ok true) :
    (Plugin.fresh c).buildStart watching world
      = (.ok (), begun c w, announced c started) := by
  have hclose : (Plugin.fresh c).closeWatcher watching world = (Plugin.fresh c, world) := rfl
  have hstart : (Watcher.fresh c quietFeed).start started
      = .ok ({ Watcher.fresh c quietFeed with task := .waiting }, announced c started) := by
    simp only [Watcher.start, Watcher.fresh, hsearch]
    rfl
  have hconfig : (Plugin.fresh (W := Watcher) c).config = c := rfl
  simp only [Plugin.buildStart, hclose, hconfig, Plugin.prepare_world, hprepare]
  simp only [watching, Watcher.watching, Plugin.launch, hstart]
  rfl

/-- Code zero tells that no failure was counted. -/
theorem failed_of_printed {failed : Nat} {lines : List String} {out : String}
    (h : printed (if failed = 0 then 0 else 1) lines = .exit 0 out) : failed = 0 := by
  rw [printed] at h
  split at h
  · have hcode := (Ending.exit.inj h).1
    by_contra hfailed
    rw [if_neg hfailed] at hcode
    cases hcode
  · cases h

theorem handOver_ready (w : Writer) (s : Counts × World) :
    Watcher.handOver w.sink.handler s Event.ready
      = (s.1, (Dispatch.onReady Event.ready s.1 s.2).world) := rfl

/-- What has come of the query files that are there, handled one by one. -/
def passed (c : Config) (w : Writer) (world : World) (paths : List Path) : Counts × World :=
  (paths.map Event.add).foldl (Watcher.handOver w.sink.handler)
    (.zero, counted c world paths)

/-- A build whose watcher has told of the query files that are there. -/
def settled (c : Config) (w : Writer) (n : Counts) : Plugin Watcher :=
  ⟨c, some ⟨w, n⟩,
    some { Watcher.fresh c quietFeed with state := .ready, isReady := true, task := .listening }⟩

theorem await_begun (hscan : scan world c = .ok paths) :
    (begun c w).await watching world
      = (settled c w (passed c w world paths).1,
        (Dispatch.onReady Event.ready (passed c w world paths).1
          (passed c w world paths).2).world) := by
  simp only [begun, Plugin.await, watching, Watcher.watching, settle_fresh _ _ hscan,
    List.foldl_append, List.foldl_cons, List.foldl_nil, handOver_ready]
  rfl

theorem closeWatcher_settled (n : Counts) :
    ((settled c w n).closeWatcher watching world).1.activity = some ⟨w, n⟩
      ∧ ((settled c w n).closeWatcher watching world).2.tree = world.tree
      ∧ ((settled c w n).closeWatcher watching world).2.cwd = world.cwd :=
  ⟨rfl, rfl, rfl⟩

theorem buildEnd_begun (hscan : scan world c = .ok paths) {p : Plugin Watcher} {after : World}
    (h : (begun c w).buildEnd watching world = (.ok (), p, after)) :
    p.activity = some ⟨w, (passed c w world paths).1⟩
      ∧ after.tree = (passed c w world paths).2.tree
      ∧ after.cwd = (passed c w world paths).2.cwd := by
  have hstate : (begun c w).watcher.map watching.state = some .idle := rfl
  have hconfig : (begun c w).config = c := rfl
  have hready : ∀ n, ((settled c w n).watcher.map watching.isReady).getD false = true :=
    fun _ => rfl
  simp only [Plugin.buildEnd, Plugin.awaitFirstPass, hstate, hconfig] at h
  by_cases hm : isMeasurable c.startupTimeoutMs = true
  · simp only [hm, if_true, await_begun hscan, hready] at h
    split at h
    · obtain ⟨_, hclosed⟩ := Prod.mk.inj h
      obtain ⟨rfl, rfl⟩ := Prod.mk.inj hclosed
      exact closeWatcher_settled _
    · obtain ⟨_, hclosed⟩ := Prod.mk.inj h
      obtain ⟨rfl, rfl⟩ := Prod.mk.inj hclosed
      exact closeWatcher_settled _
    · cases (Prod.mk.inj h).1
  · -- a wait that cannot be measured goes up
    have hlate : ∀ complete, awaitFirstPass complete c.startupTimeoutMs = .error .immeasurable :=
      fun complete => by simp [awaitFirstPass, hm]
    simp only [hm, hlate] at h
    cases (Prod.mk.inj h).1

/-- What is reported makes no difference to a scan. -/
theorem scan_announced : scan (announced c world) c = scan world c := by
  have hcwd : (announced c world).cwd = world.cwd := rfl
  have htree : (announced c world).tree = world.tree := rfl
  have hdirectory : ∀ p, (announced c world).isDirectory p = world.isDirectory p := fun p => by
    simp only [World.isDirectory, World.lookUp, World.names, hcwd, htree]
  have hfiles : filesOf (announced c world) = filesOf world := by
    funext d pattern
    simp only [filesOf, htree, hdirectory]
  rw [scan, scan, hcwd, hfiles]

/-- **A run that ends with code zero is one pass** over the query files that the scan finds, and none
    of them is counted as a failure. -/
theorem generate_passed (hprepare : Plugin.prepare c world = (.ok w, started))
    (hsearch : started.isDirectory (c.resolvedSearch started.cwd) = .ok true)
    (hscan : scan started c = .ok paths) {out : String}
    (h : generate c world = (.exit 0 out, after)) :
    ∃ found s, (paths.map Event.add).foldl (Watcher.handOver w.sink.handler) (.zero, found) = s
      ∧ found.tree = started.tree ∧ found.cwd = started.cwd
      ∧ s.1.failed = 0 ∧ after.tree = s.2.tree ∧ after.cwd = s.2.cwd := by
  simp only [generate, Plugin.session, buildStart_fresh hprepare hsearch] at h
  rcases hend : (begun c w).buildEnd watching (announced c started) with ⟨result, p, last⟩
  rw [hend] at h
  cases result with
  | error b => cases (Prod.mk.inj h).1
  | ok u =>
      obtain ⟨hactivity, htree, hcwd⟩ := buildEnd_begun (scan_announced.trans hscan) hend
      simp only [hactivity] at h
      obtain ⟨hprinted, rfl⟩ := Prod.mk.inj h
      exact ⟨counted c (announced c started) paths, passed c w (announced c started) paths,
        rfl, rfl, rfl, failed_of_printed hprinted, htree, hcwd⟩

/-! ## Ended well -/

/-- A regular file under the search directory that the filter for reported files accepts. -/
structure QueryFile (c : Config) (world : World) (p : Path) : Prop where
  place : p.IsPlace
  regular : (world.tree.octets? p.parts).isSome
  inside : (c.resolvedSearch world.cwd).contains p = true
  accepted : c.reports? world.cwd p.text = some true

/-- **What code zero says.**  After a run that ends with it, a query file has its declaration if and
    only if the scan has found it and its declaration does not break down; a query file without its
    declaration has nothing in the place of it. -/
theorem generate_complete_iff (hc : world.cwd.IsStart) (hconfig : c.IsWritten)
    (hsearch : world.isDirectory (c.resolvedSearch world.cwd) = .ok true)
    (hprepare : Plugin.prepare c world = (.ok w, started)) (hscan : scan started c = .ok paths)
    {out : String} (h : generate c world = (.exit 0 out, after)) {p : Path}
    (hp : QueryFile c started p) :
    (w.Declared after p.text ↔ Met started.cwd paths p ∧ ¬ w.Breaks after p.text)
      ∧ (¬ w.Declared after p.text → ∀ a, w.artifact after.cwd p.text = .ok a →
        after.tree.octets? a.parts = none) := by
  obtain ⟨hcwd, hbegun⟩ := Plugin.prepare_ok hc hconfig hprepare
  have hc' : started.cwd.IsStart := hcwd ▸ hc
  have hstart := Plugin.prepare_search hc hconfig hprepare hsearch
  obtain ⟨found, s, hs, hfound, hfoundCwd, hfailed, htree, hcwd'⟩ :=
    generate_passed hprepare hstart hscan h
  rw [← hfoundCwd] at hc'
  have hrooted : Rooted found.tree w.outDir.parts := hfound ▸ hbegun.rooted
  have hempty : found.tree.Empty w.outDir.parts := hfound ▸ hbegun.empty
  obtain ⟨hcwd₂, hkept, _, heffect⟩ :=
    pass_effect hbegun.placed (scan_isAbsolute hscan) hc' hrooted hs
  have hafter : after.cwd = found.cwd := hcwd'.trans hcwd₂
  rw [← htree] at hkept
  have hnot : ¬ Below w.outDir.parts p.parts := fun hbelow => by
    have hregular := hp.regular
    rw [hbegun.empty.octets? hbelow] at hregular
    cases hregular
  have hpass : PassEffect w found paths after.tree p := by
    rw [htree]
    exact heffect hfailed p hp.place hnot
  have hstill := hkept.compose hbegun.placed hc' hafter hp.place hnot
  have hnothing : ∀ a, w.artifact found.cwd p.text = .ok a → found.tree.octets? a.parts = none :=
    fun a ha => hempty.octets? (Writer.artifact_below hbegun.placed ha).1
  rw [← hfoundCwd, hafter]
  refine ⟨⟨?_, ?_⟩, fun hmissing a ha => ?_⟩
  · rintro ⟨a, text, hok, hthere⟩
    have ha := (Writer.compose_ok (hstill ▸ hok)).1
    constructor
    · by_contra hmet
      rw [hpass.left a ha fun _ _ => hmet, hnothing a ha] at hthere
      cases hthere
    · rintro ⟨b, hb⟩
      rw [hok] at hb
      cases hb
  · rintro ⟨hmet, hbreaks⟩
    rcases hpass.told hmet with ⟨⟨a, text⟩, hok⟩ | ⟨b, hb⟩
    · exact ⟨a, text, hstill.trans hok, hpass.written a text hok hmet⟩
    · exact absurd ⟨b, hstill.trans hb⟩ hbreaks
  · rw [hpass.left a ha fun text hok hmet =>
      hmissing ⟨a, text, hstill.trans hok, hpass.written a text hok hmet⟩, hnothing a ha]

/-- The code with which a run ends, if it ends with one. -/
def exitCode? : CommandLine.Ending → Option Nat
  | .exit code _ => some code
  | .escape _ => none

/-- What is to be written breaks down. -/
def isBroken {α : Type} : Except Failure α → Bool
  | .error (.broken _) => true
  | _ => false

theorem exists_of_isBroken {α : Type} {x : Except Failure α} (h : isBroken x = true) :
    ∃ b, x = .error (.broken b) := by
  unfold isBroken at h
  split at h
  · exact ⟨_, rfl⟩
  · cases h

/-- A small project whose query asks for the types of the schema, which the check lets pass. -/
def askingWorld : World := smallWorld "query Q{__schema{types{name}}}"

/-- What the project comes to, as far as it is asked for below. -/
theorem asking_facts :
    exitCode? (generate smallConfig askingWorld).1 = some 0
      ∧ ((Plugin.prepare smallConfig askingWorld).1.toOption.map fun w =>
        isBroken (w.compose (generate smallConfig askingWorld).2 smallFile.text)) = some true
      ∧ scan (Plugin.prepare smallConfig askingWorld).2 smallConfig = .ok [smallFile]
      ∧ ((Plugin.prepare smallConfig askingWorld).2.tree.octets? smallFile.parts).isSome = true := by
  decide +kernel

/-- The run of this project ends with code zero, and its query file has no declaration. -/
theorem generate_complete_iff_asking :
    ∃ w started out after, Plugin.prepare smallConfig askingWorld = (.ok w, started)
      ∧ generate smallConfig askingWorld = (.exit 0 out, after)
      ∧ QueryFile smallConfig started smallFile ∧ ¬ w.Declared after smallFile.text
      ∧ ∀ a, w.artifact after.cwd smallFile.text = .ok a → after.tree.octets? a.parts = none := by
  obtain ⟨hexit, hbroken, hscan, hregular⟩ := asking_facts
  have hcwd : askingWorld.cwd.IsStart := isStart_smallWorld _
  rcases hprepare : Plugin.prepare smallConfig askingWorld with ⟨result, started⟩
  rcases hgenerate : generate smallConfig askingWorld with ⟨ending, after⟩
  rw [hprepare, hgenerate] at hbroken
  rw [hprepare] at hscan hregular
  rw [hgenerate] at hexit
  cases result with
  | error f => cases hbroken
  | ok w =>
      cases ending with
      | escape e => cases hexit
      | exit code out =>
          obtain rfl := Option.some.inj hexit
          have hstart := (Plugin.prepare_ok hcwd isWritten_smallConfig hprepare).1
          have hfile : QueryFile smallConfig started smallFile := by
            refine ⟨isPlace_smallFile, hregular, ?_, ?_⟩
            · rw [hstart]
              decide +kernel
            · rw [hstart]
              decide +kernel
          have hiff := generate_complete_iff hcwd isWritten_smallConfig (by decide +kernel) hprepare hscan
            hgenerate hfile
          have hbreaks : w.Breaks after smallFile.text :=
            exists_of_isBroken (Option.some.inj hbroken)
          have hmissing : ¬ w.Declared after smallFile.text := fun hdeclared =>
            (hiff.1.mp hdeclared).2 hbreaks
          exact ⟨w, started, out, after, rfl, rfl, hfile, hmissing, hiff.2 hmissing⟩

end QueryTypings
