/-
  What a run of a watcher leaves of the declaration of a query file.

  1. **Runs** — files are edited, the task of the watcher goes on, and events are handed over one by
     one, in any order (`Run`).  Edits do not touch declarations, and the reports of the feed have
     absolute paths.

  2. **Invariant** — the output directory stays sound, and what is emitted keeps to absolute paths
     (`Stage.Sound`).

  3. **One event** — an event about a file settles its declaration, and no other event touches it
     (`deliver_octets`).

  4. **The last event decides** — once all events are handled, the declaration of a file that is as
     it was since some moment is settled by the last event about it since then
     (`settled_by_last_event`).  So a declaration is as it should be if and only if that event says of
     the file what is true of it; a batch that tells of one file twice, in an order that means
     nothing, may end with the wrong one.
-/
import QueryTypings.Proofs.Project.Handling
import QueryTypings.Proofs.Watch.Scanned

namespace QueryTypings

open QueryTypings.Text QueryTypings.FileTree QueryTypings.Watch

/-! ## Runs -/

/-- A watcher, what handling its events has come to, and the world. -/
structure Stage where
  watcher : Watcher
  counts : Counts
  world : World

/-- An event that was handled, and what came of it. -/
structure Delivery where
  event : Event
  outcome : Except Breakdown Outcome

namespace Stage

/-- Files are edited. -/
def edit (s : Stage) (t : FileTree) : Stage := { s with world := { s.world with tree := t } }

/-- The task of the watcher goes on. -/
def advance (s : Stage) : Stage :=
  ⟨(s.watcher.advance s.world).1, s.counts, (s.watcher.advance s.world).2⟩

/-- The events that the watcher emits when its task goes on. -/
def emitted (s : Stage) : List Event := s.advance.watcher.pending.drop s.watcher.pending.length

/-- The first event is handed over, the others wait. -/
def deliver (w : Writer) (s : Stage) (e : Event) (rest : List Event) : Stage :=
  let r := Watcher.handOver w.sink.handler (s.counts, s.world) e
  ⟨{ s.watcher with pending := rest }, r.1, r.2⟩

/-- What comes of an event that is handed over now. -/
def outcome (w : Writer) (s : Stage) (e : Event) : Except Breakdown Outcome :=
  (dispatch w.sink e s.counts s.world).outcome

end Stage

/-- An edit leaves the declarations as they are.  The output directory is there afterwards, and what
    lies below it lies in directories. -/
structure Spares (w : Writer) (cwd : Path) (t t' : FileTree) : Prop where
  rooted : Rooted t' w.outDir.parts
  declarations : ∀ source a, w.artifact cwd source = .ok a → t'.octets? a.parts = t.octets? a.parts

/-- A run from one stage to another, the worlds of which have a property; with the events that are
    emitted and those that are handled. -/
inductive Run (w : Writer) (P : World → Prop) : Stage → List Event → List Delivery → Stage → Prop
  | done {s : Stage} (holds : P s.world) : Run w P s [] [] s
  | edit {s s' : Stage} {t : FileTree} {es : List Event} {ds : List Delivery} (holds : P s.world)
      (spares : Spares w s.world.cwd s.world.tree t) (rest : Run w P (s.edit t) es ds s') :
      Run w P s es ds s'
  | advance {s s' : Stage} {es : List Event} {ds : List Delivery} (holds : P s.world)
      (rest : Run w P s.advance es ds s') : Run w P s (s.emitted ++ es) ds s'
  | deliver {s s' : Stage} {e : Event} {waiting es : List Event} {ds : List Delivery}
      (holds : P s.world) (next : s.watcher.pending = e :: waiting)
      (rest : Run w P (s.deliver w e waiting) es ds s') :
      Run w P s es (⟨e, s.outcome w e⟩ :: ds) s'

variable {w : Writer} {P : World → Prop} {s s' : Stage} {es : List Event} {ds : List Delivery}
  {cwd p a : Path}

/-! ## Invariant -/

/-- An event is about no path or about an absolute one. -/
def Event.IsAbsolute (e : Event) : Prop := ∀ p, e.path = some p → p.isAbsolute = true

/-- What a watcher has emitted, and what its feed will report, is about absolute paths. -/
structure Watch.Watcher.IsAbsolute (v : Watcher) : Prop where
  pending : ∀ e ∈ v.pending, e.IsAbsolute
  feed : ∀ batch ∈ v.feed.batches, ∀ r ∈ batch, (Path.ofText r.path).isAbsolute = true

theorem Watch.Watcher.IsAbsolute.emit {v : Watcher} (h : v.IsAbsolute)
    (he : ∀ e ∈ es, e.IsAbsolute) : (v.emit es).IsAbsolute := by
  refine ⟨fun e hmem => ?_, h.feed⟩
  rcases List.mem_append.mp hmem with hmem | hmem
  · exact h.pending e hmem
  · exact he e hmem

theorem failure_isAbsolute (f : WatchFault) : (Event.failure f).IsAbsolute :=
  fun p hp => (by cases hp)

/-- What a step of the task may do: it emits events about absolute paths, and changes no file. -/
structure Watch.Goes (v : Watcher) (world : World) (r : Watcher × World) : Prop where
  isAbsolute : r.1.IsAbsolute
  emits : ∃ es, r.1.pending = v.pending ++ es
  tree : r.2.tree = world.tree
  cwd : r.2.cwd = world.cwd

theorem Watch.goes_fail {v : Watcher} (h : v.IsAbsolute) (f : WatchFault) (world : World) :
    Goes v world (v.fail f world) := by
  refine ⟨Watcher.IsAbsolute.emit ⟨h.pending, h.feed⟩ fun e he => ?_, ⟨_, rfl⟩, rfl, rfl⟩
  rw [List.mem_singleton.mp he]
  exact failure_isAbsolute f

theorem Watch.goes_firstPass {v : Watcher} (h : v.IsAbsolute) (world : World) :
    Goes v world (v.firstPass world) := by
  unfold Watcher.firstPass
  split
  · exact goes_fail h _ world
  · rename_i paths hscan
    refine ⟨Watcher.IsAbsolute.emit ⟨h.pending, h.feed⟩ fun e he => ?_, ⟨_, rfl⟩, rfl, rfl⟩
    rcases List.mem_append.mp he with he | he
    · obtain ⟨q, hq, rfl⟩ := List.mem_map.mp he
      intro p hp
      obtain rfl := Option.some.inj hp
      exact scan_isAbsolute hscan q hq
    · rw [List.mem_singleton.mp he]
      intro p hp
      cases hp

theorem Watch.goes_nextBatch {v : Watcher} (h : v.IsAbsolute) (world : World) :
    Goes v world (v.nextBatch world) := by
  unfold Watcher.nextBatch
  split
  · rename_i batch rest hbatches
    have hrest : ({ v with feed := { v.feed with batches := rest } } : Watcher).IsAbsolute :=
      ⟨h.pending, fun b hb => h.feed b (hbatches ▸ List.mem_cons_of_mem _ hb)⟩
    simp only
    split
    · have hfail := goes_fail hrest .nulInPath world
      exact ⟨hfail.isAbsolute, hfail.emits, hfail.tree, hfail.cwd⟩
    · rename_i reports hreports
      refine ⟨hrest.emit fun e he => ?_, ⟨_, rfl⟩, rfl, rfl⟩
      obtain ⟨r, hr, rfl⟩ := List.mem_map.mp he
      intro p hp
      obtain rfl := Option.some.inj hp
      exact h.feed batch (hbatches ▸ List.mem_cons_self) r (mem_of_relevant? hreports hr)
  · exact ⟨⟨h.pending, h.feed⟩, ⟨[], (List.append_nil _).symm⟩, rfl, rfl⟩
  · exact goes_fail h _ world
  · exact ⟨h, ⟨[], (List.append_nil _).symm⟩, rfl, rfl⟩

/-- **A step of the task** emits events about absolute paths, and changes no file. -/
theorem Watch.goes_advance {v : Watcher} (h : v.IsAbsolute) (world : World) :
    Goes v world (v.advance world) := by
  unfold Watcher.advance
  split
  · exact ⟨⟨h.pending, h.feed⟩, ⟨[], (List.append_nil _).symm⟩, rfl, rfl⟩
  · exact goes_firstPass h world
  · exact goes_nextBatch h world
  · exact ⟨h, ⟨[], (List.append_nil _).symm⟩, rfl, rfl⟩

/-- **The invariant of a run**: where paths are taken from stays, the output directory is sound, and
    the watcher keeps to absolute paths. -/
structure Stage.Sound (w : Writer) (cwd : Path) (s : Stage) : Prop where
  cwd : s.world.cwd = cwd
  rooted : Rooted s.world.tree w.outDir.parts
  watcher : s.watcher.IsAbsolute

theorem Stage.Sound.edit (h : s.Sound w cwd) {t : FileTree}
    (hspares : Spares w s.world.cwd s.world.tree t) : (s.edit t).Sound w cwd :=
  ⟨h.cwd, hspares.rooted, h.watcher⟩

theorem Stage.Sound.advance (h : s.Sound w cwd) : s.advance.Sound w cwd := by
  have hgoes := goes_advance h.watcher s.world
  refine ⟨hgoes.cwd.trans h.cwd, ?_, hgoes.isAbsolute⟩
  show Rooted (s.watcher.advance s.world).2.tree w.outDir.parts
  rw [hgoes.tree]
  exact h.rooted

theorem Stage.advance_pending (h : s.Sound w cwd) :
    s.advance.watcher.pending = s.watcher.pending ++ s.emitted := by
  obtain ⟨es, hes⟩ := (goes_advance h.watcher s.world).emits
  have hpending : s.advance.watcher.pending = s.watcher.pending ++ es := hes
  rw [emitted, hpending, List.drop_left]

/-- The tree and the working directory after an event are those that the dispatcher leaves. -/
theorem Stage.deliver_world (w : Writer) (s : Stage) (e : Event) (waiting : List Event) :
    (s.deliver w e waiting).world.tree = (dispatch w.sink e s.counts s.world).world.tree
      ∧ (s.deliver w e waiting).world.cwd = (dispatch w.sink e s.counts s.world).world.cwd := by
  obtain ⟨world', hover, htree, hcwd⟩ := handOver_eq w s.counts s.world e
  rw [deliver, hover]
  exact ⟨htree, hcwd⟩

theorem Stage.Sound.deliver (hw : w.Placed) (h : s.Sound w cwd) {e : Event} {waiting : List Event}
    (hnext : s.watcher.pending = e :: waiting) : (s.deliver w e waiting).Sound w cwd := by
  obtain ⟨hcwd, hkept, _⟩ := dispatch_effect hw h.rooted s.counts e
  obtain ⟨htree', hcwd'⟩ := deliver_world w s e waiting
  refine ⟨hcwd'.trans (hcwd.trans h.cwd), ?_, fun e' he' => ?_, h.watcher.feed⟩
  · rw [htree']
    exact hkept.rooted
  · exact h.watcher.pending e' (hnext ▸ List.mem_cons_of_mem _ he')

theorem Run.sound (hw : w.Placed) (h : Run w P s es ds s') (hs : s.Sound w cwd) :
    s'.Sound w cwd := by
  induction h with
  | done _ => exact hs
  | edit _ spares _ ih => exact ih (hs.edit spares)
  | advance _ _ ih => exact ih hs.advance
  | deliver _ next _ ih => exact ih (hs.deliver hw next)

/-- **Events are handled in the order in which they are emitted**, and none is lost. -/
theorem Run.events_eq (hw : w.Placed) (h : Run w P s es ds s') (hs : s.Sound w cwd) :
    s.watcher.pending ++ es = ds.map Delivery.event ++ s'.watcher.pending := by
  induction h with
  | done _ => rw [List.append_nil, List.map_nil, List.nil_append]
  | edit _ spares _ ih => exact ih (hs.edit spares)
  | advance _ _ ih =>
      rw [← ih hs.advance, Stage.advance_pending hs, List.append_assoc]
  | deliver _ next _ ih =>
      rw [List.map_cons, List.cons_append, ← ih (hs.deliver hw next), next]
      rfl

/-! ## One event -/

/-- The octets of the file that a path leads to, if they can be read. -/
def World.content? (world : World) (p : Path) : Option (List Nat) := (world.read p).toOption

theorem World.content?_eq_some {world : World} {octets : List Nat} :
    world.content? p = some octets ↔ world.read p = .ok octets := by
  rw [content?]
  cases world.read p with
  | error r => exact ⟨fun h => (by cases h), fun h => (by cases h)⟩
  | ok o =>
      exact ⟨fun h => congrArg Except.ok (Option.some.inj h),
        fun h => congrArg some (Except.ok.inj h)⟩

/-- A file for which there is something to be written can be read. -/
theorem content?_of_compose (hw : w.Placed) {world : World} (hc : world.cwd.IsStart)
    (hp : p.IsPlace) {x : Path × String} (h : w.compose world p.text = .ok x) :
    ∃ octets, world.content? p = some octets := by
  obtain ⟨a, text⟩ := x
  obtain ⟨_, r, octets, hr, hread⟩ := Writer.compose_ok h
  rw [Writer.base_join hw hc hp hr] at hread
  exact ⟨octets, World.content?_eq_some.mpr hread⟩

/-- What is to be written stays as long as the file does. -/
theorem compose_of_content? (hw : w.Placed) {world world' : World} (hc : world.cwd.IsStart)
    (hcwd : world'.cwd = world.cwd) (hp : p.IsPlace)
    (hsame : world'.content? p = world.content? p) {x : Path × String}
    (h : w.compose world p.text = .ok x) : w.compose world' p.text = .ok x := by
  obtain ⟨octets, hcontent⟩ := content?_of_compose hw hc hp h
  rw [← h]
  refine Writer.compose_congr hcwd fun r hr => ?_
  rw [Writer.base_join hw hc hp hr, World.content?_eq_some.mp hcontent,
    World.content?_eq_some.mp (hsame.trans hcontent)]

/-- The event is about the query file at a place. -/
def Event.isAbout (cwd p : Path) (e : Event) : Bool :=
  match e.kind, e.path with
  | .ready, _ => false
  | .error, _ => false
  | _, none => false
  | _, some q => decide (Path.placeOf cwd q.text = p)

theorem Event.isAbout_eq {e : Event} {q : Path} (hkind : e.kind ≠ .ready ∧ e.kind ≠ .error)
    (hq : e.path = some q) : e.isAbout cwd p = decide (Path.placeOf cwd q.text = p) := by
  obtain ⟨kind, path, fault⟩ := e
  subst hq
  cases kind with
  | ready => exact absurd rfl hkind.1
  | error => exact absurd rfl hkind.2
  | add => rfl
  | change => rfl
  | unlink => rfl

/-- Nothing went wrong. -/
def Delivery.isGood (d : Delivery) : Bool :=
  match d.outcome with
  | .ok o => o.isGood
  | .error _ => false

/-- The event settled what becomes of the declaration of a query file. -/
def Delivery.settles (cwd p : Path) (d : Delivery) : Bool := d.event.isAbout cwd p && d.isGood

/-- **What one event does to one declaration**: it leaves it, or it settles it, by removing it or by
    writing what the file says at that time. -/
theorem deliver_octets (hw : w.Placed) (hc : cwd.IsStart) (h : s.Sound w cwd) {e : Event}
    {waiting : List Event} (hnext : s.watcher.pending = e :: waiting) (hp : p.IsPlace)
    (ha : w.artifact cwd p.text = .ok a) :
    let settled := Delivery.settles cwd p ⟨e, s.outcome w e⟩
    let octets := (s.deliver w e waiting).world.tree.octets? a.parts
    (settled = false ∧ octets = s.world.tree.octets? a.parts)
      ∨ (settled = true ∧ e.kind = .unlink ∧ octets = none)
      ∨ (settled = true ∧ e.kind ≠ .unlink ∧ ∃ text, w.compose s.world p.text = .ok (a, text)
        ∧ octets = some (encodeUtf8 text.toList)) := by
  have he := h.watcher.pending e (hnext ▸ List.mem_cons_self)
  have hc' : s.world.cwd.IsStart := h.cwd.symm ▸ hc
  have heffect := (dispatch_effect hw h.rooted s.counts e).2.2
  have hp' := Path.isAbsolute_ofText_text hp.isAbsolute
  simp only [(Stage.deliver_world w s e waiting).1]
  rw [← h.cwd] at ha ⊢
  simp only [Delivery.settles, Delivery.isGood, Stage.outcome]
  generalize dispatch w.sink e s.counts s.world = d at heffect
  generalize d.outcome = outcome at heffect
  cases heffect with
  | @written q a' text o _ kind path good composed there others =>
      have hs := Path.isAbsolute_ofText_text (he q path)
      have hkind : (e.kind ≠ .ready ∧ e.kind ≠ .error) ∧ e.kind ≠ .unlink := by
        rcases kind with hk | hk <;> rw [hk] <;> decide
      rw [Event.isAbout_eq hkind.1 path]
      by_cases heq : Path.placeOf s.world.cwd q.text = p
      · have hsame : w.compose s.world p.text = .ok (a', text) := by
          rw [← heq, ← composed]
          refine Writer.compose_placeOf hw hc' hs fun f hf => ?_
          rw [composed] at hf
          cases hf
        obtain rfl := Except.ok.inj ((Writer.compose_ok hsame).1.symm.trans ha)
        exact Or.inr (Or.inr ⟨by rw [decide_eq_true heq]; exact good, hkind.2, text, hsame, there⟩)
      · refine Or.inl ⟨by rw [decide_eq_false heq]; rfl, others _ fun hparts => heq ?_⟩
        rw [Writer.artifact_injective hw hc' hs hp' (Writer.compose_ok composed).1 ha hparts.symm,
          Path.placeOf_text hp]
  | @gone q a' o _ kind path good place missing others =>
      have hs := Path.isAbsolute_ofText_text (he q path)
      rw [Event.isAbout_eq (by rw [kind]; decide) path]
      by_cases heq : Path.placeOf s.world.cwd q.text = p
      · have hsame := Writer.artifact_placeOf hw hc' hs place
        rw [heq, ha] at hsame
        obtain rfl := Except.ok.inj hsame
        exact Or.inr (Or.inl ⟨by rw [decide_eq_true heq]; exact good, kind, missing⟩)
      · refine Or.inl ⟨by rw [decide_eq_false heq]; rfl, others _ fun hparts => heq ?_⟩
        rw [Writer.artifact_injective hw hc' hs hp' place ha hparts.symm, Path.placeOf_text hp]
  | nothing same bad =>
      refine Or.inl ⟨?_, same _⟩
      rcases bad with hready | herror | hbad
      · simp only [Event.isAbout, hready, Bool.false_and]
      · simp only [Event.isAbout, herror, Bool.false_and]
      · cases outcome with
        | ok o =>
            show (e.isAbout s.world.cwd p && o.isGood) = false
            rw [hbad o rfl, Bool.and_false]
        | error b => exact Bool.and_false _

/-! ## The last event decides -/

/-- The kind of the last event that settled what becomes of the declaration of a query file. -/
def lastKind? (cwd p : Path) (ds : List Delivery) : Option EventKind :=
  ((ds.filter (Delivery.settles cwd p)).getLast?).map fun d => d.event.kind

theorem lastKind?_cons (d : Delivery) (ds : List Delivery) :
    lastKind? cwd p (d :: ds)
      = (lastKind? cwd p ds).or (if d.settles cwd p then some d.event.kind else none) := by
  rw [lastKind?, lastKind?, List.filter_cons]
  split
  · rw [List.getLast?_cons]
    cases (ds.filter (Delivery.settles cwd p)).getLast? with
    | none => rfl
    | some d' => rfl
  · rw [Option.or_none]

/-- What a declaration holds after the last event of a kind, or before the first one. -/
def leftBy (written before : Option (List Nat)) : Option EventKind → Option (List Nat)
  | none => before
  | some .unlink => none
  | some _ => written

theorem leftBy_of_ne {written before : Option (List Nat)} {k : EventKind} (h : k ≠ .unlink) :
    leftBy written before (some k) = written := by
  cases k with
  | unlink => exact absurd rfl h
  | add => rfl
  | change => rfl
  | ready => rfl
  | error => rfl

/-- Before the first event only what was there counts. -/
theorem leftBy_or (written before : Option (List Nat)) (k k' : Option EventKind) :
    leftBy written before (k.or k') = leftBy written (leftBy written before k') k := by
  cases k with
  | none => rfl
  | some k => cases k <;> rfl

/-- **A run leaves what the last event left**, if all it writes while the file is as it is, is one
    text. -/
theorem Run.octets_eq {content : Option (List Nat)} {text : String} (hw : w.Placed)
    (hc : cwd.IsStart) (h : Run w (fun world => world.content? p = content) s es ds s')
    (hs : s.Sound w cwd) (hp : p.IsPlace) (ha : w.artifact cwd p.text = .ok a)
    (htext : ∀ world : World, world.cwd = cwd → world.content? p = content →
      ∀ x, w.compose world p.text = .ok x → x = (a, text)) :
    s'.world.tree.octets? a.parts
      = leftBy (some (encodeUtf8 text.toList)) (s.world.tree.octets? a.parts)
          (lastKind? cwd p ds) := by
  induction h with
  | done _ => rfl
  | @edit s s' t es ds _ spares _ ih =>
      rw [ih (hs.edit spares)]
      have hsame : (s.edit t).world.tree.octets? a.parts = s.world.tree.octets? a.parts :=
        spares.declarations p.text a (hs.cwd.symm ▸ ha)
      rw [hsame]
  | @advance s s' es ds _ _ ih =>
      rw [ih hs.advance]
      have hsame : s.advance.world.tree = s.world.tree := (goes_advance hs.watcher s.world).tree
      rw [hsame]
  | @deliver s s' e waiting es ds holds next _ ih =>
      rw [ih (hs.deliver hw next), lastKind?_cons, leftBy_or]
      congr 1
      rcases deliver_octets hw hc hs next hp ha with ⟨hnot, hsame⟩ | ⟨hsettled, hkind, hnone⟩
        | ⟨hsettled, hkind, text', hcompose, hwritten⟩
      · rw [hnot, hsame]
        rfl
      · rw [hsettled, hnone, hkind]
        rfl
      · obtain ⟨_, rfl⟩ := Prod.mk.inj (htext s.world hs.cwd holds _ hcompose)
        rw [hsettled, hwritten, if_pos rfl, leftBy_of_ne hkind]

/-- While there is nothing to be written, only a removal settles anything. -/
theorem Run.last_unlink {content : Option (List Nat)} (hw : w.Placed) (hc : cwd.IsStart)
    (h : Run w (fun world => world.content? p = content) s es ds s') (hs : s.Sound w cwd)
    (hp : p.IsPlace) (ha : w.artifact cwd p.text = .ok a)
    (hnever : ∀ world : World, world.cwd = cwd → world.content? p = content →
      ∀ x, w.compose world p.text ≠ .ok x) {k : EventKind} (hk : lastKind? cwd p ds = some k) :
    k = .unlink := by
  induction h with
  | done _ => cases hk
  | edit _ spares _ ih => exact ih (hs.edit spares) hk
  | advance _ _ ih => exact ih hs.advance hk
  | @deliver s s' e waiting es ds holds next _ ih =>
      rw [lastKind?_cons] at hk
      cases hlast : lastKind? cwd p ds with
      | some k' =>
          rw [hlast] at hk
          exact ih (hs.deliver hw next) (hlast.trans hk)
      | none =>
          rw [hlast, Option.none_or] at hk
          rcases deliver_octets hw hc hs next hp ha with ⟨hnot, _⟩ | ⟨hsettled, hkind, _⟩
            | ⟨_, _, text, hcompose, _⟩
          · rw [hnot] at hk
            cases hk
          · rw [hsettled] at hk
            exact (Option.some.inj hk).symm.trans hkind
          · exact absurd hcompose (hnever s.world hs.cwd holds _)

/-- **The declaration of a query file after a run.**  The run begins like a build; at some stage the
    file is as it will be at the end, and from there on all events are handled.  Then they are the
    ones that waited and those that batches added, in that order.  If the file is missing in the end,
    its declaration is missing if and only if the last of the events that settled it was a removal,
    or there was none of either.  If the file can be compiled in the end, its declaration is that of
    its text if and only if the last of these events was a write, or it was right before them. -/
theorem settled_by_last_event {c : Config} {world started : World} (hc : world.cwd.IsStart)
    (hconfig : c.IsWritten) (hprepare : Plugin.prepare c world = (.ok w, started)) {s₀ : Stage}
    (htree : s₀.world.tree = started.tree) (hcwd : s₀.world.cwd = started.cwd)
    (habsolute : s₀.watcher.IsAbsolute) {es₀ : List Event} {ds₀ : List Delivery}
    (hbefore : Run w (fun _ => True) s₀ es₀ ds₀ s)
    (hsince : Run w (fun world => world.content? p = s'.world.content? p) s es ds s')
    (hdone : s'.watcher.pending = []) (hp : p.IsPlace)
    (ha : w.artifact world.cwd p.text = .ok a) :
    ds.map Delivery.event = s.watcher.pending ++ es
      ∧ (s'.world.content? p = none → (s'.world.tree.octets? a.parts = none
        ↔ lastKind? world.cwd p ds = some .unlink
          ∨ lastKind? world.cwd p ds = none ∧ s.world.tree.octets? a.parts = none))
      ∧ (∀ text, w.compose s'.world p.text = .ok (a, text) →
        (s'.world.tree.octets? a.parts = some (encodeUtf8 text.toList)
          ↔ (∃ k, lastKind? world.cwd p ds = some k ∧ k ≠ .unlink)
            ∨ lastKind? world.cwd p ds = none
              ∧ s.world.tree.octets? a.parts = some (encodeUtf8 text.toList))) := by
  obtain ⟨hstarted, hbegun⟩ := Plugin.prepare_ok hc hconfig hprepare
  have hw := hbegun.placed
  have hs₀ : s₀.Sound w world.cwd := ⟨hcwd.trans hstarted, htree ▸ hbegun.rooted, habsolute⟩
  have hs := hbefore.sound hw hs₀
  have hs' := hsince.sound hw hs
  refine ⟨?_, fun hmissing => ?_, fun text hok => ?_⟩
  · have hevents := hsince.events_eq hw hs
    rw [hdone, List.append_nil] at hevents
    exact hevents.symm
  · have hnever : ∀ later : World, later.cwd = world.cwd →
        later.content? p = s'.world.content? p → ∀ x, w.compose later p.text ≠ .ok x := by
      intro later hlater hcontent x hx
      obtain ⟨octets, hoctets⟩ := content?_of_compose hw (hlater ▸ hc) hp hx
      rw [hcontent, hmissing] at hoctets
      cases hoctets
    have hleft := @Run.octets_eq _ _ _ _ _ _ _ _ _ "" hw hc hsince hs hp ha
      fun later hlater hcontent x hx => absurd hx (hnever later hlater hcontent x)
    rw [hleft]
    cases hlast : lastKind? world.cwd p ds with
    | none =>
        constructor
        · intro h
          exact Or.inr ⟨rfl, h⟩
        · rintro (h | ⟨_, h⟩)
          · cases h
          · exact h
    | some k =>
        obtain rfl := hsince.last_unlink hw hc hs hp ha hnever hlast
        exact ⟨fun _ => Or.inl rfl, fun _ => rfl⟩
  · have hsame : ∀ later : World, later.cwd = world.cwd →
        later.content? p = s'.world.content? p → ∀ x, w.compose later p.text = .ok x →
          x = (a, text) := by
      intro later hlater hcontent x hx
      have hx' := compose_of_content? hw (hs'.cwd.symm ▸ hc) (hlater.trans hs'.cwd.symm) hp
        hcontent hok
      exact Except.ok.inj (hx.symm.trans hx')
    have hleft := hsince.octets_eq hw hc hs hp ha hsame
    rw [hleft]
    cases hlast : lastKind? world.cwd p ds with
    | none =>
        constructor
        · intro h
          exact Or.inr ⟨rfl, h⟩
        · rintro (⟨k, h, _⟩ | ⟨_, h⟩)
          · cases h
          · exact h
    | some k =>
        by_cases hk : k = .unlink
        · subst hk
          constructor
          · intro h
            cases h
          · rintro (⟨k, h, hk⟩ | ⟨h, _⟩)
            · exact absurd (Option.some.inj h).symm hk
            · cases h
        · rw [leftBy_of_ne hk]
          exact ⟨fun _ => Or.inl ⟨k, rfl, hk⟩, fun _ => rfl⟩

/-- The file came. -/
def came : Event := ⟨.add, some smallFile, none⟩

/-- The file went. -/
def went : Event := ⟨.unlink, some smallFile, none⟩

/-- A watcher that has taken a batch which says of one file that it came and that it went. -/
def twiceTold : Watcher :=
  { Watcher.fresh smallConfig ⟨[], .stays⟩ with
    state := .ready, isReady := true, task := .listening, pending := [came, went] }

/-- The stage at which both events wait. -/
def toldStage (started : World) : Stage := ⟨twiceTold, .zero, started⟩

/-- The stage at which the first event is handled. -/
def cameStage (w : Writer) (started : World) : Stage := (toldStage started).deliver w came [went]

/-- The stage at which both events are handled. -/
def wentStage (w : Writer) (started : World) : Stage := (cameStage w started).deliver w went []

/-- What comes of the events. -/
def twiceDeliveries (w : Writer) (started : World) : List Delivery :=
  [⟨came, (toldStage started).outcome w came⟩, ⟨went, (cameStage w started).outcome w went⟩]

/-- A small project whose query can be compiled. -/
def namingWorld : World := smallWorld "query Q{a}"

/-- What the events come to in this project, as far as it is asked for below. -/
theorem naming_facts :
    ((Plugin.prepare smallConfig namingWorld).1.toOption.map fun w =>
      let started := (Plugin.prepare smallConfig namingWorld).2
      let last := wentStage w started
      decide ((toldStage started).world.content? smallFile = last.world.content? smallFile)
        && decide ((cameStage w started).world.content? smallFile = last.world.content? smallFile)
        && decide (lastKind? namingWorld.cwd smallFile (twiceDeliveries w started) = some .unlink)
        && (w.compose last.world smallFile.text).isOk) = some true := by
  decide +kernel

/-- The file is there all the time and can be compiled, and in the end it has no declaration. -/
theorem settled_by_last_event_twice :
    ∃ w started a text, Plugin.prepare smallConfig namingWorld = (.ok w, started)
      ∧ w.compose (wentStage w started).world smallFile.text = .ok (a, text)
      ∧ (wentStage w started).world.tree.octets? a.parts ≠ some (encodeUtf8 text.toList) := by
  have hfacts := naming_facts
  have hc : namingWorld.cwd.IsStart := isStart_smallWorld _
  rcases hprepare : Plugin.prepare smallConfig namingWorld with ⟨result, started⟩
  rw [hprepare] at hfacts
  cases result with
  | error f => cases hfacts
  | ok w =>
      simp only [Except.toOption, Option.map_some, Option.some.injEq, Bool.and_eq_true,
        decide_eq_true_eq] at hfacts
      obtain ⟨⟨⟨htold, hcame⟩, hlast⟩, hok⟩ := hfacts
      cases hcompose : w.compose (wentStage w started).world smallFile.text with
      | error f =>
          rw [hcompose] at hok
          cases hok
      | ok at_ =>
          obtain ⟨a, text⟩ := at_
          have habsolute : (toldStage started).watcher.IsAbsolute := by
            refine ⟨fun e he => ?_, fun b hb => (by cases hb)⟩
            rcases List.mem_cons.mp he with rfl | he
            · intro p hp
              obtain rfl := Option.some.inj hp
              rfl
            · rw [List.mem_singleton.mp he]
              intro p hp
              obtain rfl := Option.some.inj hp
              rfl
          have hrun : Run w (fun world => world.content? smallFile
              = (wentStage w started).world.content? smallFile) (toldStage started) []
              (twiceDeliveries w started) (wentStage w started) :=
            .deliver htold rfl (.deliver hcame rfl (.done rfl))
          obtain ⟨hstarted, hbegun⟩ := Plugin.prepare_ok hc isWritten_smallConfig hprepare
          have hsound := hrun.sound hbegun.placed ⟨hstarted, hbegun.rooted, habsolute⟩
          have ha := (Writer.compose_ok hcompose).1
          rw [hsound.cwd] at ha
          have hsettled := settled_by_last_event hc isWritten_smallConfig hprepare rfl rfl
            habsolute (.done trivial) hrun rfl isPlace_smallFile ha
          refine ⟨w, started, a, text, rfl, hcompose, fun hthere => ?_⟩
          rcases (hsettled.2.2 text hcompose).mp hthere with ⟨k, hk, hne⟩ | ⟨hnone, _⟩
          · rw [hlast] at hk
            exact hne (Option.some.inj hk).symm
          · rw [hlast] at hnone
            cases hnone

end QueryTypings
