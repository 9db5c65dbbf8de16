/-
  No query file is missed while a watcher begins.

  1. **Taken apart** — if nobody changes files in between, then the steps of a first pass are the
     first pass (`firstPass_iterate`).

  2. **Patterns** — a pattern leads to files by their names, whatever else is in the tree (`Leads`).
     A scan finds every file that one of the patterns leads to and the filter accepts
     (`mem_scan`).

  3. **Steps** — what a step of the task does, and what happens in it (`Stepped`).

  4. **Runs** — steps of the task and changes of files by others, in any order (`Run`).  The events
     that happen are those that the watcher has for its handler (`Run.pending`).

  5. **Three parts of a run** — a file that is there when the feed is subscribed to, and is not
     deleted, is found and told (`Run.added`), a report that is received is told (`Run.answered`), and
     the subscription comes before the scan (`Run.exists_subscribed`).  So whether a file changes
     for the last time before the subscription or after it, an event follows (`nothing_missed`).
-/
import QueryTypings.Proofs.Watch.Coverage
import QueryTypings.Proofs.Watch.Turns
import QueryTypings.Watch.Startup

namespace QueryTypings.Watch

open QueryTypings.Text QueryTypings.FileTree

/-! ## Taken apart -/

/-- From some file on, the events for the files that were found, and that the pass is complete. -/
theorem tell_iterate {w : Watcher} {world : World} {paths : List Path} (hw : w.task = .subscribed)
    (n : Nat) {told : Nat} (hn : paths.length = told + n) :
    (fun s : Startup => s.step.1)^[n + 1] ⟨w, world, some (paths, told)⟩
      = ⟨{ w with state := .ready, isReady := true, task := .listening }.emit
            ((paths.drop told).map Event.add ++ [Event.ready]),
          world.say .info ("Found " ++ toString paths.length ++ " query file(s) in "
            ++ w.directoryText world.cwd), none⟩ := by
  induction n generalizing w told with
  | zero =>
      have hend : paths[told]? = none := List.getElem?_eq_none (by omega)
      have hdrop : paths.drop told = [] := List.drop_eq_nil_of_le (by omega)
      simp only [Nat.zero_add, Function.iterate_one, Startup.step, hw, Startup.tell, hend, hdrop]
      rfl
  | succ n ih =>
      have hlt : told < paths.length := by omega
      have hstep : (Startup.step ⟨w, world, some (paths, told)⟩).1
          = ⟨w.emit [.add paths[told]], world, some (paths, told + 1)⟩ := by
        simp only [Startup.step, hw, Startup.tell, List.getElem?_eq_getElem hlt]
      have hrest := @ih (w.emit [.add paths[told]]) hw (told + 1) (by omega)
      rw [Function.iterate_succ_apply, hstep, hrest, List.drop_eq_getElem_cons hlt]
      simp only [Watcher.emit, List.map_cons, List.append_assoc, List.cons_append]
      rfl

/-- A watcher that is started waits for its first step, if there is a directory to be watched. -/
theorem start_fresh {world : World} {c : Config} {feed : Feed}
    (h : world.isDirectory (c.resolvedSearch world.cwd) = .ok true) :
    ∃ started, (Watcher.fresh c feed).start world
        = .ok ((Startup.waiting c feed started).watcher, started)
      ∧ started.tree = world.tree ∧ started.cwd = world.cwd := by
  simp only [Watcher.start, Watcher.fresh, h]
  exact ⟨_, rfl, rfl, rfl⟩

/-- **If nobody changes files, then the steps of a first pass are the first pass.** -/
theorem firstPass_iterate {w : Watcher} {world : World} (hw : w.task = .subscribed) :
    ∃ n, (fun s : Startup => s.step.1)^[n] ⟨w, world, none⟩
      = ⟨(w.firstPass world).1, (w.firstPass world).2, none⟩ := by
  cases hscan : scan world w.config with
  | error f =>
      refine ⟨1, ?_⟩
      simp only [Function.iterate_one, Startup.step, hw, Startup.look, hscan, Watcher.firstPass]
  | ok paths =>
      refine ⟨paths.length + 1 + 1, ?_⟩
      have hlook : (Startup.step ⟨w, world, none⟩).1 = ⟨w, world, some (paths, 0)⟩ := by
        simp only [Startup.step, hw, Startup.look, hscan]
      rw [Function.iterate_succ_apply, hlook, tell_iterate hw _ (Nat.zero_add _).symm]
      simp only [Watcher.firstPass, hscan, List.drop_zero]

/-! ## Patterns -/

/-- A pattern leads to a file by these names. -/
inductive Leads : List PatternPart → List String → Prop
  | here : Leads [] []
  | exactly {name : String} {ps : List PatternPart} {rest : List String} (h : Leads ps rest) :
      Leads (.exactly name :: ps) (name :: rest)
  | name {p : List Piece} {ps : List PatternPart} {name : String} {rest : List String}
      (fits : fitsName p name.toList = true) (h : Leads ps rest) :
      Leads (.name p :: ps) (name :: rest)
  /-- Two stars stand for directories, and the file is below them. -/
  | directories {ps : List PatternPart} {way rest : List String} (below : rest ≠ [])
      (h : Leads ps rest) : Leads (.directories :: ps) (way ++ rest)

variable {t : FileTree} {world : World} {c : Config} {cwd p : Path}

theorem Leads.ne_nil {ps : List PatternPart} {names : List String} (h : Leads ps names)
    (hps : ps ≠ []) : names ≠ [] := by
  cases h with
  | here => exact absurd rfl hps
  | exactly _ => exact List.cons_ne_nil _ _
  | name _ _ => exact List.cons_ne_nil _ _
  | directories below _ => exact List.append_ne_nil_of_right_ne_nil _ below

/-- What is in a directory is found under its name, unless the look-up is refused. -/
theorem next?_of_entry {s : Spot} {name : String} {e : Entry} {found : Option (Spot × Entry)}
    (hdirectory : t.entry? s.place = some .directory) (hname : name ≠ "..")
    (hentry : t.entry? (s.place ++ [name]) = some e) (h : s.next? t name = .ok found) :
    found = some (s.down [name], e) := by
  have hthere : t.entryAt (s.place ++ [name]) = .ok e := by rw [entryAt, hentry]
  simp only [Spot.next?] at h
  by_cases hlong : isTooLongPath (Path.mk .root (s.names ++ [name])).text = true
  · rw [if_pos hlong] at h
    cases h
  · rw [if_neg hlong] at h
    have hfollow : t.follow s.place [name]
        = if isTooLong name then .error .nameTooLong else .ok (s.place ++ [name]) := by
      unfold follow
      simp only [hdirectory, if_neg hname]
      unfold follow
      rfl
    by_cases hshort : isTooLong name = true
    · rw [hfollow, if_pos hshort] at h
      cases h
    · rw [hfollow, if_neg hshort] at h
      simp only [bind, Except.bind, hthere] at h
      exact (Except.ok.inj h).symm

theorem Spot.down_down (s : Spot) (names more : List String) :
    (s.down names).down more = s.down (names ++ more) := by
  simp only [Spot.down, List.append_assoc]

/-- What leads to a file are directories. -/
theorem opened_of_file_below (ht : t.Sound) {above rest : List String} (hrest : rest ≠ [])
    (hfile : (t.octets? (above ++ rest)).isSome = true) : Opened t above := by
  obtain ⟨octets, hoctets⟩ := Option.isSome_iff_exists.mp hfile
  have hopened := (ht.opened_of_file hoctets).2.1
  rw [List.dropLast_append_of_ne_nil hrest] at hopened
  exact fun place hplace => hopened place (hplace.trans (List.prefix_append _ _))

/-- The first name on the way to a file leads to the file, or to a directory. -/
theorem exists_entry_of_file (ht : t.Sound) {place rest : List String} {name : String}
    (hfile : (t.octets? (place ++ name :: rest)).isSome = true) :
    t.entry? place = some .directory ∧ name ≠ ".."
      ∧ ∃ e, t.entry? (place ++ [name]) = some e ∧ (rest ≠ [] → e = .directory) := by
  have hplace := opened_of_file_below ht (List.cons_ne_nil name rest) hfile
  obtain ⟨octets, hoctets⟩ := Option.isSome_iff_exists.mp hfile
  have hnamed := (ht.opened_of_file hoctets).2.2 name (by simp)
  refine ⟨hplace _ (List.prefix_refl _), hnamed.2, ?_⟩
  by_cases hrest : rest = []
  · subst hrest
    exact ⟨_, octets?_eq_some.mp hoctets, fun h => absurd rfl h⟩
  · have hnext : Opened t (place ++ [name]) :=
      opened_of_file_below ht hrest (by rwa [List.append_assoc, List.singleton_append])
    exact ⟨_, hnext _ (List.prefix_refl _), fun _ => rfl⟩

/-- The last part of a pattern leads to a file, and the others to directories. -/
theorem goes_of_leads {ps : List PatternPart} {rest : List String} {e : Entry} (h : Leads ps rest)
    (he : rest ≠ [] → e = .directory) : (ps.isEmpty || e == .directory) = true := by
  by_cases hps : ps = []
  · rw [hps]
    rfl
  · rw [he (h.ne_nil hps)]
    exact Bool.or_true _

/-- **A pattern selects every file that it leads to.** -/
theorem mem_select_of_leads (ht : t.Sound) {ps : List PatternPart} {names : List String}
    (h : Leads ps names) {s : Spot} {spots : List Spot} (hselect : select t ps s = .ok spots)
    (hfile : (t.octets? (s.place ++ names)).isSome = true) : s.down names ∈ spots := by
  induction h generalizing s spots with
  | here =>
      unfold select at hselect
      obtain rfl := Except.ok.inj hselect
      simp only [Spot.down, List.append_nil, List.mem_singleton]
  | @exactly name ps rest hrest ih =>
      obtain ⟨hdirectory, hname, e, hentry, hlast⟩ := exists_entry_of_file ht hfile
      unfold select at hselect
      obtain ⟨found, hnext, hselect⟩ := ok_of_bind_ok hselect
      obtain rfl := next?_of_entry hdirectory hname hentry hnext
      simp only [if_pos (goes_of_leads hrest hlast)] at hselect
      have hmem := ih hselect (by rwa [Spot.down, List.append_assoc])
      rwa [Spot.down_down] at hmem
  | @name p ps name rest hfits hrest ih =>
      obtain ⟨_, _, e, hentry, hlast⟩ := exists_entry_of_file ht hfile
      unfold select at hselect
      obtain ⟨lists, hlists, hselect⟩ := ok_of_bind_ok hselect
      obtain rfl := Except.ok.inj hselect
      have hne : s.place ++ [name] ≠ [] := List.append_ne_nil_of_right_ne_nil _ (List.cons_ne_nil _ _)
      have hchild := mem_children_iff.mpr ((entry?_eq_some_iff ht hne).mp hentry)
      have hfitting : (name, e) ∈ (t.children s.place).filter
          fun c => fitsName p c.1.toList && (ps.isEmpty || c.2 == .directory) :=
        List.mem_filter.mpr ⟨hchild, Bool.and_eq_true_iff.mpr ⟨hfits, goes_of_leads hrest hlast⟩⟩
      obtain ⟨list, hlist, hbelow⟩ := (exists_of_mapM_ok hlists).1 _ hfitting
      have hmem := ih hbelow (by rwa [Spot.down, List.append_assoc])
      rw [Spot.down_down] at hmem
      exact List.mem_flatten.mpr ⟨list, hlist, hmem⟩
  | @directories ps way rest hbelow hrest ih =>
      rw [← List.append_assoc] at hfile
      unfold select at hselect
      obtain ⟨lists, hlists, hselect⟩ := ok_of_bind_ok hselect
      obtain rfl := Except.ok.inj hselect
      -- the two stars stand for the directory itself, or for one below it
      have hway : way ∈ [] :: t.directoriesBelow s.place := by
        by_cases hnil : way = []
        · exact hnil ▸ List.mem_cons_self
        · have hthere := directory_of_opened ht (opened_of_file_below ht hbelow hfile)
          exact List.mem_cons_of_mem _
            (mem_directoriesBelow_iff.mpr ⟨hnil, hthere.resolve_left hnil⟩)
      obtain ⟨list, hlist, hselected⟩ := (exists_of_mapM_ok hlists).1 _ hway
      have hmem := ih hselected hfile
      rw [Spot.down_down] at hmem
      exact List.mem_eraseDups.mpr (List.mem_flatten.mpr ⟨list, hlist, hmem⟩)

/-- A file below the search directory to which one of the patterns leads and which the filter
    accepts. -/
structure Accepted (cwd : Path) (c : Config) (p : Path) : Prop where
  leads : ∃ pattern ∈ c.globPatterns, ∃ parts names, patternParts? pattern = some parts
    ∧ Leads parts names ∧ p = filePath (c.resolvedSearch cwd) names
  filter : c.reports? cwd p.text = some true

/-- The pattern of an extension leads below the directory where it begins. -/
theorem ne_nil_of_leads {pattern : String} {parts : List PatternPart} {names : List String}
    (hpattern : pattern ∈ c.globPatterns) (hparts : patternParts? pattern = some parts)
    (h : Leads parts names) : names ≠ [] := by
  obtain ⟨e, -, rfl⟩ := List.mem_map.mp hpattern
  have htext : ("**/*" ++ e).toList = ['*', '*'] ++ '/' :: '*' :: e.toList := by
    rw [String.toList_append]
    rfl
  have hfirst : Path.isPart ['*', '*'] = true := by decide
  obtain ⟨ps, hps, hshown⟩ := Option.map_eq_some_iff.mp hparts
  rw [htext, splitAt_append_cons (by decide), List.filter_cons_of_pos hfirst, List.mapM_cons] at hps
  obtain ⟨part, -, hps⟩ := Option.bind_eq_some_iff.mp hps
  obtain ⟨rest, -, hps⟩ := Option.bind_eq_some_iff.mp hps
  obtain rfl := Option.some.inj hps
  refine h.ne_nil fun hnil => ?_
  rw [← hshown] at hnil
  split at hnil <;> cases hnil

/-- **A scan finds every accepted file that is there.** -/
theorem mem_scan (hc : world.cwd.IsStart) (hconfig : c.IsWritten) (ht : world.tree.Sound)
    (hp : Accepted world.cwd c p) (hfile : (world.tree.octets? p.parts).isSome = true)
    {paths : List Path} (h : scan world c = .ok paths) : p ∈ paths := by
  obtain ⟨⟨pattern, hpattern, parts, names, hparts, hleads, rfl⟩, hfilter⟩ := hp
  have hd : (c.resolvedSearch world.cwd).IsPlace :=
    hc.join ((hc.join hconfig.baseDir).written.join hconfig.searchDir)
  have hopened : Opened world.tree (c.resolvedSearch world.cwd).parts :=
    opened_of_file_below ht (ne_nil_of_leads hpattern hparts hleads) hfile
  rw [scan] at h
  obtain ⟨found, hfound, h⟩ := ok_of_bind_ok h
  obtain rfl := Except.ok.inj h
  obtain ⟨files, hfiles, hfilesOf⟩ := (exists_of_mapM_ok hfound).1 _ hpattern
  have hmem : (c.resolvedSearch world.cwd).parts ++ names ∈ files := by
    rw [filesOf, hparts] at hfilesOf
    cases hb : world.isDirectory (c.resolvedSearch world.cwd) with
    | error r =>
        rw [hb] at hfilesOf
        cases hfilesOf
    | ok b =>
        obtain rfl := isDirectory_of_opened hd hopened hb
        rw [hb] at hfilesOf
        simp only at hfilesOf
        split at hfilesOf
        · cases hfilesOf
        · rename_i spots hspots
          obtain rfl := Except.ok.inj hfilesOf
          have hspot := mem_select_of_leads ht hleads hspots hfile
          exact List.mem_map.mpr ⟨_, List.mem_filter.mpr ⟨hspot, hfile⟩, rfl⟩
  have hsorted : (c.resolvedSearch world.cwd).parts ++ names
      ∈ found.flatten.eraseDups.mergeSort namesLe := by
    rw [List.mem_mergeSort, List.mem_eraseDups]
    exact List.mem_flatten.mpr ⟨files, hfiles, hmem⟩
  refine List.mem_filter.mpr ⟨List.mem_map.mpr ⟨_, hsorted, ?_⟩, ?_⟩
  · rw [filePath, hd.origin]
  · rw [hfilter]
    rfl

/-! ## Steps -/

/-- What a step of the task does, and what happens in it. -/
inductive Stepped (s : Startup) : Startup → List Happening → Prop
  /-- There is nothing to do. -/
  | rested : Stepped s s []
  | subscribed (h : s.watcher.task = .waiting) :
      Stepped s { s with watcher := s.watcher.subscribe } [.subscribed]
  | unscanned {f : WatchFault} {world : World} (h : s.watcher.task = .subscribed)
      (hfound : s.found = none) (hcwd : world.cwd = s.world.cwd) (htree : world.tree = s.world.tree) :
      Stepped s ⟨(s.watcher.fail f s.world).1, world, none⟩ [.emitted (.failure f)]
  | looked {paths : List Path} (h : s.watcher.task = .subscribed) (hfound : s.found = none)
      (hscan : scan s.world s.watcher.config = .ok paths) :
      Stepped s { s with found := some (paths, 0) } []
  | told {paths : List Path} {k : Nat} {p : Path} (h : s.watcher.task = .subscribed)
      (hfound : s.found = some (paths, k)) (hp : paths[k]? = some p) :
      Stepped s { s with watcher := s.watcher.emit [.add p], found := some (paths, k + 1) }
        [.emitted (.add p)]
  | completed {paths : List Path} {k : Nat} {world : World} (h : s.watcher.task = .subscribed)
      (hfound : s.found = some (paths, k)) (hp : paths[k]? = none)
      (hcwd : world.cwd = s.world.cwd) (htree : world.tree = s.world.tree) :
      Stepped s ⟨{ s.watcher with state := .ready, isReady := true, task := .listening }.emit [.ready],
        world, none⟩ [.emitted .ready]
  | heard {batch : List Report} {rest : List (List Report)} {reports : List Report}
      (h : s.watcher.task = .listening)
      (hrelevant : relevant? s.world.cwd s.watcher.config batch = some reports) :
      Stepped s ⟨{ s.watcher with feed := { s.watcher.feed with batches := rest } }.emit
          (reports.map Report.event), s.world, s.found⟩
        (.received batch :: (reports.map Report.event).map .emitted)
  | failed {f : WatchFault} {feed : Feed} {world : World} (h : s.watcher.task = .listening)
      (hcwd : world.cwd = s.world.cwd) (htree : world.tree = s.world.tree) :
      Stepped s ⟨({ s.watcher with feed := feed }.fail f s.world).1, world, s.found⟩
        [.emitted (.failure f)]
  | ended (h : s.watcher.task = .listening) :
      Stepped s { s with watcher := { s.watcher with task := .over } } []

/-- What a listening task does. -/
theorem goOn_listening {s : Startup} (h : s.watcher.task = .listening) :
    Stepped s s.goOn.1 s.goOn.2 := by
  unfold Startup.goOn Watcher.advance Startup.arrived Watcher.nextBatch
  simp only [h]
  cases hbatches : s.watcher.feed.batches with
  | cons batch rest =>
      simp only
      cases hrelevant : relevant? s.world.cwd s.watcher.config batch with
      | none =>
          simp only [Watcher.fail, Watcher.emit, List.drop_left]
          exact .failed h rfl rfl
      | some reports =>
          simp only [Watcher.emit, List.drop_left, Option.isSome_some, if_true]
          simpa only [Watcher.emit, h, List.singleton_append] using
            @Stepped.heard s batch rest reports h hrelevant
  | nil =>
      cases hending : s.watcher.feed.ending with
      | stops =>
          simp only [List.drop_length]
          exact .ended h
      | fails text =>
          simp only [Watcher.fail, Watcher.emit, List.drop_left]
          exact .failed h rfl rfl
      | stays =>
          simp only [List.drop_length]
          exact .rested

/-- What a task that does not listen does, if it is not in the middle of its first pass. -/
theorem goOn_idle {s : Startup} (h : s.watcher.task ≠ .listening)
    (hpass : s.watcher.task ≠ .subscribed) : Stepped s s.goOn.1 s.goOn.2 := by
  unfold Startup.goOn Watcher.advance Startup.arrived
  cases htask : s.watcher.task with
  | waiting =>
      simp only [Watcher.subscribe, List.drop_length]
      exact .subscribed htask
  | subscribed => exact absurd htask hpass
  | listening => exact absurd htask h
  | none | «over» =>
      simp only [List.drop_length]
      exact .rested

/-- **What a step of the task does.** -/
theorem step_cases (s : Startup) : Stepped s s.step.1 s.step.2 := by
  rw [Startup.step]
  split
  · rename_i htask hfound
    rw [Startup.look]
    split
    · exact .unscanned htask hfound rfl rfl
    · rename_i paths hscan
      exact .looked htask hfound hscan
  · rename_i paths k htask hfound
    rw [Startup.tell]
    split
    · rename_i p hp
      exact .told htask hfound hp
    · rename_i hp
      exact .completed htask hfound hp rfl rfl
  · rename_i hlook htell
    by_cases hlistening : s.watcher.task = .listening
    · exact goOn_listening hlistening
    · refine goOn_idle hlistening fun hpass => ?_
      cases hfound : s.found with
      | none => exact hlook hpass hfound
      | some found => exact htell found.1 found.2 hpass hfound

/-! ## Runs -/

/-- What a change of files by others comes to: the files that were created or edited are there
    afterwards, and each file that is not as it was before is among them or was deleted. -/
structure Edited (before after : FileTree) (written deleted : List Path) : Prop where
  sound : after.Sound
  there : ∀ p ∈ written, (after.octets? p.parts).isSome = true
  changed : ∀ place octets, after.octets? place = some octets →
    before.octets? place ≠ some octets → ⟨.root, place⟩ ∈ written
  gone : ∀ place, (before.octets? place).isSome = true → after.octets? place = none →
    ⟨.root, place⟩ ∈ deleted

/-- A change of files, as it happens. -/
def changes (written deleted : List Path) : List Happening :=
  written.map .written ++ deleted.map .deleted

/-- A run: steps of the task, and changes of files by others in between. -/
inductive Run : Startup → List Happening → Startup → Prop
  | done (s : Startup) : Run s [] s
  | edit {s s' : Startup} {t : FileTree} {written deleted : List Path} {rest : List Happening}
      (edited : Edited s.world.tree t written deleted) (run : Run (s.edit t) rest s') :
      Run s (changes written deleted ++ rest) s'
  | step {s s' : Startup} {rest : List Happening} (run : Run s.step.1 rest s') :
      Run s (s.step.2 ++ rest) s'

/-- The event that is emitted. -/
def Happening.event? : Happening → Option Event
  | .emitted e => some e
  | _ => none

variable {s s' : Startup} {marks : List Happening}

/-- Whatever is emitted in a step is put behind the events that are there. -/
theorem Stepped.pending (h : Stepped s s' marks) :
    s'.watcher.pending = s.watcher.pending ++ marks.filterMap Happening.event? := by
  have hevents (es : List Event) : (es.map Happening.emitted).filterMap Happening.event? = es := by
    rw [List.filterMap_map]
    exact List.filterMap_some
  cases h with
  | rested | subscribed | looked | ended => exact (List.append_nil _).symm
  | unscanned | told | completed | failed => rfl
  | @heard batch rest reports _ _ =>
      exact congrArg (s.watcher.pending ++ ·) (hevents (reports.map Report.event)).symm

/-- A change of files is neither an event nor anything that the task gets. -/
theorem mem_changes_iff {written deleted : List Path} {x : Happening} :
    x ∈ changes written deleted ↔ (∃ p ∈ written, x = .written p) ∨ ∃ p ∈ deleted, x = .deleted p := by
  simp only [changes, List.mem_append, List.mem_map, eq_comm]

/-- **The events that happen are those that the watcher has for its handler.** -/
theorem Run.pending (h : Run s marks s') :
    s'.watcher.pending = s.watcher.pending ++ marks.filterMap Happening.event? := by
  induction h with
  | done => exact (List.append_nil _).symm
  | @edit s s' t written deleted rest _ _ ih =>
      have hsilent : (changes written deleted).filterMap Happening.event? = [] := by
        refine List.filterMap_eq_nil_iff.mpr fun x hx => ?_
        rcases mem_changes_iff.mp hx with ⟨p, -, rfl⟩ | ⟨p, -, rfl⟩ <;> rfl
      rw [List.filterMap_append, hsilent]
      exact ih
  | step _ ih => rw [ih, (step_cases _).pending, List.filterMap_append, List.append_assoc]

/-- A sound tree, and the directory and the settings that nothing changes. -/
structure Startup.At (s : Startup) (cwd : Path) (c : Config) : Prop where
  sound : s.world.tree.Sound
  cwd : s.world.cwd = cwd
  config : s.watcher.config = c

theorem Startup.At.edit (h : s.At cwd c) {written deleted : List Path}
    (he : Edited s.world.tree t written deleted) : (s.edit t).At cwd c :=
  ⟨he.sound, h.cwd, h.config⟩

/-- A step of the task changes no file and no setting. -/
theorem Stepped.same (h : Stepped s s' marks) : s'.world.tree = s.world.tree
    ∧ s'.world.cwd = s.world.cwd ∧ s'.watcher.config = s.watcher.config := by
  cases h with
  | rested | subscribed | looked | told | heard | ended => exact ⟨rfl, rfl, rfl⟩
  | unscanned _ _ hcwd htree => exact ⟨htree, hcwd, rfl⟩
  | completed _ _ _ hcwd htree => exact ⟨htree, hcwd, rfl⟩
  | failed _ hcwd htree => exact ⟨htree, hcwd, rfl⟩

theorem Startup.At.step (h : s.At cwd c) : s.step.1.At cwd c := by
  obtain ⟨htree, hcwd, hconfig⟩ := (step_cases s).same
  exact ⟨htree ▸ h.sound, hcwd.trans h.cwd, hconfig.trans h.config⟩

/-- A file that is there is still there after a change that does not delete it. -/
theorem Edited.stays {before after : FileTree} {written deleted : List Path}
    (h : Edited before after written deleted) (hp : p.origin = .root) (hkept : p ∉ deleted)
    (hthere : (before.octets? p.parts).isSome = true) : (after.octets? p.parts).isSome = true := by
  obtain ⟨origin, parts⟩ := p
  obtain rfl : origin = .root := hp
  rw [Option.isSome_iff_ne_none]
  exact fun hgone => hkept (h.gone parts hthere hgone)

/-! ## Reports -/

/-- In whatever way a list of happenings goes on, reports in it that the filter accepts are told. -/
def Answered (cwd : Path) (c : Config) (marks : List Happening) : Prop :=
  ∀ before batch after, marks = before ++ .received batch :: after →
    ∀ r ∈ batch, c.reports? cwd r.path = some true → .emitted r.event ∈ after

theorem Answered.append {more : List Happening} (h : Answered cwd c marks)
    (hmore : Answered cwd c more) : Answered cwd c (marks ++ more) := by
  intro before batch after heq r hr haccepted
  rcases List.append_eq_append_iff.mp heq with ⟨middle, -, hrest⟩ | ⟨middle, hfirst, hrest⟩
  · exact hmore _ _ _ hrest r hr haccepted
  · cases middle with
    | nil => exact hmore [] _ _ hrest.symm r hr haccepted
    | cons x middle =>
        obtain ⟨rfl, rfl⟩ := List.cons.inj hrest
        exact List.mem_append_left _ (h _ _ _ hfirst r hr haccepted)

/-- Nothing is received, so nothing has to be told. -/
theorem answered_of_notMem (h : ∀ batch, Happening.received batch ∉ marks) :
    Answered cwd c marks := by
  rintro before batch after rfl
  exact absurd (List.mem_append_right before List.mem_cons_self) (h batch)

theorem mem_relevant {batch reports : List Report} {r : Report}
    (h : relevant? cwd c batch = some reports) (hr : r ∈ batch)
    (haccepted : c.reports? cwd r.path = some true) : r ∈ reports := by
  rw [relevant?_eq h, List.mem_mergeSort, List.mem_eraseDups]
  exact List.mem_filter.mpr ⟨hr, beq_iff_eq.mpr haccepted⟩

/-- **A batch that a step receives is told in it.** -/
theorem Stepped.answered (h : Stepped s s' marks) (hs : s.At cwd c) : Answered cwd c marks := by
  cases h with
  | rested | subscribed | unscanned | looked | told | completed | failed | ended =>
      exact answered_of_notMem fun batch => by simp
  | @heard batch rest reports _ hrelevant =>
      rw [hs.cwd, hs.config] at hrelevant
      intro before batch' after heq r hr haccepted
      rcases before with _ | ⟨x, before⟩
      · obtain ⟨hbatch, rfl⟩ := List.cons.inj heq
        obtain rfl := Happening.received.inj hbatch
        exact List.mem_map_of_mem (List.mem_map_of_mem (mem_relevant hrelevant hr haccepted))
      · have hreceived : Happening.received batch' ∈ (reports.map Report.event).map .emitted := by
          rw [(List.cons.inj heq).2]
          exact List.mem_append_right before List.mem_cons_self
        obtain ⟨e, -, he⟩ := List.mem_map.mp hreceived
        cases he

/-- **Every report that is received in a run is told.** -/
theorem Run.answered (h : Run s marks s') (hs : s.At cwd c) : Answered cwd c marks := by
  induction h with
  | done => exact answered_of_notMem fun batch => List.not_mem_nil
  | @edit s s' t written deleted rest edited _ ih =>
      refine Answered.append (answered_of_notMem fun batch hmem => ?_) (ih (hs.edit edited))
      rcases mem_changes_iff.mp hmem with ⟨p, -, heq⟩ | ⟨p, -, heq⟩ <;> cases heq
  | step _ ih => exact ((step_cases _).answered hs).append (ih hs.step)

/-! ## The first pass -/

/-- A task that is over does nothing more. -/
theorem Stepped.eq_of_over (h : Stepped s s' marks) (hover : s.watcher.task = .over) : s' = s := by
  cases h with
  | rested => rfl
  | subscribed h | unscanned h | looked h | told h | completed h | heard h | failed h | ended h =>
      cases hover.symm.trans h

theorem Run.isReady_of_over (h : Run s marks s') (hover : s.watcher.task = .over) :
    s'.watcher.isReady = s.watcher.isReady := by
  induction h with
  | done => rfl
  | edit _ _ ih => exact ih hover
  | @step s s' rest _ ih =>
      rw [(step_cases s).eq_of_over hover] at ih
      exact ih hover

/-- The first pass is under way, and the event for a file is still to come: the file is there, and
    nobody has looked for it, or it was found. -/
structure Awaits (p : Path) (s : Startup) : Prop where
  task : s.watcher.task = .subscribed
  late : s.watcher.isReady = false
  coming : s.found = none ∧ (s.world.tree.octets? p.parts).isSome = true
    ∨ ∃ paths k, s.found = some (paths, k) ∧ p ∈ paths.drop k

/-- **A step of the first pass** tells of a file, leaves it to a later step, or fails. -/
theorem Awaits.stepped (hc : cwd.IsStart) (hconfig : c.IsWritten) (hp : Accepted cwd c p)
    (hs : s.At cwd c) (ha : Awaits p s) (h : Stepped s s' marks) :
    .emitted (.add p) ∈ marks ∨ Awaits p s'
      ∨ s'.watcher.task = .over ∧ s'.watcher.isReady = false := by
  cases h with
  | rested => exact Or.inr (Or.inl ha)
  | subscribed h | heard h | failed h | ended h => cases ha.task.symm.trans h
  | unscanned _ _ _ _ => exact Or.inr (Or.inr ⟨rfl, ha.late⟩)
  | @looked paths _ hfound hscan =>
      obtain ⟨-, hthere⟩ | ⟨paths', k, hfound', -⟩ := ha.coming
      · have hcwd : s.world.cwd.IsStart := hs.cwd ▸ hc
        have haccepted : Accepted s.world.cwd c p := hs.cwd ▸ hp
        rw [hs.config] at hscan
        have hmem := mem_scan hcwd hconfig hs.sound haccepted hthere hscan
        exact Or.inr (Or.inl ⟨ha.task, ha.late, Or.inr ⟨paths, 0, rfl, hmem⟩⟩)
      · cases hfound.symm.trans hfound'
  | @told paths k q _ hfound hq =>
      obtain ⟨hnone, -⟩ | ⟨paths', k', hfound', hmem⟩ := ha.coming
      · cases hfound.symm.trans hnone
      · obtain ⟨rfl, rfl⟩ := Prod.mk.inj (Option.some.inj (hfound.symm.trans hfound'))
        obtain ⟨hk, rfl⟩ := List.getElem?_eq_some_iff.mp hq
        rw [List.drop_eq_getElem_cons hk] at hmem
        rcases List.mem_cons.mp hmem with rfl | hlater
        · exact Or.inl List.mem_cons_self
        · exact Or.inr (Or.inl ⟨ha.task, ha.late, Or.inr ⟨paths, k + 1, rfl, hlater⟩⟩)
  | @completed paths k _ _ hfound hq _ _ =>
      obtain ⟨hnone, -⟩ | ⟨paths', k', hfound', hmem⟩ := ha.coming
      · cases hfound.symm.trans hnone
      · obtain ⟨rfl, rfl⟩ := Prod.mk.inj (Option.some.inj (hfound.symm.trans hfound'))
        -- the pass is complete only when no file that was found is left
        rw [List.drop_eq_nil_of_le (List.getElem?_eq_none_iff.mp hq)] at hmem
        cases hmem

/-- **A file that is there before the scan, and is not deleted, is told** by the time at which the
    first pass is complete. -/
theorem Run.added (hc : cwd.IsStart) (hconfig : c.IsWritten) (hp : Accepted cwd c p)
    (horigin : p.origin = .root) (h : Run s marks s') (hs : s.At cwd c) (ha : Awaits p s)
    (hready : s'.watcher.isReady = true) (hkept : .deleted p ∉ marks) :
    .emitted (.add p) ∈ marks := by
  induction h with
  | done => cases ha.late.symm.trans hready
  | @edit s s' t written deleted rest edited _ ih =>
      have hdeleted : p ∉ deleted := fun hmem =>
        hkept (List.mem_append_left _ (mem_changes_iff.mpr (Or.inr ⟨p, hmem, rfl⟩)))
      have hlater : Awaits p (s.edit t) :=
        ⟨ha.task, ha.late, ha.coming.imp_left fun ⟨hnone, hthere⟩ =>
          ⟨hnone, edited.stays horigin hdeleted hthere⟩⟩
      exact List.mem_append_right _ (ih (hs.edit edited) hlater hready
        fun hmem => hkept (List.mem_append_right _ hmem))
  | @step s s' rest run ih =>
      rcases ha.stepped hc hconfig hp hs (step_cases s) with htold | hlater | ⟨hover, hlate⟩
      · exact List.mem_append_left _ htold
      · exact List.mem_append_right _ (ih hs.step hlater hready
          fun hmem => hkept (List.mem_append_right _ hmem))
      · -- a pass that has failed is never complete
        rw [run.isReady_of_over hover, hlate] at hready
        cases hready

/-! ## The subscription -/

/-- A task that waits subscribes first. -/
theorem Stepped.of_waiting (h : Stepped s s' marks) (htask : s.watcher.task = .waiting) :
    s' = s ∧ marks = [] ∨ s' = { s with watcher := s.watcher.subscribe } ∧ marks = [.subscribed] := by
  cases h with
  | rested => exact Or.inl ⟨rfl, rfl⟩
  | subscribed _ => exact Or.inr ⟨rfl, rfl⟩
  | unscanned h | looked h | told h | completed h | heard h | failed h | ended h =>
      cases htask.symm.trans h

/-- **The subscription comes before the scan.**  A file that was there in the beginning, or was written
    before the subscription, and was not deleted, awaits its event then. -/
theorem Run.exists_subscribed (h : Run s marks s') (hs : s.At cwd c)
    (htask : s.watcher.task = .waiting) (hfound : s.found = none)
    (hlate : s.watcher.isReady = false) (hready : s'.watcher.isReady = true) :
    ∃ before middle after, marks = before ++ .subscribed :: after ∧ Run middle after s'
      ∧ middle.At cwd c ∧ ∀ p : Path, p.origin = .root → .deleted p ∉ before →
        (s.world.tree.octets? p.parts).isSome = true ∨ .written p ∈ before → Awaits p middle := by
  induction h with
  | done => cases hlate.symm.trans hready
  | @edit s s' t written deleted rest edited _ ih =>
      obtain ⟨before, middle, after, rfl, hrun, hmiddle, hawaits⟩ :=
        ih (hs.edit edited) htask hfound hlate hready
      refine ⟨changes written deleted ++ before, middle, after, (List.append_assoc _ _ _).symm, hrun,
        hmiddle, fun p hp hkept hthere => ?_⟩
      have hdeleted : p ∉ deleted := fun hmem =>
        hkept (List.mem_append_left _ (mem_changes_iff.mpr (Or.inr ⟨p, hmem, rfl⟩)))
      refine hawaits p hp (fun hmem => hkept (List.mem_append_right _ hmem)) ?_
      rcases hthere with hthere | hwritten
      · exact Or.inl (edited.stays hp hdeleted hthere)
      · rcases List.mem_append.mp hwritten with hnow | hlater
        · rcases mem_changes_iff.mp hnow with ⟨q, hq, heq⟩ | ⟨q, -, heq⟩
          · obtain rfl := Happening.written.inj heq
            exact Or.inl (edited.there p hq)
          · cases heq
        · exact Or.inr hlater
  | @step s s' rest run ih =>
      rcases (step_cases s).of_waiting htask with ⟨hsame, hnothing⟩ | ⟨hnext, hmark⟩
      · rw [hnothing, List.nil_append]
        rw [hsame] at ih
        exact ih hs htask hfound hlate hready
      · rw [hmark]
        refine ⟨[], s.step.1, rest, rfl, run, hs.step, fun p _ _ hthere => ?_⟩
        rw [hnext]
        exact ⟨rfl, hlate, Or.inl ⟨hfound, hthere.resolve_right List.not_mem_nil⟩⟩

/-! ## All changes -/

/-- A file that is written in a run is there then. -/
theorem Run.exists_there (h : Run s marks s') (hp : .written p ∈ marks) :
    ∃ t : FileTree, t.Sound ∧ (t.octets? p.parts).isSome = true := by
  induction h with
  | done => cases hp
  | @edit s s' t written deleted rest edited _ ih =>
      rcases List.mem_append.mp hp with hnow | hlater
      · rcases mem_changes_iff.mp hnow with ⟨q, hq, heq⟩ | ⟨q, -, heq⟩
        · obtain rfl := Happening.written.inj heq
          exact ⟨t, edited.sound, edited.there p hq⟩
        · cases heq
      · exact ih hlater
  | @step s s' rest _ ih =>
      rcases List.mem_append.mp hp with hnow | hlater
      · have hsilent : ∀ {s' : Startup} {marks : List Happening}, Stepped s s' marks →
            .written p ∉ marks := by
          intro s' marks h
          cases h <;> simp
        exact absurd hnow (hsilent (step_cases s))
      · exact ih hlater

/-- The first pass is complete, or still to be completed. -/
def Startup.IsSteady (s : Startup) : Prop :=
  s.watcher.isReady = true ∨ s.watcher.task = .waiting ∨ s.watcher.task = .subscribed

/-- **A first pass that is not completed has failed**, and the failure is told. -/
theorem Run.steady_or_failed (h : Run s marks s') (hs : s.IsSteady) :
    s'.IsSteady ∨ ∃ f, .emitted (.failure f) ∈ marks := by
  have hstep : ∀ {s s' : Startup} {marks : List Happening}, s.IsSteady → Stepped s s' marks →
      s'.IsSteady ∨ ∃ f, .emitted (.failure f) ∈ marks := by
    intro s s' marks hs h
    cases h with
    | rested => exact Or.inl hs
    | subscribed _ => exact Or.inl (Or.inr (Or.inr rfl))
    | looked h _ _ => exact Or.inl (Or.inr (Or.inr h))
    | told h _ _ => exact Or.inl (Or.inr (Or.inr h))
    | completed => exact Or.inl (Or.inl rfl)
    | unscanned | failed => exact Or.inr ⟨_, List.mem_cons_self⟩
    | heard h _ | ended h =>
        rcases hs with hready | hwaiting | hsubscribed
        · exact Or.inl (Or.inl hready)
        · cases h.symm.trans hwaiting
        · cases h.symm.trans hsubscribed
  induction h with
  | done => exact Or.inl hs
  | edit _ _ ih =>
      rcases ih hs with hsteady | ⟨f, hf⟩
      · exact Or.inl hsteady
      · exact Or.inr ⟨f, List.mem_append_right _ hf⟩
  | step _ ih =>
      rcases hstep hs (step_cases _) with hsteady | ⟨f, hf⟩
      · rcases ih hsteady with hlater | ⟨f, hf⟩
        · exact Or.inl hlater
        · exact Or.inr ⟨f, List.mem_append_right _ hf⟩
      · exact Or.inr ⟨f, List.mem_append_left _ hf⟩

/-- Every change of a file after the subscription is reported in some batch that is received after
    the change. -/
def AllReported (p : Path) (marks : List Happening) : Prop :=
  ∀ before after, marks = before ++ .written p :: after → .subscribed ∈ before →
    ∃ batch, .received batch ∈ after ∧ ∃ r ∈ batch, r.path = p.text

/-- What is in a list is in it for the last time somewhere. -/
theorem exists_last_of_mem {α : Type} {a : α} {xs : List α} (h : a ∈ xs) :
    ∃ before after, xs = before ++ a :: after ∧ a ∉ after := by
  obtain ⟨after, before, heq, hnot⟩ := List.eq_append_cons_of_mem (List.mem_reverse.mpr h)
  refine ⟨before.reverse, after.reverse, ?_, fun hmem => hnot (List.mem_reverse.mp hmem)⟩
  rw [← List.reverse_reverse xs, heq, List.reverse_append, List.reverse_cons, List.append_assoc,
    List.singleton_append]

/-- **After the last change of a file an event tells of it**: one that adds the file, or that of a
    report that was received. -/
def ToldAfterwards (p : Path) (marks : List Happening) : Prop :=
  ∃ before e after, marks = before ++ .emitted e :: after ∧ .written p ∉ after ∧ e.path = some p
    ∧ (e = .add p ∨ ∃ batch, .received batch ∈ before ∧ ∃ r ∈ batch, e = r.event)

/-- A file that changes after the subscription is told of by a report. -/
theorem Run.told_of_reported {before : List Happening} (h : Run s marks s') (hs : s.At cwd c)
    (hp : Accepted cwd c p) (hwritten : p.IsWritten)
    (hreported : AllReported p (before ++ .subscribed :: marks)) (hlater : .written p ∈ marks) :
    ToldAfterwards p (before ++ .subscribed :: marks) := by
  obtain ⟨early, late, rfl, hlast⟩ := exists_last_of_mem hlater
  obtain ⟨batch, hbatch, r, hr, hpath⟩ :=
    hreported (before ++ .subscribed :: early) late (by simp) (by simp)
  obtain ⟨front, back, rfl⟩ := List.append_of_mem hbatch
  have haccepted : c.reports? cwd r.path = some true := by rw [hpath, hp.filter]
  have htold := h.answered hs (early ++ .written p :: front) batch back (by simp) r hr haccepted
  obtain ⟨middle, rest, rfl⟩ := List.append_of_mem htold
  refine ⟨before ++ .subscribed :: (early ++ .written p :: (front ++ .received batch :: middle)),
    r.event, rest, by simp, fun hmem => hlast (by simp [hmem]), ?_,
    Or.inr ⟨batch, by simp, r, hr, rfl⟩⟩
  rw [Report.event, hpath, Path.ofText_text hwritten]

/-- A file that does not change after the subscription is told of by the scan. -/
theorem Run.told_of_awaits {before : List Happening} (hc : cwd.IsStart) (hconfig : c.IsWritten)
    (hp : Accepted cwd c p) (horigin : p.origin = .root) (h : Run s marks s') (hs : s.At cwd c)
    (ha : Awaits p s) (hready : s'.watcher.isReady = true) (hkept : .deleted p ∉ marks)
    (hstill : .written p ∉ marks) : ToldAfterwards p (before ++ .subscribed :: marks) := by
  have hadded := h.added hc hconfig hp horigin hs ha hready hkept
  obtain ⟨front, back, rfl⟩ := List.append_of_mem hadded
  refine ⟨before ++ .subscribed :: front, .add p, back, by simp, fun hmem => hstill ?_, rfl,
    Or.inl rfl⟩
  exact List.mem_append_right _ (List.mem_cons_of_mem _ hmem)

/-- **No query file is missed.**  Whatever other programs do while a watcher begins: if a file that
    some pattern leads to and the filter accepts is there in the beginning, or is written at any time,
    and is never deleted, then, once the first pass is complete, an event for it comes after its
    last change, as long as all its changes after the subscription are reported.  A first pass that is
    not complete is under way, or its failure is told. -/
theorem nothing_missed {feed : Feed} (hc : world.cwd.IsStart) (hconfig : c.IsWritten)
    (ht : world.tree.Sound) (h : Run (.waiting c feed world) marks s)
    (hp : Accepted world.cwd c p)
    (hthere : (world.tree.octets? p.parts).isSome = true ∨ .written p ∈ marks)
    (hkept : .deleted p ∉ marks) (hreported : AllReported p marks) :
    s.watcher.pending = marks.filterMap Happening.event?
      ∧ (s.watcher.isReady = true → ToldAfterwards p marks)
      ∧ (s.watcher.isReady = false → s.watcher.task = .waiting ∨ s.watcher.task = .subscribed
        ∨ ∃ f, .emitted (.failure f) ∈ marks) := by
  have hstart : (Startup.waiting c feed world).At world.cwd c := ⟨ht, rfl, rfl⟩
  -- patterns lead to files below the search directory, and its path is a full one
  have hsearch : (c.resolvedSearch world.cwd).IsPlace :=
    hc.join ((hc.join hconfig.baseDir).written.join hconfig.searchDir)
  have horigin : p.origin = .root := by
    obtain ⟨_, _, _, names, _, _, rfl⟩ := hp.leads
    exact hsearch.origin
  refine ⟨h.pending, fun hready => ?_, fun hlate => ?_⟩
  · obtain ⟨before, middle, after, rfl, hrun, hmiddle, hawaits⟩ :=
      h.exists_subscribed hstart rfl rfl rfl hready
    -- the last change comes after the subscription, or else the scan sees the file as it stays
    by_cases hlater : .written p ∈ after
    · obtain ⟨t, hsound, hfile⟩ := hrun.exists_there hlater
      obtain ⟨octets, hoctets⟩ := Option.isSome_iff_exists.mp hfile
      -- a file that was there has a path that is read as it is written
      have hwritten : p.IsWritten := fun n hn => ((hsound.opened_of_file hoctets).2.2 n hn).1
      exact hrun.told_of_reported hmiddle hp hwritten hreported hlater
    · have hbefore : (world.tree.octets? p.parts).isSome = true ∨ .written p ∈ before :=
        hthere.imp_right fun hmem => by simpa [hlater] using hmem
      have hkeptBefore : .deleted p ∉ before := fun hmem => hkept (List.mem_append_left _ hmem)
      have hkeptAfter : .deleted p ∉ after := fun hmem =>
        hkept (List.mem_append_right _ (List.mem_cons_of_mem _ hmem))
      exact hrun.told_of_awaits hc hconfig hp horigin hmiddle
        (hawaits p horigin hkeptBefore hbefore) hready hkeptAfter hlater
  · rcases h.steady_or_failed (Or.inr (Or.inl rfl)) with (hready | hearly) | hfailed
    · cases hlate.symm.trans hready
    · exact hearly.elim Or.inl fun hsubscribed => Or.inr (Or.inl hsubscribed)
    · exact Or.inr (Or.inr hfailed)

/-- A file that comes to the small project. -/
def newcomer : Path := ⟨.root, ["b", "src", "n.gql"]⟩

/-- The small project with that file. -/
def grownTree : FileTree :=
  (smallWorld "query Q{a}").tree.put newcomer.parts (.file (encodeUtf8 "query N{a}".toList))

/-- Its watcher is started; the feed will report the file. -/
def newcomerStart : Startup :=
  .waiting smallConfig ⟨[[⟨.added, newcomer.text⟩]], .stays⟩ (smallWorld "query Q{a}")

/-- The scan is over when the file comes. -/
def newcomerMiddle : Startup := newcomerStart.step.1.step.1.edit grownTree

/-- What happens in the meantime. -/
def newcomerMarks : List Happening :=
  [.subscribed, .written newcomer, .emitted (.add smallFile), .emitted .ready,
    .received [⟨.added, newcomer.text⟩], .emitted (.add newcomer)]

theorem newcomer_facts :
    newcomerStart.step.2 ++ (newcomerStart.step.1.step.2 ++ (changes [newcomer] []
        ++ (newcomerMiddle.step.2 ++ (newcomerMiddle.step.1.step.2
          ++ (newcomerMiddle.step.1.step.1.step.2 ++ []))))) = newcomerMarks
      ∧ newcomerMiddle.step.1.step.1.step.1.watcher.isReady = true
      ∧ ((newcomerStart.world.tree.entries.map Prod.fst).Nodup
        ∧ (∀ e ∈ newcomerStart.world.tree.entries, Opened newcomerStart.world.tree e.1.dropLast)
        ∧ ∀ e ∈ newcomerStart.world.tree.entries, ∀ n ∈ e.1, Path.IsName n ∧ n ≠ "..")
      ∧ ((grownTree.entries.map Prod.fst).Nodup
        ∧ (∀ e ∈ grownTree.entries, Opened grownTree e.1.dropLast)
        ∧ ∀ e ∈ grownTree.entries, ∀ n ∈ e.1, Path.IsName n ∧ n ≠ "..")
      ∧ newcomerStart.world.tree.octets? newcomer.parts = none
      ∧ IsSinglePart ".gql"
      ∧ fitsName (namePieces ".gql") "n.gql".toList = true
      ∧ newcomer = filePath (smallConfig.resolvedSearch newcomerStart.world.cwd) ["n.gql"]
      ∧ smallConfig.reports? newcomerStart.world.cwd newcomer.text = some true := by
  decide +kernel

/-- A new file is all that changes. -/
theorem edited_grownTree : Edited (smallWorld "query Q{a}").tree grownTree [newcomer] [] := by
  obtain ⟨-, -, -, ⟨hunique, hopened, hnamed⟩, habsent, -⟩ := newcomer_facts
  have hsame (place : List String) (hne : place ≠ newcomer.parts) :
      grownTree.octets? place = (smallWorld "query Q{a}").tree.octets? place :=
    octets?_congr (entry?_put_of_ne _ hne _)
  refine ⟨⟨hunique, hopened, hnamed⟩, fun p hp => ?_, fun place octets hafter hbefore => ?_,
    fun place hbefore hafter => ?_⟩
  · obtain rfl := List.mem_singleton.mp hp
    have hentry : grownTree.entry? newcomer.parts = some _ := entry?_put_self _ (by decide) _
    rw [octets?_eq_some.mpr hentry]
    rfl
  · by_cases hplace : place = newcomer.parts
    · rw [hplace]
      exact List.mem_cons_self
    · exact absurd ((hsame place hplace).symm.trans hafter) hbefore
  · by_cases hplace : place = newcomer.parts
    · rw [hplace] at hbefore
      cases hbefore.symm.trans (congrArg Option.isSome habsent)
    · rw [hsame place hplace] at hafter
      rw [hafter] at hbefore
      cases hbefore

/-- The file comes after the scan and before the pass is complete: its report tells of it. -/
theorem nothing_missed_newcomer :
    (∃ s, Run newcomerStart newcomerMarks s ∧ s.watcher.isReady = true)
      ∧ Accepted newcomerStart.world.cwd smallConfig newcomer
      ∧ .written newcomer ∈ newcomerMarks ∧ .deleted newcomer ∉ newcomerMarks
      ∧ AllReported newcomer newcomerMarks ∧ ToldAfterwards newcomer newcomerMarks := by
  obtain ⟨hmarks, hready, ⟨hunique, hopened, hnamed⟩, -, -, hsingle, hfits, hplace, hfilter⟩ :=
    newcomer_facts
  have hrun : Run newcomerStart newcomerMarks newcomerMiddle.step.1.step.1.step.1 := by
    rw [← hmarks]
    have hlast : Run newcomerMiddle _ _ := .step (.step (.step (.done _)))
    exact .step (.step (.edit edited_grownTree hlast))
  have haccepted : Accepted newcomerStart.world.cwd smallConfig newcomer := by
    have hleads : Leads [.directories, .name (namePieces ".gql")] ([] ++ ["n.gql"]) :=
      .directories (List.cons_ne_nil _ _) (.name hfits .here)
    exact ⟨⟨_, List.mem_cons_self, _, _, patternParts?_extension hsingle, hleads, hplace⟩, hfilter⟩
  have hwritten : .written newcomer ∈ newcomerMarks := by decide
  have hkept : .deleted newcomer ∉ newcomerMarks := by decide
  have hreported : AllReported newcomer newcomerMarks := by
    intro before after heq _
    have hsplit : newcomerMarks = [.subscribed] ++ .written newcomer :: newcomerMarks.drop 2 := rfl
    rw [hsplit] at heq
    obtain ⟨-, -, rfl⟩ := (List.append_cons_inj_of_notMem (by decide) (by decide)).mp heq
    exact ⟨[⟨.added, newcomer.text⟩], by decide, _, List.mem_cons_self, rfl⟩
  have htold := (nothing_missed (isStart_smallWorld _) isWritten_smallConfig
    ⟨hunique, hopened, hnamed⟩ hrun haccepted (Or.inr hwritten) hkept hreported).2.1 hready
  exact ⟨⟨_, hrun, hready⟩, haccepted, hwritten, hkept, hreported, htold⟩

end QueryTypings.Watch
