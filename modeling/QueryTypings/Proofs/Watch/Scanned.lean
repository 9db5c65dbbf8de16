/-
  What a watcher tells of: the files of a scan, which are there, and the reports of a batch.

  1. **Reports** — the reports that matter are those of the batch that the filter accepts, each
     once, sorted by path (`relevant?_eq`).

  2. **Order** — sorting is stable, and reports about one path stay in the order of the batch
     (`relevant?_of_path`).  A batch is a set, so this order means nothing, and events about one file
     may come in any order.

  3. **Ways** — a pattern may lead up as well as down, so the names by which it led to a place need
     not be those of the place; but they come to it when two dots are taken back (`namedPlace`).

  4. **Selection** — each step of a pattern keeps this (`select_sound`).

  5. **Scan** — so the path of each file that is found is absolute (`scan_isAbsolute`) and denotes
     the place of a file (`scan_isFile`).
-/
import QueryTypings.Proofs.Path.Normal
import QueryTypings.Proofs.Result
import QueryTypings.Watch.Watcher
import Mathlib.Data.List.Sort
import Mathlib.Data.String.Basic

namespace QueryTypings.Watch

open QueryTypings.FileTree

/-! ## Reports -/

/-- Where every element can be judged, those judged well are the elements of a good judgement. -/
theorem filter_of_mapM_judged {α : Type} (judge : α → Option Bool) {xs : List α}
    {judged : List (α × Bool)} (h : xs.mapM (fun x => (judge x).map (x, ·)) = some judged) :
    (judged.filter fun j => j.2).map (fun j => j.1) = xs.filter fun x => judge x == some true := by
  induction xs generalizing judged with
  | nil =>
      obtain rfl := Option.some.inj h
      rfl
  | cons x r ih =>
      rw [List.mapM_cons] at h
      obtain ⟨j, hj, h⟩ := Option.bind_eq_some_iff.mp h
      obtain ⟨rest, hrest, h⟩ := Option.bind_eq_some_iff.mp h
      obtain rfl := Option.some.inj h
      obtain ⟨verdict, hverdict, rfl⟩ := Option.map_eq_some_iff.mp hj
      rw [List.filter_cons, List.filter_cons, hverdict, ← ih hrest]
      cases verdict with
      | false => rfl
      | true => rfl

/-- **The reports that matter.** -/
theorem relevant?_eq {cwd : Path} {c : Config} {batch reports : List Report}
    (h : relevant? cwd c batch = some reports) :
    reports = (batch.filter fun r => c.reports? cwd r.path == some true).eraseDups.mergeSort
      fun a b => decide (a.path ≤ b.path) := by
  unfold relevant? at h
  obtain ⟨judged, hjudged, hreports⟩ := Option.map_eq_some_iff.mp h
  have hkept := filter_of_mapM_judged (fun r : Report => c.reports? cwd r.path) hjudged
  rw [hkept] at hreports
  exact hreports.symm

instance : LawfulBEq Change where
  rfl {c} := by cases c <;> rfl
  eq_of_beq {c d} h := by
    cases c <;> cases d <;> first
      | rfl
      | cases h

instance : LawfulBEq Report where
  rfl {r} := by
    show (r.change == r.change && r.path == r.path) = true
    rw [beq_self_eq_true, beq_self_eq_true]
    rfl
  eq_of_beq {r s} h := by
    obtain ⟨c, p⟩ := r
    obtain ⟨d, q⟩ := s
    have hboth : (c == d && p == q) = true := h
    obtain ⟨hc, hp⟩ := Bool.and_eq_true_iff.mp hboth
    rw [eq_of_beq hc, eq_of_beq hp]

theorem mem_of_relevant? {cwd : Path} {c : Config} {batch reports : List Report} {r : Report}
    (h : relevant? cwd c batch = some reports) (hr : r ∈ reports) : r ∈ batch := by
  rw [relevant?_eq h, List.mem_mergeSort, List.mem_eraseDups] at hr
  exact (List.mem_filter.mp hr).1

/-! ## Order -/

/-- **The reports that matter are sorted by path.** -/
theorem relevant?_sorted {cwd : Path} {c : Config} {batch reports : List Report}
    (h : relevant? cwd c batch = some reports) : reports.Pairwise fun a b => a.path ≤ b.path := by
  rw [relevant?_eq h]
  refine (List.pairwise_mergeSort (fun a b c hab hbc => ?_) (fun a b => ?_) _).imp of_decide_eq_true
  · exact decide_eq_true (le_trans (of_decide_eq_true hab) (of_decide_eq_true hbc))
  · rw [Bool.or_eq_true, decide_eq_true_iff, decide_eq_true_iff]
    exact le_total _ _

/-- Elements with one key keep their order. -/
theorem filter_mergeSort {α : Type} (key : α → String) (xs : List α) (x : String) :
    (xs.mergeSort fun a b => decide (key a ≤ key b)).filter (fun a => decide (key a = x))
      = xs.filter fun a => decide (key a = x) := by
  have hkey : ∀ a ∈ xs.filter (fun a => decide (key a = x)), key a = x := fun a ha =>
    of_decide_eq_true (List.mem_filter.mp ha).2
  have hsorted : (xs.filter fun a => decide (key a = x)).Pairwise
      fun a b => decide (key a ≤ key b) = true := by
    rw [List.pairwise_iff_forall_sublist]
    intro a b hab
    have hsub := hab.subset
    rw [hkey a (hsub List.mem_cons_self), hkey b (hsub (List.mem_cons_of_mem _ List.mem_cons_self))]
    exact decide_eq_true (le_refl x)
  have hsub : (xs.filter fun a => decide (key a = x)).Sublist
      (xs.mergeSort fun a b => decide (key a ≤ key b)) := by
    refine List.sublist_mergeSort (fun a b c hab hbc => ?_) (fun a b => ?_) hsorted
      List.filter_sublist
    · exact decide_eq_true (le_trans (of_decide_eq_true hab) (of_decide_eq_true hbc))
    · rw [Bool.or_eq_true, decide_eq_true_iff, decide_eq_true_iff]
      exact le_total _ _
  have hinside := hsub.filter fun a => decide (key a = x)
  rw [List.filter_eq_self.mpr fun a ha => decide_eq_true (hkey a ha)] at hinside
  -- both are rearrangements of one list, so one cannot be longer
  have hlength := ((List.mergeSort_perm xs fun a b => decide (key a ≤ key b)).filter
    fun a => decide (key a = x)).length_eq
  exact (hinside.eq_of_length hlength.symm).symm

/-- **Reports about one path stay in the order of the batch.** -/
theorem relevant?_of_path {cwd : Path} {c : Config} {batch reports : List Report}
    (h : relevant? cwd c batch = some reports) (path : String) :
    reports.filter (fun r => decide (r.path = path))
      = ((batch.filter fun r => c.reports? cwd r.path == some true).eraseDups).filter
        fun r => decide (r.path = path) := by
  rw [relevant?_eq h]
  exact filter_mergeSort Report.path _ path

/-! ## Ways -/

/-- The place to which names lead from the root, where two dots take back what comes before them. -/
def namedPlace (names : List String) : List String :=
  (names.foldl (Path.resolvePart true) []).reverse

theorem resolved_eq_namedPlace (cwd : Path) (names : List String) :
    Path.resolved cwd ⟨.root, names⟩ = ⟨.root, namedPlace names⟩ := rfl

theorem namedPlace_of_noDots {names : List String} (h : ".." ∉ names) : namedPlace names = names := by
  rw [namedPlace, Path.foldl_resolvePart h, List.append_nil, List.reverse_reverse]

theorem namedPlace_append {names more : List String} (h : ".." ∉ more) :
    namedPlace (names ++ more) = namedPlace names ++ more := by
  rw [namedPlace, List.foldl_append, Path.foldl_resolvePart h, List.reverse_append,
    List.reverse_reverse]
  rfl

/-- Two dots lead back. -/
theorem namedPlace_dots (names : List String) :
    namedPlace (names ++ [".."]) = (namedPlace names).dropLast := by
  have hdots := (@Path.foldl_resolvePart_root names [] List.not_mem_nil).1
  rw [namedPlace, namedPlace, List.foldl_append]
  cases hfold : names.foldl (Path.resolvePart true) [] with
  | nil => rfl
  | cons last rest =>
      rw [hfold] at hdots
      have hlast : last ≠ ".." := fun heq => hdots (heq ▸ List.mem_cons_self)
      have hstep : Path.resolvePart true (last :: rest) ".." = rest := by
        unfold Path.resolvePart
        simp [hlast]
      rw [List.foldl_cons, List.foldl_nil, hstep, List.reverse_cons, List.dropLast_concat]

/-! ## Selection -/

/-- No name in the tree is two dots. -/
def NoDots (t : FileTree) : Prop := ∀ e ∈ t.entries, ".." ∉ e.1

instance (t : FileTree) : Decidable (NoDots t) :=
  inferInstanceAs (Decidable (∀ e ∈ t.entries, ".." ∉ e.1))

/-- The names of a spot come to its place. -/
def Spot.Sound (s : Spot) : Prop := s.place = namedPlace s.names

variable {t : FileTree}

/-- What lies below a place has names without two dots. -/
theorem noDots_below (ht : NoDots t) {place : List String} {e : List String × Entry}
    (h : e ∈ t.below place) : ".." ∉ e.1 := by
  rw [FileTree.below, List.mem_filterMap] at h
  obtain ⟨o, ho, h⟩ := h
  split at h
  · rename_i n r hdrop
    obtain rfl := Option.some.inj h
    have hplace := Path.dropFront?_eq_some_iff.mp hdrop
    exact fun hm => ht o ho (hplace ▸ List.mem_append_right place hm)
  · cases h

theorem noDots_children (ht : NoDots t) {place : List String} {c : String × Entry}
    (h : c ∈ t.children place) : ".." ∉ [c.1] := by
  rw [children, List.mem_filterMap] at h
  obtain ⟨e, he, h⟩ := h
  split at h
  · rename_i name hname
    obtain rfl := Option.some.inj h
    rw [← hname]
    exact noDots_below ht he
  · cases h

theorem noDots_directoriesBelow (ht : NoDots t) {place d : List String}
    (h : d ∈ t.directoriesBelow place) : ".." ∉ d := by
  rw [directoriesBelow, List.mem_filterMap] at h
  obtain ⟨e, he, h⟩ := h
  split at h
  · cases h
  · obtain rfl := Option.some.inj h
    exact noDots_below ht he

theorem Spot.Sound.down {s : Spot} (h : s.Sound) {names : List String} (hnames : ".." ∉ names) :
    (s.down names).Sound := by
  show s.place ++ names = namedPlace (s.names ++ names)
  rw [namedPlace_append hnames, h]

/-- A single name leads one step down, or two dots one step up. -/
theorem follow_single {place p : List String} {name : String} (h : t.follow place [name] = .ok p) :
    p = if name = ".." then place.dropLast else place ++ [name] := by
  unfold follow at h
  split at h
  · cases h
  · cases h
  · split at h
    · rename_i hname
      unfold follow at h
      rw [if_pos hname]
      exact (Except.ok.inj h).symm
    · rename_i hname
      split at h
      · cases h
      · unfold follow at h
        rw [if_neg hname]
        exact (Except.ok.inj h).symm

theorem next?_sound {s next : Spot} {e : Entry} {name : String} (hs : s.Sound)
    (h : s.next? t name = .ok (some (next, e))) : next.Sound := by
  unfold Spot.next? at h
  simp only at h
  split at h
  · rename_i p hfound
    obtain rfl := Option.some.inj (Except.ok.inj h)
    split at hfound
    · cases hfound
    · obtain ⟨place, hfollow, hfound⟩ := ok_of_bind_ok hfound
      obtain ⟨entry, _, hfound⟩ := ok_of_bind_ok hfound
      obtain ⟨rfl, rfl⟩ := Prod.mk.inj (Except.ok.inj hfound)
      rw [Spot.Sound, follow_single hfollow, hs]
      -- the names grow by two dots where the place shrinks
      by_cases hname : name = ".."
      · rw [if_pos hname, hname, namedPlace_dots]
      · rw [if_neg hname, namedPlace_append]
        exact fun hm => hname (List.mem_singleton.mp hm).symm
  · split at h
    · cases h
    · cases h

instance : LawfulBEq Spot where
  rfl {s} := by
    show (s.names == s.names && s.place == s.place) = true
    rw [beq_self_eq_true, beq_self_eq_true]
    rfl
  eq_of_beq {s r} h := by
    obtain ⟨names, place⟩ := s
    obtain ⟨names', place'⟩ := r
    have hboth : (names == names' && place == place') = true := h
    obtain ⟨hnames, hplace⟩ := Bool.and_eq_true_iff.mp hboth
    rw [eq_of_beq hnames, eq_of_beq hplace]

/-- **Each step of a pattern leads to the place that its names come to.** -/
theorem select_sound (ht : NoDots t) {ps : List PatternPart} {s : Spot} {spots : List Spot}
    (hs : s.Sound) (h : select t ps s = .ok spots) : ∀ found ∈ spots, found.Sound := by
  induction ps generalizing s spots with
  | nil =>
      unfold select at h
      obtain rfl := Except.ok.inj h
      intro found hfound
      rw [List.mem_singleton.mp hfound]
      exact hs
  | cons part ps ih =>
      cases part with
      | exactly name =>
          unfold select at h
          obtain ⟨next?, hnext, h⟩ := ok_of_bind_ok h
          split at h
          · rename_i next e
            split at h
            · exact ih (next?_sound hs hnext) h
            · obtain rfl := Except.ok.inj h
              intro found hfound
              cases hfound
          · obtain rfl := Except.ok.inj h
            intro found hfound
            cases hfound
      | name p =>
          unfold select at h
          obtain ⟨lists, hlists, h⟩ := ok_of_bind_ok h
          obtain rfl := Except.ok.inj h
          intro found hfound
          obtain ⟨list, hlist, hfound⟩ := List.mem_flatten.mp hfound
          obtain ⟨c, hc, hselect⟩ := (exists_of_mapM_ok hlists).2 list hlist
          have hdots := noDots_children ht (List.mem_filter.mp hc).1
          exact ih (hs.down hdots) hselect found hfound
      | directories =>
          unfold select at h
          obtain ⟨lists, hlists, h⟩ := ok_of_bind_ok h
          obtain rfl := Except.ok.inj h
          intro found hfound
          obtain ⟨list, hlist, hfound⟩ := List.mem_flatten.mp (List.mem_eraseDups.mp hfound)
          obtain ⟨d, hd, hselect⟩ := (exists_of_mapM_ok hlists).2 list hlist
          have hdots : ".." ∉ d := by
            rcases List.mem_cons.mp hd with rfl | hd
            · exact List.not_mem_nil
            · exact noDots_directoriesBelow ht hd
          exact ih (hs.down hdots) hselect found hfound

/-! ## Scan -/

theorem scan_isAbsolute {world : World} {c : Config} {paths : List Path}
    (h : scan world c = .ok paths) : ∀ q ∈ paths, q.isAbsolute = true := by
  rw [scan] at h
  obtain ⟨found, _, h⟩ := ok_of_bind_ok h
  obtain rfl := Except.ok.inj h
  intro q hq
  obtain ⟨names, _, rfl⟩ := List.mem_map.mp (List.mem_filter.mp hq).1
  rfl

theorem filesOf_isFile {world : World} (ht : NoDots world.tree) {directory : Path}
    (hd : ".." ∉ directory.parts) {pattern : String} {found : List (List String)}
    (h : filesOf world directory pattern = .ok found) :
    ∀ names ∈ found, (world.tree.octets? (namedPlace names)).isSome = true := by
  unfold filesOf at h
  split at h
  · cases h
  · cases h
  · obtain rfl := Except.ok.inj h
    intro names hnames
    cases hnames
  · split at h
    · cases h
    · rename_i spots hspots
      obtain rfl := Except.ok.inj h
      intro names hnames
      obtain ⟨spot, hspot, rfl⟩ := List.mem_map.mp hnames
      obtain ⟨hmem, hfile⟩ := List.mem_filter.mp hspot
      have hstart : Spot.Sound ⟨directory.parts, directory.parts⟩ := (namedPlace_of_noDots hd).symm
      have hsound := select_sound ht hstart hspots spot hmem
      rw [← hsound]
      exact hfile

/-- **The paths that a scan finds denote files.** -/
theorem scan_isFile {world : World} {c : Config} {paths : List Path} (ht : NoDots world.tree)
    (hcwd : world.cwd.isAbsolute = true) (h : scan world c = .ok paths) :
    ∀ q ∈ paths, (world.tree.octets? (Path.resolved world.cwd q).parts).isSome = true := by
  rw [scan] at h
  obtain ⟨found, hfound, h⟩ := ok_of_bind_ok h
  obtain rfl := Except.ok.inj h
  intro q hq
  obtain ⟨names, hnames, rfl⟩ := List.mem_map.mp (List.mem_filter.mp hq).1
  rw [List.mem_mergeSort, List.mem_eraseDups] at hnames
  obtain ⟨list, hlist, hnames⟩ := List.mem_flatten.mp hnames
  obtain ⟨pattern, _, hfiles⟩ := (exists_of_mapM_ok hfound).2 list hlist
  rw [resolved_eq_namedPlace]
  exact filesOf_isFile ht (Path.resolved_noDots hcwd) hfiles names hnames

end QueryTypings.Watch
