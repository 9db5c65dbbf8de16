/-
  A change of a tree that others have changed meanwhile.

  1. **Names** — one of the names for the other file is always free (`freeName?_ne_none`).

  2. **Putting** — so a text is put in a file unless something is in the way that the names and the
     tree show (`putText_putDown`).

  3. **Alike** — two trees are alike for a place if it holds the same in both, and on the way to it
     the second one has what the first one has, or directories where the first one has nothing
     (`Alike`).  In such trees a text is put in the file alike, and what comes of it in the first
     tree comes of it in the second one, and nothing else (`putText_alike`).

  4. **Removing** — the file is removed alike too (`removeFile_alike`), but for one thing: where the
     way to it is missing, names that are too long are not looked at.  They are once the way is
     there.
-/
import QueryTypings.Proofs.FileTree.Ways
import QueryTypings.Proofs.Project.Writing
import Mathlib.Data.List.Nodup
import Mathlib.Data.List.Perm.Subperm

namespace QueryTypings.FileTree

open QueryTypings.Text

variable {t t' : FileTree} {p : Passage} {place names q : List String}

/-! ## Names for the other file -/

theorem eightDigits_injective : Function.Injective eightDigits := by
  intro m n h
  have hvalue : ∀ k, Nat.ofDigitChars 10 (eightDigits k).toList 0 = k := by
    intro k
    rw [eightDigits, String.toList_ofList, Nat.ofDigitChars_append,
      Nat.ofDigitChars_replicate_zero, Nat.mul_zero]
    show Nat.ofDigitChars 10 k.repr.toList 0 = k
    rw [Nat.toList_repr, Nat.ofDigitChars_ten_toDigits]
  rw [← hvalue m, ← hvalue n, h]

theorem temporaryName_injective (name : String) : Function.Injective (temporaryName name) := by
  intro m n h
  have hlist := congrArg String.toList h
  simp only [temporaryName, String.toList_append, List.append_cancel_left_eq,
    List.append_cancel_right_eq] at hlist
  exact eightDigits_injective (String.toList_injective hlist)

variable {directory : List String} {name : String}

theorem mem_entries_of_entry? (hq : q ≠ []) (h : t.entry? q ≠ none) :
    q ∈ t.entries.map Prod.fst := by
  rw [entry?_of_ne_nil t hq, Ne, Option.map_eq_none_iff] at h
  obtain ⟨e, he⟩ := Option.ne_none_iff_exists'.mp h
  have heq : e.1 = q := by simpa using List.find?_some he
  exact heq ▸ List.mem_map_of_mem (List.mem_of_find?_eq_some he)

theorem taken_of_freeName? {fuel number : Nat}
    (h : t.freeName? directory name fuel number = none) :
    ∀ k < fuel, t.entry? (directory ++ [temporaryName name (number + k)]) ≠ none := by
  induction fuel generalizing number with
  | zero => exact fun k hk => absurd hk (Nat.not_lt_zero k)
  | succ fuel ih =>
      simp only [freeName?] at h
      split at h
      · cases h
      · rename_i htaken
        intro k hk
        cases k with
        | zero => exact fun hnone => htaken (Option.isNone_iff_eq_none.mpr hnone)
        | succ k =>
            have := ih h k (Nat.lt_of_succ_lt_succ hk)
            rwa [Nat.add_right_comm, Nat.add_assoc] at this

/-- **A name for the other file is free**, as there are more of them than places. -/
theorem freeName?_ne_none (t : FileTree) (directory : List String) (name : String) :
    t.freeName? directory name (t.entries.length + 1) 0 ≠ none := by
  intro h
  have htaken := taken_of_freeName? h
  have hnodup : ((List.range (t.entries.length + 1)).map
      fun k => directory ++ [temporaryName name k]).Nodup :=
    List.Nodup.map (fun m n hmn => temporaryName_injective name
      (List.singleton_inj.mp (List.append_cancel_left hmn))) List.nodup_range
  have hsubset : (List.range (t.entries.length + 1)).map
      (fun k => directory ++ [temporaryName name k]) ⊆ t.entries.map Prod.fst := by
    intro q hq
    obtain ⟨k, hk, rfl⟩ := List.mem_map.mp hq
    have := htaken k (List.mem_range.mp hk)
    rw [Nat.zero_add] at this
    exact mem_entries_of_entry? (by simp) this
  have hle := (hnodup.subperm hsubset).length_le
  rw [List.length_map, List.length_map, List.length_range] at hle
  omega

/-! ## Putting -/

/-- Why a file cannot be put in a directory that is there. -/
def bar? (t : FileTree) (directory : List String) (name : String) : Option Refusal :=
  let shape := temporaryName name 0
  if isTooLong shape || isTooLongPath (Path.mk .root (directory ++ [shape])).text then
    some .nameTooLong
  else if t.isDirectory (directory ++ [name]) then some .isDirectory
  else none

theorem bar?_congr (h : t'.entry? (directory ++ [name]) = t.entry? (directory ++ [name])) :
    t'.bar? directory name = t.bar? directory name := by
  rw [bar?, bar?, isDirectory, isDirectory, h]

theorem replaceFile_spec (octets : List Nat) (hd : t.entry? directory = some .directory)
    (h : t.replaceFile .nothing directory name octets = p) :
    p.refusal = t.bar? directory name
      ∧ p.last = if t.bar? directory name = none then t.put (directory ++ [name]) (.file octets)
        else t := by
  obtain ⟨other, hother⟩ := Option.ne_none_iff_exists'.mp (freeName?_ne_none t directory name)
  subst h
  simp only [replaceFile, hd, hother, bar?]
  split
  · exact ⟨rfl, rfl⟩
  · split
    · exact ⟨rfl, rfl⟩
    · exact ⟨rfl, rfl⟩

/-- Why a file cannot be put in its place. -/
def obstacle? (t : FileTree) (directory : List String) (name : String) : Option Refusal :=
  if isTooLongPath (Path.mk .root directory).text then some .nameTooLong
  else (t.wayDown [] directory).2.or (t.bar? directory name)

/-- The directories that are made for a file. -/
def furniture (t : FileTree) (directory : List String) : List (List String) :=
  if isTooLongPath (Path.mk .root directory).text then [] else (t.wayDown [] directory).1

/-- What comes of putting octets in a file: directories for it, and the file unless something is in
    the way. -/
structure PutDown (t : FileTree) (directory : List String) (name : String) (octets : List Nat)
    (p : Passage) : Prop where
  refusal : p.refusal = t.obstacle? directory name
  entry : ∀ q, p.last.entry? q =
    if p.refusal = none ∧ q = directory ++ [name] then some (.file octets)
    else if q ∈ t.furniture directory ∧ t.entry? q = none then some .directory
    else t.entry? q

/-- A way that is too long to be followed. -/
theorem openWay_of_long (h : isTooLongPath (Path.mk .root names).text = true) :
    t.openWay .nothing names = (⟨t, [], some .nameTooLong⟩, some ⟨.nameTooLong, names⟩) := by
  cases hback : names.reverse with
  | nil =>
      rw [List.reverse_eq_nil_iff.mp hback] at h
      exact absurd h (by decide)
  | cons name above =>
      have hnames : (name :: above).reverse = names := by rw [← hback, List.reverse_reverse]
      have hlocate : t.locate names = .error .nameTooLong := by
        rw [locate, h]
        rfl
      simp only [openWay, hback, openWayUp, hnames, hlocate, openLast, Passage.stop]

theorem putText_of_refused {file : Path} {text : String} {o : Obstacle}
    (h : t.openWay .nothing file.parent.parts = (p, some o)) :
    Writer.putText .nothing t file text = p := by
  rw [Writer.putText, h]

/-- **Putting a text in a file** without trouble. -/
theorem putText_putDown (hr : Rooted t []) {file : Path} (hdots : ".." ∉ file.parent.parts)
    (text : String) :
    PutDown t file.parent.parts file.name (encodeUtf8 text.toList)
      (Writer.putText .nothing t file text) := by
  cases hlong : isTooLongPath (Path.mk .root file.parent.parts).text with
  | true =>
      rw [putText_of_refused (openWay_of_long hlong)]
      have hobstacle : t.obstacle? file.parent.parts file.name = some .nameTooLong := by
        rw [obstacle?, hlong]
        rfl
      refine ⟨hobstacle.symm, fun q => ?_⟩
      rw [if_neg fun h => (by cases h.1), furniture, hlong,
        if_neg fun h => absurd h.1 List.not_mem_nil]
  | false =>
      have hobstacle : t.obstacle? file.parent.parts file.name
          = (t.wayDown [] file.parent.parts).2.or (t.bar? file.parent.parts file.name) := by
        rw [obstacle?, hlong]
        rfl
      have hfurniture : t.furniture file.parent.parts = (t.wayDown [] file.parent.parts).1 := by
        rw [furniture, hlong]
        rfl
      have hspec {p : Passage} {o : Option Obstacle}
          (h : t.openWay .nothing file.parent.parts = (p, o)) :=
        openWay_spec hr hdots (fun way hway => isTooLongPath_of_prefix hway hlong) h
      rcases hmade : t.openWay .nothing file.parent.parts with ⟨p, o⟩
      obtain ⟨hfurnished, hrefusal, hclear⟩ := hspec hmade
      cases o with
      | some o =>
          rw [putText_of_refused hmade]
          have hsome : p.refusal ≠ none := fun hnone => (by cases hclear.mpr hnone)
          obtain ⟨r, hr⟩ := Option.ne_none_iff_exists'.mp hsome
          refine ⟨?_, fun q => ?_⟩
          · rw [hobstacle, ← hrefusal, hr]
            rfl
          · rw [if_neg fun h => hsome h.1, hfurniture]
            exact hfurnished q
      | none =>
          have hway : (t.wayDown [] file.parent.parts).2 = none :=
            hrefusal.symm.trans (hclear.mp rfl)
          have hnotmem : file.parent.parts ++ [file.name] ∉ (t.wayDown [] file.parent.parts).1 :=
            concat_not_mem_wayDown
          have hbar := bar?_congr (hfurnished.of_not_mem hnotmem)
          obtain ⟨hstop, hlast⟩ :=
            replaceFile_spec (encodeUtf8 text.toList) (hfurnished.opened hway) rfl
          rw [hbar] at hstop hlast
          have hput : Writer.putText .nothing t file text
              = let q := p.last.replaceFile .nothing file.parent.parts file.name
                  (encodeUtf8 text.toList)
                { q with before := q.before ++ p.before } := by
            rw [Writer.putText, hmade]
          rw [hput]
          refine ⟨?_, fun q => ?_⟩
          · rw [hobstacle, hway]
            exact hstop
          · dsimp only
            rw [hlast, hstop, hfurniture]
            by_cases hnone : t.bar? file.parent.parts file.name = none
            · rw [if_pos hnone]
              by_cases hq : q = file.parent.parts ++ [file.name]
              · rw [if_pos ⟨hnone, hq⟩, hq, entry?_put_self _ (by simp)]
              · rw [if_neg fun h => hq h.2, entry?_put_of_ne _ hq]
                exact hfurnished q
            · rw [if_neg hnone, if_neg fun h => hnone h.1]
              exact hfurnished q

/-! ## Alike -/

/-- Trees that are alike for a place: it holds the same, and on the way to it there is the same, or
    directories where nothing was. -/
structure Alike (t t' : FileTree) (place : List String) : Prop where
  here : t'.entry? place = t.entry? place
  way : ∀ q, q <+: place →
    t'.entry? q = t.entry? q ∨ t.entry? q = none ∧ t'.entry? q = some .directory

theorem Alike.octets? (h : Alike t t' place) (hq : q <+: place) : t'.octets? q = t.octets? q := by
  rcases h.way q hq with heq | ⟨hnone, hdirectory⟩
  · exact octets?_congr heq
  · rw [octets?_of_directory hdirectory, FileTree.octets?, hnone]

theorem wayDown_congr {top : List String}
    (h : ∀ q, q <+: top ++ names → t'.octets? q = t.octets? q) :
    t'.wayDown top names = t.wayDown top names := by
  induction names generalizing top with
  | nil => rfl
  | cons n rest ih =>
      have hlonger : top ++ [n] ++ rest = top ++ n :: rest := by simp
      rw [wayDown_cons, wayDown_cons, h _ (hlonger ▸ List.prefix_append _ rest),
        ih (by rw [hlonger]; exact h)]

theorem Alike.obstacle? (h : Alike t t' (directory ++ [name])) :
    t'.obstacle? directory name = t.obstacle? directory name := by
  have hway : t'.wayDown [] directory = t.wayDown [] directory :=
    wayDown_congr fun q hq => h.octets? (List.IsPrefix.trans hq (List.prefix_append _ _))
  rw [FileTree.obstacle?, FileTree.obstacle?, hway, bar?_congr h.here]

theorem Alike.furniture (h : Alike t t' (directory ++ [name])) :
    t'.furniture directory = t.furniture directory := by
  have hway : t'.wayDown [] directory = t.wayDown [] directory :=
    wayDown_congr fun q hq => h.octets? (List.IsPrefix.trans hq (List.prefix_append _ _))
  rw [FileTree.furniture, FileTree.furniture, hway]

/-- What a change of the first tree comes to comes to the second tree too, and nothing else. -/
structure Transfers (t u t' u' : FileTree) : Prop where
  changed : ∀ q, u.entry? q ≠ t.entry? q → u'.entry? q = u.entry? q
  kept : ∀ q, u.entry? q = t.entry? q → u'.entry? q = t'.entry? q

theorem Transfers.refl (t t' : FileTree) : Transfers t t t' t' :=
  ⟨fun _ h => absurd rfl h, fun _ _ => rfl⟩

theorem mem_furniture (h : q ∈ t.furniture directory) : q <+: directory := by
  rw [FileTree.furniture] at h
  split at h
  · cases h
  · exact (mem_wayDown h).2

/-- **A text is put in a file alike** in trees that are alike for it. -/
theorem putText_alike {file : Path} (hr : Rooted t []) (hr' : Rooted t' []) (hne : file.parts ≠ [])
    (hdots : ".." ∉ file.parts) (h : Alike t t' file.parts) (text : String) :
    (Writer.putText .nothing t' file text).refusal = (Writer.putText .nothing t file text).refusal
      ∧ Transfers t (Writer.putText .nothing t file text).last
        t' (Writer.putText .nothing t' file text).last := by
  have hparent : ".." ∉ file.parent.parts := fun hm => hdots (List.dropLast_subset _ hm)
  rw [← Path.parent_append_name hne] at h
  have hput := putText_putDown hr hparent text
  have hput' := putText_putDown hr' hparent text
  have hrefusal := hput'.refusal.trans (h.obstacle?.trans hput.refusal.symm)
  -- where a directory comes in the first tree, it comes in the second one or is there
  have hmade : ∀ q, q ∈ t.furniture file.parent.parts → t.entry? q = none →
      t'.entry? q = none ∨ t'.entry? q = some .directory := fun q hq hnone =>
    (h.way q ((mem_furniture hq).trans (List.prefix_append _ _))).imp
      (fun heq => heq.trans hnone) fun hdir => hdir.2
  have hentry := hput.entry
  have hentry' := hput'.entry
  rw [hrefusal, h.furniture] at hentry'
  refine ⟨hrefusal, ⟨fun q hq => ?_, fun q hq => ?_⟩⟩
  · rw [hentry q] at hq ⊢
    rw [hentry' q]
    by_cases hfile : (Writer.putText .nothing t file text).refusal = none
        ∧ q = file.parent.parts ++ [file.name]
    · rw [if_pos hfile, if_pos hfile]
    · rw [if_neg hfile] at hq ⊢
      rw [if_neg hfile]
      by_cases hdirectory : q ∈ t.furniture file.parent.parts ∧ t.entry? q = none
      · rw [if_pos hdirectory]
        rcases hmade q hdirectory.1 hdirectory.2 with hnone | hthere
        · rw [if_pos ⟨hdirectory.1, hnone⟩]
        · rw [if_neg fun h => (by rw [hthere] at h; cases h.2), hthere]
      · rw [if_neg hdirectory] at hq
        exact absurd rfl hq
  · rw [hentry q] at hq
    rw [hentry' q]
    by_cases hfile : (Writer.putText .nothing t file text).refusal = none
        ∧ q = file.parent.parts ++ [file.name]
    · rw [if_pos hfile] at hq ⊢
      rw [hq, hfile.2, h.here]
    · rw [if_neg hfile] at hq ⊢
      refine if_neg fun hdirectory => ?_
      rcases h.way q ((mem_furniture hdirectory.1).trans (List.prefix_append _ _)) with heq | hnew
      · rw [if_pos ⟨hdirectory.1, heq.symm.trans hdirectory.2⟩, ← heq, hdirectory.2] at hq
        cases hq
      · rw [hnew.2] at hdirectory
        cases hdirectory.2

/-! ## Removing -/

/-- On a way there is the same, or directories where nothing was. -/
def Widened (t t' : FileTree) (place names : List String) : Prop :=
  ∀ q, q <+: place ++ names →
    t'.entry? q = t.entry? q ∨ t.entry? q = none ∧ t'.entry? q = some .directory

theorem Widened.rest {n : String} {rest : List String} (h : Widened t t' place (n :: rest)) :
    Widened t t' (place ++ [n]) rest := by
  have hlonger : place ++ [n] ++ rest = place ++ n :: rest := by simp
  unfold Widened
  rwa [hlonger]

/-- **A way that is not missed** leads to the same place or is refused alike. -/
theorem Widened.follow_eq (h : Widened t t' place names) (hdots : ".." ∉ names)
    (hfound : t.follow place names ≠ .error .missing) :
    t'.follow place names = t.follow place names := by
  induction names generalizing place with
  | nil => rfl
  | cons n rest ih =>
      have hn : n ≠ ".." := fun hn => hdots (hn ▸ List.mem_cons_self)
      rcases h place (List.prefix_append _ _) with heq | ⟨hnone, _⟩
      · unfold follow at hfound ⊢
        rw [heq]
        cases hentry : t.entry? place with
        | none => rfl
        | some e =>
            cases e with
            | file o => rfl
            | directory =>
                rw [hentry] at hfound
                dsimp only at hfound ⊢
                rw [if_neg hn] at hfound
                rw [if_neg hn, if_neg hn]
                by_cases hlong : isTooLong n = true
                · rw [if_pos hlong, if_pos hlong]
                · rw [if_neg hlong] at hfound
                  rw [if_neg hlong, if_neg hlong]
                  exact ih h.rest (fun hm => hdots (List.mem_cons_of_mem _ hm)) hfound
      · refine absurd ?_ hfound
        rw [follow, hnone]

/-- **A way that is missed** is missed or leads to its end, if the system allows its names. -/
theorem Widened.follow_missing (hr : Rooted t []) (h : Widened t t' place names)
    (hdots : ".." ∉ names) (hfits : Fits names)
    (hmissing : t.follow place names = .error .missing) :
    t'.follow place names = .error .missing ∨ t'.follow place names = .ok (place ++ names) := by
  induction names generalizing place with
  | nil => cases hmissing
  | cons n rest ih =>
      have hn : n ≠ ".." := fun hn => hdots (hn ▸ List.mem_cons_self)
      have hshort : ¬ isTooLong n = true := by
        rw [hfits n List.mem_cons_self]
        exact Bool.false_ne_true
      have hmore := ih h.rest (fun hm => hdots (List.mem_cons_of_mem _ hm))
        fun m hm => hfits m (List.mem_cons_of_mem _ hm)
      rw [List.append_assoc, List.singleton_append] at hmore
      have hdirectory (hd : t'.entry? place = some .directory) :
          t'.follow place (n :: rest) = t'.follow (place ++ [n]) rest := by
        rw [follow, hd]
        dsimp only
        rw [if_neg hn, if_neg hshort]
      rcases h place (List.prefix_append _ _) with heq | ⟨hnone, hd⟩
      · unfold follow at hmissing
        split at hmissing
        · rename_i hnone
          refine Or.inl ?_
          rw [follow, heq, hnone]
        · cases hmissing
        · rename_i hd
          rw [if_neg hn, if_neg hshort] at hmissing
          rw [hdirectory (heq.trans hd)]
          exact hmore hmissing
      · rw [hdirectory hd]
        cases rest with
        | nil => exact Or.inr (by rw [follow])
        | cons m rest =>
            -- what lies below is not there either
            refine hmore ?_
            cases hentry : t.entry? (place ++ [n]) with
            | none => rw [follow, hentry]
            | some e =>
                refine absurd hnone (hr.prefix_ne_none List.nil_prefix ?_
                  (List.prefix_append place [n]))
                rw [hentry]
                exact Option.some_ne_none e

/-- What a removal comes to in two trees: it is refused alike, or clears the place in both. -/
inductive RemovedAlike (t t' : FileTree) (names : List String) : Prop
  | refused (r : Refusal) (first : t.removeFile names = .error r)
      (second : t'.removeFile names = .error r)
  | cleared (first : t.removeFile names = .ok (t.clear names))
      (second : t'.removeFile names = .ok (t'.clear names))

/-- **A file is removed alike** in trees that are alike for it, if its names are short enough or the
    way to it is not missed. -/
theorem removeFile_alike (hr : Rooted t []) (hdots : ".." ∉ names) (h : Alike t t' names)
    (hway : Fits names ∨ t.locate names ≠ .error .missing) : RemovedAlike t t' names := by
  have hwidened : Widened t t' [] names := h.way
  by_cases hlong : isTooLongPath (Path.mk .root names).text = true
  · have hlocate (u : FileTree) : u.removeFile names = .error .nameTooLong := by
      rw [removeFile, locate, if_pos hlong]
    exact .refused .nameTooLong (hlocate t) (hlocate t')
  · have hlocate (u : FileTree) : u.locate names = u.follow [] names := if_neg hlong
    rw [hlocate] at hway
    by_cases hmissing : t.follow [] names = .error .missing
    · have hnone : t.entry? names = none := by
        obtain ⟨a, b, hab, _, hnone⟩ := follow_missing hdots hmissing
        by_contra hthere
        exact hr.prefix_ne_none List.nil_prefix hthere ⟨b, hab.symm⟩ hnone
      refine .refused .missing (by rw [removeFile, hlocate, hmissing]) ?_
      rcases hwidened.follow_missing hr hdots (hway.resolve_right fun h => h hmissing) hmissing
        with hmiss | hfound
      · rw [removeFile, hlocate, hmiss]
      · rw [List.nil_append] at hfound
        simp only [removeFile, hlocate, hfound, h.here, hnone]
    · have hfollow := hwidened.follow_eq hdots hmissing
      cases hfound : t.follow [] names with
      | error r =>
          rw [hfound] at hfollow
          exact .refused r (by rw [removeFile, hlocate, hfound])
            (by rw [removeFile, hlocate, hfollow])
      | ok p =>
          rw [(follow_ok hdots hfound).1, List.nil_append] at hfound
          rw [hfound] at hfollow
          have hfirst := (hlocate t).trans hfound
          have hsecond := (hlocate t').trans hfollow
          cases hentry : t.entry? names with
          | none =>
              exact .refused .missing (by simp only [removeFile, hfirst, hentry])
                (by simp only [removeFile, hsecond, h.here, hentry])
          | some e =>
              cases e with
              | directory =>
                  exact .refused .isDirectory (by simp only [removeFile, hfirst, hentry])
                    (by simp only [removeFile, hsecond, h.here, hentry])
              | file o =>
                  exact .cleared (by simp only [removeFile, hfirst, hentry])
                    (by simp only [removeFile, hsecond, h.here, hentry])

theorem transfers_clear (hne : names ≠ []) (h : Alike t t' names) :
    Transfers t (t.clear names) t' (t'.clear names) := by
  refine ⟨fun q hq => ?_, fun q hq => ?_⟩
  · by_cases heq : q = names
    · rw [heq, entry?_clear_self _ hne, entry?_clear_self _ hne]
    · exact absurd (entry?_clear_of_ne _ heq) hq
  · by_cases heq : q = names
    · subst heq
      rw [entry?_clear_self _ hne] at hq ⊢
      rw [h.here, hq]
    · exact entry?_clear_of_ne _ heq

end QueryTypings.FileTree
