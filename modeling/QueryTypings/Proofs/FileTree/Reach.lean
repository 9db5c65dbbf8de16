/-
  Which files can be reached, and trees as a system has them.

  1. **Ways** — over directories, names that are short enough lead to the place that they spell
     (`follow_of_opened`), and a file there is removed when that is asked for (`removeFile_of_file`).

  2. **Lengths** — a file is written beside its place first, under a longer name.  Where there was
     room for that, the file itself can be reached (`Room.reachable`).

  3. **Entries** — what lies below a place, by the places that hold something.

  4. **Soundness** — every place is listed once, it is reached over directories, and its names are
     names (`Sound`).  Then the list of places and the look-up of a place tell the same
     (`entry?_eq_some_iff`).
-/
import QueryTypings.Proofs.FileTree.Frame
import QueryTypings.Proofs.Path.Normal
import Mathlib.Data.List.Infix

namespace QueryTypings.FileTree

open QueryTypings.Text

/-! ## Ways -/

/-- **Over directories, names lead to the place that they spell.** -/
theorem follow_of_opened {t : FileTree} {place names : List String} (hdots : ".." ∉ names)
    (hfits : Fits names)
    (hway : ∀ a b, names = a ++ b → b ≠ [] → t.entry? (place ++ a) = some .directory) :
    t.follow place names = .ok (place ++ names) := by
  induction names generalizing place with
  | nil =>
      rw [List.append_nil]
      unfold follow
      rfl
  | cons name rest ih =>
      have hhere : t.entry? place = some .directory := by
        have := hway [] (name :: rest) rfl (List.cons_ne_nil name rest)
        rwa [List.append_nil] at this
      have hname : name ≠ ".." := fun hn => hdots (hn ▸ List.mem_cons_self)
      have hshort : ¬ isTooLong name = true := by
        rw [hfits name List.mem_cons_self]
        exact Bool.false_ne_true
      have hrest : t.follow (place ++ [name]) rest = .ok (place ++ [name] ++ rest) :=
        ih (fun hr => hdots (List.mem_cons_of_mem _ hr))
          (fun n hn => hfits n (List.mem_cons_of_mem _ hn)) fun a b hab hb => by
            have := hway (name :: a) b (by rw [hab, List.cons_append]) hb
            rwa [List.append_cons] at this
      unfold follow
      simp only [hhere, if_neg hname, if_neg hshort, hrest]
      rw [List.append_assoc, List.singleton_append]

/-- Over directories, nothing but the length of a name keeps names from leading there. -/
theorem follow_error_of_opened {t : FileTree} {place names : List String} (hdots : ".." ∉ names)
    (hway : ∀ a b, names = a ++ b → b ≠ [] → t.entry? (place ++ a) = some .directory) {r : Refusal}
    (h : t.follow place names = .error r) : r = .nameTooLong := by
  induction names generalizing place with
  | nil =>
      unfold follow at h
      cases h
  | cons name rest ih =>
      have hhere : t.entry? place = some .directory := by
        have := hway [] (name :: rest) rfl (List.cons_ne_nil name rest)
        rwa [List.append_nil] at this
      have hname : name ≠ ".." := fun hn => hdots (hn ▸ List.mem_cons_self)
      unfold follow at h
      simp only [hhere, if_neg hname] at h
      by_cases hlong : isTooLong name = true
      · rw [if_pos hlong] at h
        exact (Except.error.inj h).symm
      · rw [if_neg hlong] at h
        refine ih (fun hr => hdots (List.mem_cons_of_mem _ hr)) (fun a b hab hb => ?_) h
        have := hway (name :: a) b (by rw [hab, List.cons_append]) hb
        rwa [List.append_cons] at this

/-- Names that a system can follow if there is something to follow. -/
structure Reachable (names : List String) : Prop where
  noDots : ".." ∉ names
  fits : Fits names
  short : isTooLongPath (Path.mk .root names).text = false

/-- **A file that can be reached is removed** when that is asked for. -/
theorem removeFile_of_file {t : FileTree} {names octets : List _} (h : Reachable names)
    (hway : Opened t names.dropLast) (hfile : t.octets? names = some octets) :
    t.removeFile names = .ok (t.clear names) := by
  have hfollow : t.follow [] names = .ok names := by
    refine follow_of_opened h.noDots h.fits fun a b hab hb => hway a ?_
    rw [hab, List.dropLast_append_of_ne_nil hb]
    exact List.prefix_append a b.dropLast
  have hlocate : t.locate names = .ok names := by
    rw [locate, h.short]
    exact hfollow
  simp only [removeFile, hlocate, octets?_eq_some.mp hfile]

/-! ## Lengths -/

theorem encodeUtf8_append (a b : List Char) : encodeUtf8 (a ++ b) = encodeUtf8 a ++ encodeUtf8 b :=
  List.flatMap_append

/-- What stands between two texts takes up no fewer octets with them than alone. -/
theorem octets_le_around (before after s : String) :
    (encodeUtf8 s.toList).length ≤ (encodeUtf8 (before ++ s ++ after).toList).length := by
  rw [String.toList_append, String.toList_append, encodeUtf8_append, encodeUtf8_append,
    List.length_append, List.length_append]
  omega

/-- The path of something in a directory is a text that depends on the directory, and its name. -/
theorem text_concat (directory : List String) : ∃ front, ∀ name,
    (Path.mk .root (directory ++ [name])).text = front ++ name := by
  have htext : ∀ parts, (Path.mk .root parts).text = "/" ++ joinWith "/" parts := fun _ => rfl
  by_cases hnil : directory = []
  · refine ⟨"/", fun name => ?_⟩
    rw [hnil]
    rfl
  · refine ⟨"/" ++ (joinWith "/" directory ++ "/"), fun name => ?_⟩
    rw [htext, joinWith_concat "/" name hnil]
    simp only [String.append_assoc]

/-- **Where there is room for the other file, the file itself can be reached.** -/
theorem Room.reachable {directory : List String} {name : String} (h : Room directory name)
    (hdots : ".." ∉ directory ++ [name]) (hfits : Fits directory) :
    Reachable (directory ++ [name]) := by
  obtain ⟨k, hname, hpath⟩ := h
  have hother : temporaryName name k = "." ++ name ++ ("." ++ eightDigits k ++ ".tmp") := by
    simp only [temporaryName, String.append_assoc]
  refine ⟨hdots, fun n hn => ?_, ?_⟩
  · rcases List.mem_append.mp hn with hn | hn
    · exact hfits n hn
    · obtain rfl := List.mem_singleton.mp hn
      have hle := octets_le_around "." ("." ++ eightDigits k ++ ".tmp") n
      rw [← hother] at hle
      simp only [isTooLong, decide_eq_false_iff_not] at hname ⊢
      omega
  · obtain ⟨front, hfront⟩ := text_concat directory
    rw [hfront] at hpath ⊢
    have hle := octets_le_around "." ("." ++ eightDigits k ++ ".tmp") name
    rw [← hother] at hle
    simp only [isTooLongPath, decide_eq_false_iff_not, String.toList_append, encodeUtf8_append,
      List.length_append] at hpath ⊢
    omega

variable {t : FileTree} {place : List String}

/-! ## Entries -/

theorem mem_below_iff {r : List String} {e : Entry} :
    (r, e) ∈ t.below place ↔ r ≠ [] ∧ (place ++ r, e) ∈ t.entries := by
  rw [below, List.mem_filterMap]
  constructor
  · rintro ⟨o, ho, hr⟩
    split at hr
    · rename_i n rest hdrop
      obtain ⟨rfl, rfl⟩ := Prod.mk.inj (Option.some.inj hr)
      rw [← Path.dropFront?_eq_some_iff.mp hdrop]
      exact ⟨List.cons_ne_nil n rest, ho⟩
    · cases hr
  · rintro ⟨hne, hmem⟩
    refine ⟨_, hmem, ?_⟩
    have hdrop : Path.dropFront? place (place ++ r) = some r := Path.dropFront?_eq_some_iff.mpr rfl
    cases r with
    | nil => exact absurd rfl hne
    | cons n rest => simp only [hdrop]

theorem mem_children_iff {name : String} {e : Entry} :
    (name, e) ∈ t.children place ↔ (place ++ [name], e) ∈ t.entries := by
  rw [children, List.mem_filterMap]
  constructor
  · rintro ⟨o, ho, hname⟩
    split at hname
    · rename_i n hn
      obtain ⟨rfl, rfl⟩ := Prod.mk.inj (Option.some.inj hname)
      have hpair : ([n], o.2) ∈ t.below place := hn ▸ ho
      exact (mem_below_iff.mp hpair).2
    · cases hname
  · intro hmem
    exact ⟨([name], e), mem_below_iff.mpr ⟨List.cons_ne_nil name [], hmem⟩, rfl⟩

theorem mem_directoriesBelow_iff {d : List String} :
    d ∈ t.directoriesBelow place ↔ d ≠ [] ∧ (place ++ d, .directory) ∈ t.entries := by
  rw [directoriesBelow, List.mem_filterMap]
  constructor
  · rintro ⟨o, ho, hd⟩
    split at hd
    · cases hd
    · rename_i hdirectory
      obtain rfl := Option.some.inj hd
      have hpair : (o.1, Entry.directory) ∈ t.below place := hdirectory ▸ ho
      exact mem_below_iff.mp hpair
  · intro h
    exact ⟨(d, .directory), mem_below_iff.mpr h, rfl⟩

/-! ## Soundness -/

instance (t : FileTree) (names : List String) : Decidable (Opened t names) :=
  decidable_of_iff (∀ place ∈ names.inits, t.entry? place = some .directory) <| by
    simp only [List.mem_inits, Opened]

/-- A tree in which every place is listed once, lies in a directory, and has a name in it. -/
structure Sound (t : FileTree) : Prop where
  unique : (t.entries.map Prod.fst).Nodup
  opened : ∀ e ∈ t.entries, Opened t e.1.dropLast
  named : ∀ e ∈ t.entries, ∀ n ∈ e.1, Path.IsName n ∧ n ≠ ".."

/-- Where keys are listed once, the first entry of a key is its only one. -/
theorem find?_eq_some_iff {es : List (List String × Entry)} (h : (es.map Prod.fst).Nodup)
    {e : Entry} : (es.find? fun o => o.1 = place) = some (place, e) ↔ (place, e) ∈ es := by
  induction es with
  | nil => simp
  | cons o r ih =>
      rw [List.map_cons, List.nodup_cons] at h
      by_cases ho : o.1 = place
      · rw [List.find?_cons_of_pos (by simpa using ho), Option.some_inj, List.mem_cons]
        refine ⟨fun heq => Or.inl heq.symm, fun hmem => hmem.elim Eq.symm fun hr => ?_⟩
        exact absurd (List.mem_map_of_mem (f := Prod.fst) hr) (ho ▸ h.1)
      · rw [List.find?_cons_of_neg (by simpa using ho), ih h.2, List.mem_cons]
        refine ⟨Or.inr, fun hmem => hmem.resolve_left fun heq => ho ?_⟩
        rw [← heq]

/-- **What a place holds is what is listed for it.** -/
theorem entry?_eq_some_iff (h : t.Sound) (hne : place ≠ []) {e : Entry} :
    t.entry? place = some e ↔ (place, e) ∈ t.entries := by
  rw [entry?_of_ne_nil t hne, ← find?_eq_some_iff h.unique, Option.map_eq_some_iff]
  constructor
  · rintro ⟨⟨p, e'⟩, hfind, rfl⟩
    have hp : p = place := by simpa using List.find?_some hfind
    rw [hfind, hp]
  · intro hfind
    exact ⟨_, hfind, rfl⟩

/-- A file that is there lies in a directory that is. -/
theorem Sound.opened_of_file (h : t.Sound) {octets : List Nat}
    (hfile : t.octets? place = some octets) : place ≠ [] ∧ Opened t place.dropLast
      ∧ ∀ n ∈ place, Path.IsName n ∧ n ≠ ".." := by
  have hentry := octets?_eq_some.mp hfile
  have hne : place ≠ [] := by
    rintro rfl
    cases hentry
  have hmem := (entry?_eq_some_iff h hne).mp hentry
  exact ⟨hne, h.opened _ hmem, h.named _ hmem⟩

end QueryTypings.FileTree
