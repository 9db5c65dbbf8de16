/-
  Changes that stay below one directory.

  1. **Below** — a place lies below another one if more names lead on to it.

  2. **Frame** — `SameOutside` says that two trees differ only below a directory.  A look-up that
     does not lead below the directory cannot tell them apart (`SameOutside.read`).

  3. **Invariant** — `Rooted` says that the way to the directory is open and that below it
     everything lies in a directory.  Writing a text and removing a file keep both.
-/
import QueryTypings.Project.Writer
import QueryTypings.Proofs.FileTree.Frame
import QueryTypings.Proofs.Path.Normal

namespace QueryTypings.FileTree

open QueryTypings.Text

/-! ## Below -/

/-- More names lead on from the first place to the second one. -/
def Below (top place : List String) : Prop := top <+: place ∧ place ≠ top

theorem below_append {top rest : List String} (h : rest ≠ []) : Below top (top ++ rest) :=
  ⟨List.prefix_append top rest, fun heq => h (List.append_right_eq_self.mp heq)⟩

theorem Below.ne_nil {top place : List String} (h : Below top place) : place ≠ [] := by
  rintro rfl
  exact h.2 (List.prefix_nil.mp h.1).symm

/-- What holds a place below the directory is the directory, or lies below it. -/
theorem Below.prefix_dropLast {top place : List String} (h : Below top place) :
    top <+: place.dropLast := by
  have hlast := List.dropLast_append_getLast h.ne_nil
  rcases List.prefix_concat_iff.mp (hlast.symm ▸ h.1) with heq | hpre
  · exact absurd (heq.trans hlast).symm h.2
  · exact hpre

/-- What leads to a place that is not below the directory is not below it either. -/
theorem not_below_way {top place way : List String} (h : ¬ Below top place)
    (hway : way <+: place) : ¬ Below top way := by
  rintro ⟨htop, hne⟩
  refine h ⟨htop.trans hway, ?_⟩
  rintro rfl
  exact hne (htop.eq_of_length_le hway.length_le).symm

/-- On the way to a place below a directory one is on the way to the directory, or below it. -/
theorem prefix_or_below {top place way : List String} (htop : top <+: place) (hway : way <+: place) :
    way <+: top ∨ Below top way := by
  rcases List.prefix_or_prefix_of_prefix hway htop with h | h
  · exact Or.inl h
  · by_cases heq : way = top
    · exact Or.inl (heq ▸ List.prefix_refl way)
    · exact Or.inr ⟨h, heq⟩

/-! ## Frame -/

/-- The trees differ only below a directory. -/
def SameOutside (top : List String) (t t' : FileTree) : Prop :=
  ∀ place, ¬ Below top place → t'.entry? place = t.entry? place

theorem SameOutside.refl (top : List String) (t : FileTree) : SameOutside top t t :=
  fun _ _ => rfl

theorem SameOutside.trans {top : List String} {t t' t'' : FileTree} (h : SameOutside top t t')
    (h' : SameOutside top t' t'') : SameOutside top t t'' :=
  fun place hp => (h' place hp).trans (h place hp)

theorem names_of_isPlace (world : World) {p : Path} (hp : p.IsPlace) : world.names p = p.parts := by
  rw [World.names, Path.join, if_pos hp.isAbsolute]

/-- A place is looked up on the way to it. -/
theorem lookUp_congr {world world' : World} {p : Path} (hp : p.IsPlace)
    (h : ∀ way, way <+: p.parts → world'.tree.entry? way = world.tree.entry? way) :
    world'.lookUp p = world.lookUp p := by
  have hfollow : world'.tree.follow [] p.parts = world.tree.follow [] p.parts :=
    follow_congr hp.noDots fun a b hab _ => h _ ⟨b, by rw [hab, List.nil_append]⟩
  rw [World.lookUp, World.lookUp, names_of_isPlace _ hp, names_of_isPlace _ hp, hfollow]
  split
  · rfl
  · split
    · rfl
    · rename_i place hplace
      have heq := (follow_ok hp.noDots hplace).1
      rw [List.nil_append] at heq
      rw [entryAt, entryAt, heq, h _ (List.prefix_refl _)]

/-- **A file that is not below the directory is read as before.** -/
theorem SameOutside.read {top : List String} {world world' : World} {p : Path}
    (h : SameOutside top world.tree world'.tree) (hp : p.IsPlace)
    (hnot : ¬ Below top p.parts) : world'.read p = world.read p := by
  rw [World.read, World.read,
    lookUp_congr hp fun way hway => h _ (not_below_way hnot hway)]

/-- The way to a directory that is there is open. -/
theorem opened_of_isDirectory {world : World} {p : Path} (hp : p.IsPlace)
    (h : world.isDirectory p = .ok true) : Opened world.tree p.parts := by
  rw [World.isDirectory] at h
  split at h
  · rename_i e hlook
    rw [World.lookUp, names_of_isPlace _ hp] at hlook
    split at hlook
    · cases hlook
    · split at hlook
      · cases hlook
      · rename_i place hfollow
        obtain ⟨heq, hway⟩ := follow_ok hp.noDots hfollow
        rw [List.nil_append] at heq
        subst heq
        rintro way ⟨rest, hrest⟩
        by_cases hnil : rest = []
        · rw [hnil, List.append_nil] at hrest
          subst hrest
          rw [entryAt] at hlook
          split at hlook
          · cases hlook
          · rename_i e' he'
            obtain rfl := Except.ok.inj hlook
            cases e' with
            | directory => exact he'
            | file octets => cases h
        · exact hway way rest hrest.symm hnil
  · split at h
    · cases h
    · cases h

/-! ## Invariant -/

/-- The way to a directory is open, and everything below it lies in a directory. -/
structure Rooted (t : FileTree) (top : List String) : Prop where
  opened : Opened t top
  held : ∀ place, Below top place → t.entry? place ≠ none →
    t.entry? place.dropLast = some .directory

/-- What leads to something below the directory is there. -/
theorem Rooted.prefix_ne_none {t : FileTree} {top place way : List String} (h : Rooted t top)
    (htop : top <+: place) (hplace : t.entry? place ≠ none) (hway : way <+: place) :
    t.entry? way ≠ none := by
  rcases prefix_or_below htop hway with hup | hbelow
  · rw [h.opened way hup]
    exact Option.some_ne_none _
  · obtain ⟨rest, rfl⟩ := hway
    induction rest using List.reverseRecOn with
    | nil => rwa [List.append_nil] at hplace
    | append_singleton rest name ih =>
        have hpre : top <+: way ++ rest := hbelow.1.trans (List.prefix_append way rest)
        have hlong : Below top (way ++ (rest ++ [name])) := by
          refine ⟨htop, fun heq => ?_⟩
          have hlen := congrArg List.length heq
          have hle := hbelow.1.length_le
          simp only [List.length_append, List.length_singleton] at hlen
          omega
        have hup := h.held _ hlong hplace
        rw [← List.append_assoc, List.dropLast_concat] at hup
        exact ih hpre (by rw [hup]; exact Option.some_ne_none _)

/-- The way to something below the directory is open. -/
theorem Rooted.opened_dropLast {t : FileTree} {top place : List String} (h : Rooted t top)
    (hbelow : Below top place) (hplace : t.entry? place ≠ none) : Opened t place.dropLast := by
  intro way hway
  rcases prefix_or_below hbelow.prefix_dropLast hway with hup | hdown
  · exact h.opened way hup
  · -- the next place on the way is there, so the way is a directory
    obtain ⟨rest, hrest⟩ := hway
    have hlast := List.dropLast_append_getLast hbelow.ne_nil
    rw [← hrest, List.append_assoc] at hlast
    have hnext : ∃ name, way ++ [name] <+: place := by
      cases rest with
      | nil => exact ⟨place.getLast hbelow.ne_nil, [], by rw [List.append_nil]; exact hlast⟩
      | cons name r =>
          refine ⟨name, r ++ [place.getLast hbelow.ne_nil], ?_⟩
          rw [List.append_assoc]
          exact hlast
    obtain ⟨name, hname⟩ := hnext
    have hthere := h.prefix_ne_none hbelow.1 hplace hname
    have hlong : Below top (way ++ [name]) := by
      refine ⟨hdown.1.trans (List.prefix_append way [name]), fun heq => ?_⟩
      have hle := hdown.1.length_le
      rw [← heq, List.length_append, List.length_singleton] at hle
      omega
    have hheld := h.held _ hlong hthere
    rwa [List.dropLast_concat] at hheld

/-- Making directories on the way to a place below. -/
theorem Grown.below {t t' : FileTree} {top names : List String} (h : Grown t t' names)
    (htop : top <+: names) (hr : Rooted t top) : SameOutside top t t' ∧ Rooted t' top := by
  constructor
  · intro place hnot
    rcases h place with heq | ⟨hnone, _, hpre, _⟩
    · exact heq
    · rcases prefix_or_below htop hpre with hup | hbelow
      · rw [hr.opened place hup] at hnone
        cases hnone
      · exact absurd hbelow hnot
  · refine ⟨fun place hplace => h.directory (hr.opened place hplace), fun place hbelow hsome => ?_⟩
    rcases h place with heq | ⟨_, _, _, hup⟩
    · rw [heq] at hsome
      exact h.directory (hr.held place hbelow hsome)
    · exact hup

/-- Putting a file in a directory below, in place of nothing or of a file. -/
theorem rooted_put {t : FileTree} {top place : List String} (octets : List Nat)
    (hbelow : Below top place) (hr : Rooted t top)
    (hup : t.entry? place.dropLast = some .directory) (hfile : t.entry? place ≠ some .directory) :
    SameOutside top t (t.put place (.file octets)) ∧ Rooted (t.put place (.file octets)) top := by
  have hdirectory : ∀ q, t.entry? q = some .directory →
      entry? (t.put place (.file octets)) q = some .directory := fun q hq => by
    have hne : q ≠ place := fun heq => hfile (heq ▸ hq)
    rw [entry?_put_of_ne t hne, hq]
  constructor
  · intro q hnot
    have hne : q ≠ place := by
      rintro rfl
      exact hnot hbelow
    exact entry?_put_of_ne t hne _
  · refine ⟨fun q hq => hdirectory q (hr.opened q hq), fun q hq hsome => hdirectory _ ?_⟩
    by_cases heq : q = place
    · rw [heq, hup]
    · rw [entry?_put_of_ne t heq] at hsome
      exact hr.held q hq hsome

/-- Clearing the place of a file below. -/
theorem rooted_clear {t : FileTree} {top place : List String} (hbelow : Below top place)
    (hr : Rooted t top) (hfile : (t.octets? place).isSome) :
    SameOutside top t (t.clear place) ∧ Rooted (t.clear place) top := by
  have hdirectory : ∀ q, t.entry? q = some .directory → entry? (t.clear place) q = some .directory :=
    fun q hq => by
      have hne : q ≠ place := fun heq => by
        rw [← heq, octets?_of_directory hq] at hfile
        cases hfile
      rw [entry?_clear_of_ne t hne, hq]
  constructor
  · intro q hnot
    have hne : q ≠ place := by
      rintro rfl
      exact hnot hbelow
    exact entry?_clear_of_ne t hne
  · refine ⟨fun q hq => hdirectory q (hr.opened q hq), fun q hq hsome => hdirectory _ ?_⟩
    by_cases heq : q = place
    · rw [heq, entry?_clear_self t hbelow.ne_nil] at hsome
      exact absurd rfl hsome
    · rw [entry?_clear_of_ne t heq] at hsome
      exact hr.held q hq hsome

end QueryTypings.FileTree
