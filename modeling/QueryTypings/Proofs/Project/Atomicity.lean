/-
  What is there while a declaration is written.

  1. **Moments** — on the way to a file directories come; then another file comes beside it, where
     nothing was; then the file holds the new text.  At each moment the file is as it was before, or
     complete (`Passes.target`), and at most one other place differs (`Passes.elsewhere`).

  2. **Writing** — so whatever stops a write, be it the path, the query file, its text or the system,
     no reader finds half a declaration, and a write that fails leaves all files as they were
     (`writing_atomic`).
-/
import QueryTypings.Proofs.Project.Start

namespace QueryTypings.Writer

open QueryTypings.Text QueryTypings.FileTree

/-! ## Moments -/

variable {t u : FileTree} {file : Path} {octets : List Nat}

/-- The place of the other file that is written first. -/
def otherPlace (file : Path) (k : Nat) : List String :=
  file.parent.parts ++ [temporaryName file.name k]

theorem otherPlace_ne (hne : file.parts ≠ []) (k : Nat) : otherPlace file k ≠ file.parts := by
  intro heq
  rw [otherPlace, ← Path.parent_append_name hne] at heq
  have hname := List.append_cancel_left heq
  exact temporaryName_ne file.name k (List.cons.inj hname).1

/-- A directory on the way to a file does not come in its place. -/
theorem Grown.target (h : Grown t u file.parent.parts) (hne : file.parts ≠ []) :
    u.entry? file.parts = t.entry? file.parts := by
  rcases h file.parts with heq | ⟨_, _, hpre, _⟩
  · exact heq
  · -- the file lies deeper than all directories that come
    have hle := hpre.length_le
    have hlength := congrArg List.length (Path.parent_append_name hne)
    rw [List.length_append, List.length_singleton] at hlength
    omega

/-- **At each moment the file is as it was before, or complete.** -/
theorem Passes.target (h : Passes t file octets u) (hne : file.parts ≠ []) :
    u.entry? file.parts = t.entry? file.parts ∨ u.entry? file.parts = some (.file octets) := by
  obtain ⟨opened, hgrown, hreplacing⟩ := h
  have hbefore := Grown.target hgrown hne
  cases hreplacing with
  | asBefore => exact Or.inl hbefore
  | beside k n free =>
      have hstill := entry?_put_of_ne opened (Ne.symm (otherPlace_ne hne k)) (.file (octets.take n))
      exact Or.inl (hstill.trans hbefore)
  | done =>
      rw [Path.parent_append_name hne, entry?_put_self opened hne]
      exact Or.inr rfl

/-- **At each moment all other files are as they were**, but for one where nothing was, as long as the
    file itself is as it was. -/
theorem Passes.elsewhere (h : Passes t file octets u) (hne : file.parts ≠ []) :
    (∀ q, q ≠ file.parts → u.octets? q = t.octets? q)
      ∨ ∃ k, t.entry? (otherPlace file k) = none
        ∧ ∀ q, q ≠ otherPlace file k → u.octets? q = t.octets? q := by
  obtain ⟨opened, hgrown, hreplacing⟩ := h
  cases hreplacing with
  | asBefore => exact Or.inl fun q _ => hgrown.octets? q
  | beside k n free =>
      have hfree : t.entry? (otherPlace file k) = none := by
        rcases hgrown (otherPlace file k) with heq | ⟨hnone, _⟩
        · rw [← heq]
          exact free
        · exact hnone
      refine Or.inr ⟨k, hfree, fun q hq => ?_⟩
      have hstill := entry?_put_of_ne opened hq (.file (octets.take n))
      exact (octets?_congr hstill).trans (hgrown.octets? q)
  | done =>
      refine Or.inl fun q hq => ?_
      rw [Path.parent_append_name hne, octets?_congr (entry?_put_of_ne opened hq _), hgrown.octets?]

/-! ## Writing -/

variable {w : Writer}

/-- **Writing is atomic.**  Whatever goes wrong, at each moment of a write the place of the
    declaration is as it was before, or it holds the whole new declaration, and all other files are
    as they were, but for one beside it where nothing was.  If the write fails, in the end all places
    are as they were, except that a directory may have come where nothing was; and if it does not,
    the declaration is there and all other files are as they were. -/
theorem writing_atomic (hw : w.Placed) (setback : Setback) (world : World) (source : String) :
    (∀ u ∈ (w.writing setback world source).1.last :: (w.writing setback world source).1.before,
      ∀ a, w.artifact world.cwd source = .ok a →
        (u.entry? a.parts = world.tree.entry? a.parts
          ∨ ∃ text, w.compose world source = .ok (a, text)
            ∧ u.entry? a.parts = some (.file (encodeUtf8 text.toList)))
        ∧ ((∀ q, q ≠ a.parts → u.octets? q = world.tree.octets? q)
          ∨ ∃ k, world.tree.entry? (otherPlace a k) = none
            ∧ ∀ q, q ≠ otherPlace a k → u.octets? q = world.tree.octets? q))
    ∧ (∀ f after, w.attempt setback world source = (.error f, after) →
        after.tree = (w.writing setback world source).1.last
        ∧ ∀ q, after.tree.entry? q = world.tree.entry? q
          ∨ world.tree.entry? q = none ∧ after.tree.entry? q = some .directory)
    ∧ (∀ a after, w.attempt setback world source = (.ok a, after) →
        after.tree = (w.writing setback world source).1.last
        ∧ w.artifact world.cwd source = .ok a
        ∧ (∃ text, w.compose world source = .ok (a, text)
          ∧ after.tree.octets? a.parts = some (encodeUtf8 text.toList))
        ∧ ∀ q, q ≠ a.parts → after.tree.octets? q = world.tree.octets? q) := by
  refine ⟨fun u hu a ha => ?_, fun f after h => ?_, fun a after h => ?_⟩
  · have hne := (artifact_below hw ha).1.ne_nil
    rcases (writing_effect hw setback rfl).2.2 u hu with rfl | ⟨a', text, hcompose, hpasses⟩
    · exact ⟨Or.inl rfl, Or.inl fun _ _ => rfl⟩
    · -- what is written is the declaration of this source
      obtain rfl := Except.ok.inj ((compose_ok hcompose).1.symm.trans ha)
      refine ⟨?_, hpasses.elsewhere hne⟩
      rcases hpasses.target hne with hbefore | hdone
      · exact Or.inl hbefore
      · exact Or.inr ⟨text, hcompose, hdone⟩
  · obtain ⟨p, hwriting, htree, _⟩ := attempt_eq h
    rw [hwriting, htree]
    refine ⟨rfl, fun q => ?_⟩
    cases (writing_effect hw setback hwriting).1 with
    | failed hgrown _ =>
        rcases hgrown q with heq | ⟨hnone, hdirectory, _⟩
        · exact Or.inl heq
        · exact Or.inr ⟨hnone, hdirectory⟩
  · obtain ⟨p, hwriting, htree, _⟩ := attempt_eq h
    rw [hwriting, htree]
    cases (writing_effect hw setback hwriting).1 with
    | written hcompose hput =>
        have hne := (compose_below hw hcompose).1.ne_nil
        exact ⟨rfl, (compose_ok hcompose).1, ⟨_, hcompose, hput.there hne⟩,
          fun q hq => hput.others hq⟩

/-- A system that takes three octets and no more. -/
def fullSystem : Setback := .putting (.filling 3 (.other 28 "No space left on device"))

/-- The declaration could not be put in its place. -/
def isUnwritable : Except Failure Path → Bool
  | .error (.reported (.unwritable _ _)) => true
  | _ => false

theorem exists_of_isUnwritable {x : Except Failure Path} (h : isUnwritable x = true) :
    ∃ a r, x = .error (.reported (.unwritable a r)) := by
  unfold isUnwritable at h
  split at h
  · exact ⟨_, _, rfl⟩
  · cases h

/-- If the system is full, the declaration of the small project's query file cannot be written. -/
theorem unwritable_facts :
    ((Plugin.prepare smallConfig (smallWorld "query Q{a}")).1.toOption.map fun w =>
      isUnwritable (w.attempt fullSystem (Plugin.prepare smallConfig (smallWorld "query Q{a}")).2
        smallFile.text).1) = some true := by
  decide +kernel

/-- It is not there then, and nor is any other file that was not there before. -/
theorem writing_atomic_fullSystem :
    ∃ w started, Plugin.prepare smallConfig (smallWorld "query Q{a}") = (.ok w, started) ∧ w.Placed
      ∧ ∃ a r after, w.attempt fullSystem started smallFile.text
          = (.error (.reported (.unwritable a r)), after)
        ∧ ∀ q, after.tree.entry? q = started.tree.entry? q
          ∨ started.tree.entry? q = none ∧ after.tree.entry? q = some .directory := by
  have hfacts := unwritable_facts
  rcases hprepare : Plugin.prepare smallConfig (smallWorld "query Q{a}") with ⟨result, started⟩
  rw [hprepare] at hfacts
  cases result with
  | error f => cases hfacts
  | ok w =>
      have hplaced :=
        (Plugin.prepare_ok (isStart_smallWorld _) isWritten_smallConfig hprepare).2.placed
      have hfails : isUnwritable (w.attempt fullSystem started smallFile.text).1 = true :=
        Option.some.inj hfacts
      rcases hattempt : w.attempt fullSystem started smallFile.text with ⟨outcome, after⟩
      rw [hattempt] at hfails
      obtain ⟨a, r, rfl⟩ := exists_of_isUnwritable hfails
      have hatomic := writing_atomic hplaced fullSystem started smallFile.text
      exact ⟨w, started, rfl, hplaced, a, r, after, hattempt, (hatomic.2.1 _ after hattempt).2⟩

end QueryTypings.Writer
