/-
  No query file reaches out of the output directory.

  1. **Files** — the other file that a declaration is written to first lies beside the declaration,
     so below the output directory too (`below_otherPlace`).  A removal takes away the declaration
     or nothing (`remove_changes`).

  2. **Confinement** — so whatever source a writer is given, and whatever goes wrong, all files that
     come, change or go lie below the output directory, at each moment; and from any directory any
     root is seen above the declarations that it has (`changes_confined`).
-/
import QueryTypings.Proofs.Path.Inverse
import QueryTypings.Proofs.Project.Atomicity
import QueryTypings.Proofs.Project.History

namespace QueryTypings.Writer

open QueryTypings.Text QueryTypings.FileTree

variable {w : Writer}

/-! ## Files -/

theorem below_otherPlace {top : List String} {file : Path} (h : Below top file.parts) (k : Nat) :
    Below top (otherPlace file k) := by
  obtain ⟨rest, hrest⟩ := h.prefix_dropLast
  have hplace : otherPlace file k = top ++ (rest ++ [temporaryName file.name k]) := by
    rw [← List.append_assoc, hrest]
    rfl
  rw [hplace]
  exact below_append (by simp)

/-- A file that is not as before while a declaration is written lies below the output directory. -/
theorem writing_changes (hw : w.Placed) (setback : Setback) {world : World} {source : String}
    {u : FileTree}
    (hu : u ∈ (w.writing setback world source).1.last :: (w.writing setback world source).1.before)
    {q : List String} (hq : u.octets? q ≠ world.tree.octets? q) : Below w.outDir.parts q := by
  rcases (writing_effect hw setback rfl).2.2 u hu with rfl | ⟨a, text, hcompose, hpasses⟩
  · exact absurd rfl hq
  · -- only two places are touched: that of the declaration, and the other file beside it
    have hbelow := (compose_below hw hcompose).1
    rcases hpasses.elsewhere hbelow.ne_nil with hsame | ⟨k, _, hsame⟩
    · by_cases heq : q = a.parts
      · exact heq ▸ hbelow
      · exact absurd (hsame q heq) hq
    · by_cases heq : q = otherPlace a k
      · exact heq ▸ below_otherPlace hbelow k
      · exact absurd (hsame q heq) hq

/-- A place that is not as before after a removal is that of a declaration, so it lies below the
    output directory. -/
theorem remove_changes (hw : w.Placed) {world : World} {source : String} {q : List String}
    (hq : (w.remove world source).2.tree.entry? q ≠ world.tree.entry? q) :
    Below w.outDir.parts q := by
  unfold remove at hq
  split at hq
  · exact absurd rfl hq
  · rename_i a ha
    obtain ⟨hbelow, hdots⟩ := artifact_below hw ha
    split at hq
    · exact absurd rfl hq
    · split at hq
      · exact absurd rfl hq
      · exact absurd rfl hq
      · rename_i t ht
        obtain ⟨rfl, _⟩ := removeFile_ok hdots ht
        by_cases heq : q = a.parts
        · exact heq ▸ hbelow
        · exact absurd (entry?_clear_of_ne _ heq) hq

/-! ## Confinement -/

/-- **Writing and removing are confined to the output directory.**  Whatever the source is and
    whatever goes wrong, at each moment of a write and after a removal a file that was not there
    before, is not as before or is no longer there lies below the output directory.  And whatever
    root declarations are to have, wherever it is seen from: a declaration is strictly below it,
    name by name. -/
theorem changes_confined (hw : w.Placed) (setback : Setback) (world : World) (source : String) :
    (∀ u ∈ (w.writing setback world source).1.last :: (w.writing setback world source).1.before,
      ∀ q, u.octets? q ≠ world.tree.octets? q → Below w.outDir.parts q)
    ∧ (w.attempt setback world source).2.tree = (w.writing setback world source).1.last
    ∧ (∀ q, (w.remove world source).2.tree.octets? q ≠ world.tree.octets? q →
      Below w.outDir.parts q)
    ∧ ∀ (cwd : Path) (relative root : String) (a : Path),
      Path.artifact cwd relative root = .ok a →
        ".." ∉ (Path.absolute cwd (Path.ofText a.text)).parts
        ∧ ∃ name rest, Path.absolute cwd (Path.ofText a.text)
          = (Path.absolute cwd (Path.ofText root)).join ⟨.here, name :: rest⟩ := by
  refine ⟨fun u hu q hq => writing_changes hw setback hu hq, ?_, fun q hq => ?_,
    fun cwd relative root a ha => ?_⟩
  · rcases hattempt : w.attempt setback world source with ⟨result, after⟩
    obtain ⟨p, hwriting, htree, _⟩ := attempt_eq hattempt
    rw [hwriting]
    exact htree
  · exact remove_changes hw fun heq => hq (octets?_congr heq)
  · obtain ⟨horigin, name, rest, hbelow⟩ := Path.below_root_of_artifact ha
    rw [Path.ofText_text_artifact ha]
    have hrooted : (Path.absolute cwd a).origin = .root := by
      rw [hbelow]
      exact horigin
    refine ⟨Path.noDots_absolute ?_, name, rest, hbelow⟩
    rw [Path.isAbsolute, hrooted]
    rfl

/-- A declaration is written when the small project's query file is given by a detour. -/
theorem smallDetour_facts :
    (smallPrepare.1.toOption.map fun w =>
      (w.attempt .nothing smallPrepare.2 smallDetour).1.toOption.map fun a =>
        decide ((w.attempt .nothing smallPrepare.2 smallDetour).2.tree.octets? a.parts
          ≠ smallPrepare.2.tree.octets? a.parts)) = some (some true) := by
  decide +kernel

/-- It lies below the output directory. -/
theorem changes_confined_smallDetour :
    ∃ w started a, smallPrepare = (.ok w, started) ∧ w.Placed
      ∧ (w.attempt .nothing started smallDetour).1 = .ok a
      ∧ (w.attempt .nothing started smallDetour).2.tree.octets? a.parts
        ≠ started.tree.octets? a.parts
      ∧ Below w.outDir.parts a.parts := by
  have hfacts := smallDetour_facts
  rcases hprepare : smallPrepare with ⟨result, started⟩
  rw [hprepare] at hfacts
  cases result with
  | error f => cases hfacts
  | ok w =>
      have hplaced := (prepare_ok (isStart_smallWorld "query Q{a}")
        (show Path.IsWritten ⟨.root, ["b"]⟩ by decide)
        (show Path.IsWritten ⟨.here, ["src", "..", ".gql"]⟩ by decide) hprepare).2.1.placed
      obtain ⟨hmoments, htree, _⟩ := changes_confined hplaced .nothing started smallDetour
      have hwritten := Option.some.inj hfacts
      cases hattempt : (w.attempt .nothing started smallDetour).1 with
      | error f =>
          simp only [hattempt] at hwritten
          cases hwritten
      | ok a =>
          simp only [hattempt] at hwritten
          have hchanged := of_decide_eq_true (Option.some.inj hwritten)
          exact ⟨w, started, a, rfl, hplaced, hattempt, hchanged,
            hmoments _ List.mem_cons_self a.parts (htree ▸ hchanged)⟩

end QueryTypings.Writer
