/-
  A query file has one declaration, whether it is given from the base directory or from the root.

  The two spellings go different ways.  A relative path is taken as it is written, and brought to its
  normal form behind the output directory.  An absolute one is brought to its normal form first, and
  then it is the way down from the base directory that is taken.

  1. **Names** — a last name that is not two dots is the last name of the normal form as well, so it
     is the same name that is replaced on both ways (`normalized_withName`).

  2. **The way down** — a path that does not climb out of the base directory leads from there to its
     normal form (`relativeSource_join`), and behind the output directory it makes no difference
     which of the two is taken (`artifact_normalized`).

  3. **Spellings** — so both are one file (`artifact_spellings`).  Only NUL tells them apart: it is
     in no path of a system, and this is seen where a place is looked for (`artifact_spellings_nul`).
-/
import QueryTypings.Proofs.Path.Climbing
import QueryTypings.Proofs.Project.Preparation

namespace QueryTypings

/-! ## Names -/

namespace Path

variable {cwd p a : Path} {root n : String}

/-- **A last name that is not two dots is replaced before or after normalising.** -/
theorem normalized_withName (h : p.name ≠ "..") (hn : n ≠ "..") :
    p.normalized.withName n = (p.withName n).normalized
      ∧ p.normalized.name = p.name := by
  obtain ⟨origin, parts⟩ := p
  rcases List.eq_nil_or_concat parts with rfl | ⟨front, last, rfl⟩
  · exact ⟨(normalized_concat ⟨origin, []⟩ hn).symm, rfl⟩
  · have hconcat : ∀ n, n ≠ ".." → (Path.mk origin (front ++ [n])).normalized
        = ⟨origin, (Path.mk origin front).normalized.parts ++ [n]⟩ :=
      fun n hn => normalized_concat ⟨origin, front⟩ hn
    have hlast : last ≠ ".." := by simpa [name] using h
    simp [withName, name, hconcat n hn, hconcat last hlast]

/-! ## The way down -/

/-- **Behind a root it makes no difference** whether a path is normalised. -/
theorem artifact_normalized (hp : p.IsWritten) (h : p.name ≠ "..") :
    artifact cwd p.normalized.text root = .ok a ↔ artifact cwd p.text root = .ok a := by
  rw [artifact_eq_ok_iff, artifact_eq_ok_iff, ofText_text hp, ofText_text hp.normalized]
  have hdots := artifactName_ne_dots p.stem p.extension
  obtain ⟨hwith, hname⟩ := normalized_withName h hdots
  have hstem : p.normalized.stem = p.stem := by rw [stem, stem, hname]
  have hextension : p.normalized.extension = p.extension := by rw [extension, extension, hname]
  have hbehind : ((ofText root).normalized.join (p.withName (artifactName p.stem
      p.extension)).normalized).normalized = ((ofText root).normalized.join (p.withName
      (artifactName p.stem p.extension))).normalized := absolute_normalized _ _
  rw [hname, hstem, hextension, hwith, hbehind]
  exact Iff.rfl

end Path

namespace Writer

variable {w : Writer} {cwd a : Path} {p s : String}

/-- **An absolute path is taken from the base directory in its normal form**, if it does not climb out
    of it. -/
theorem relativeSource_join (hbase : w.base.IsPlace) (hrelative : (Path.ofText p).isAbsolute = false)
    (hclimb : (Path.ofText p).normalized.parts.head? ≠ some "..")
    (hs : Path.ofText s = w.base.join (Path.ofText p)) (hnul : (Path.ofText s).hasNul = false) :
    w.relativeSource cwd s = .ok (Path.ofText p).normalized := by
  have habsolute : (Path.ofText s).isAbsolute = true := hs ▸ Path.isAbsolute_join hbase.isAbsolute
  generalize Path.ofText p = q at hrelative hclimb hs ⊢
  have hway : q.normalized = ⟨.here, q.normalized.parts⟩ := by
    have hhere : q.origin = .here := by
      cases horigin : q.origin with
      | here => rfl
      | root | doubleRoot =>
          rw [Path.isAbsolute, horigin] at hrelative
          cases hrelative
    exact congrArg (Path.mk · q.normalized.parts) hhere
  have hplace : Path.resolved cwd (Path.ofText s) = w.base.join ⟨.here, q.normalized.parts⟩ := by
    have habsolute : Path.absolute cwd (w.base.join q) = w.base.join ⟨.here, q.normalized.parts⟩ := by
      rw [Path.absolute_join, Path.absolute_of_isPlace hbase, ← Path.absolute_normalized, hway,
        Path.absolute_of_noDots hbase.noDots (Path.noDots_of_head?_normalized hclimb)]
    rw [hs, Path.resolved, habsolute]
    exact congrArg (Path.mk · (w.base.parts ++ q.normalized.parts)) hbase.origin.symm
  have hinside : w.base.inside? (Path.resolved cwd (Path.ofText s)) = some q.normalized.parts := by
    have hparts : (w.base.join ⟨.here, q.normalized.parts⟩).parts
        = w.base.parts ++ q.normalized.parts := rfl
    have horigin : w.base.origin = (w.base.join ⟨.here, q.normalized.parts⟩).origin := rfl
    rw [hplace, Path.inside?, if_pos horigin, Path.dropFront?_eq_some_iff, hparts]
  rw [hway]
  simp only [relativeSource, habsolute, hnul, hinside, Bool.not_true, Bool.false_eq_true, if_false]

/-! ## Spellings -/

/-- A write that returns has written the declaration of the source. -/
theorem artifact_of_attempt {world : World} {setback : Setback}
    (h : (w.attempt setback world s).1 = .ok a) : w.artifact world.cwd s = .ok a := by
  rcases hattempt : w.attempt setback world s with ⟨result, after⟩
  rw [hattempt] at h
  obtain rfl : result = .ok a := h
  obtain ⟨p, hwriting, _⟩ := attempt_eq hattempt
  unfold writing at hwriting
  split at hwriting
  · cases (Prod.mk.inj hwriting).2
  · cases (Prod.mk.inj hwriting).2
  · rename_i a' text trouble hcompose
    unfold settled at hwriting
    split at hwriting
    · cases (Prod.mk.inj hwriting).2
    · obtain rfl := Except.ok.inj (Prod.mk.inj hwriting).2
      exact (compose_ok hcompose).1

/-- **Both spellings of a query file have one declaration.**  Let the path of the file be given from the
    base directory, with any dots and two dots in it, but let its last name not be two dots, and let it
    not climb out of the base directory.  Then this path and any spelling of the same path from the
    root on, without NUL in it, have the same declaration, or neither has one.  So whoever is told of
    the file by either of them writes the same declaration, and removes the same one. -/
theorem artifact_spellings (hbase : w.base.IsPlace) (cwd : Path)
    (hrelative : (Path.ofText p).isAbsolute = false) (hname : (Path.ofText p).name ≠ "..")
    (hclimb : (Path.ofText p).normalized.parts.head? ≠ some "..")
    (hs : Path.ofText s = w.base.join (Path.ofText p)) (hnul : (Path.ofText s).hasNul = false) :
    (w.artifact cwd p).toOption = (w.artifact cwd s).toOption
    ∧ ∀ world : World, world.cwd = cwd →
      (∀ setback setback' a a', (w.attempt setback world p).1 = .ok a →
        (w.attempt setback' world s).1 = .ok a' → a = a')
      ∧ ((w.artifact cwd p).isOk = true → w.remove world p = w.remove world s) := by
  have hsource : w.relativeSource cwd p = .ok (Path.ofText p) := by
    simp only [relativeSource, hrelative, Bool.not_false, if_true]
  have hsource' := @relativeSource_join w cwd p s hbase hrelative hclimb hs hnul
  have hiff : ∀ a, w.artifact cwd s = .ok a ↔ w.artifact cwd p = .ok a := fun a => by
    have hnormal := @Path.artifact_normalized cwd (Path.ofText p) a w.outDir.text
      (Path.isWritten_ofText p) hname
    simpa [artifact, hsource, hsource', bind, Except.bind] using hnormal
  refine ⟨?_, fun world hworld => ⟨fun setback setback' a a' ha ha' => ?_, fun hok => ?_⟩⟩
  · refine Option.ext fun a => ⟨fun h => ?_, fun h => ?_⟩
    · exact congrArg Except.toOption ((hiff a).mpr (ok_of_toOption h))
    · exact congrArg Except.toOption ((hiff a).mp (ok_of_toOption h))
  · have ha := (hiff a).mpr (hworld ▸ artifact_of_attempt ha)
    exact Except.ok.inj (ha.symm.trans (hworld ▸ artifact_of_attempt ha'))
  · obtain ⟨a, ha⟩ : ∃ a, w.artifact cwd p = .ok a := by
      cases hp : w.artifact cwd p with
      | error f => rw [hp] at hok; cases hok
      | ok a => exact ⟨a, rfl⟩
    simp only [Writer.remove, hworld, ha, (hiff a).mpr ha]

theorem isPlace_smallBase {started : World} (h : smallPrepare = (.ok w, started)) :
    w.base.IsPlace :=
  (prepare_ok (isStart_smallWorld "query Q{a}") (show Path.IsWritten ⟨.root, ["b"]⟩ by decide)
    (show Path.IsWritten ⟨.here, ["src", "..", ".gql"]⟩ by decide) h).2.1.placed.base

/-- A spelling of the small project's query file with slashes, dots and a detour. -/
def smallSpelling : String := "src//./../src/q.gql"

/-- The spelling from the root on, and the declaration that it has. -/
theorem spelling_facts :
    (smallPrepare.1.toOption.map fun w =>
      (decide (Path.ofText ("/b/" ++ smallSpelling) = w.base.join (Path.ofText smallSpelling)),
        (w.artifact smallPrepare.2.cwd ("/b/" ++ smallSpelling)).toOption))
      = some (true, some ⟨.root, ["b", ".gql", "types", "src", "q.d.gql.ts"]⟩) := by
  decide +kernel

/-- So the spelling from the base directory has the same declaration. -/
theorem artifact_spellings_smallSpelling :
    ∃ w started, smallPrepare = (.ok w, started) ∧ w.base.IsPlace
      ∧ (w.artifact started.cwd smallSpelling).toOption
        = some ⟨.root, ["b", ".gql", "types", "src", "q.d.gql.ts"]⟩ := by
  have hfacts := spelling_facts
  rcases hprepare : smallPrepare with ⟨result, started⟩
  rw [hprepare] at hfacts
  cases result with
  | error f => cases hfacts
  | ok w =>
      obtain ⟨hs, hartifact⟩ := Prod.mk.inj (Option.some.inj hfacts)
      have hbase := isPlace_smallBase hprepare
      have hspellings := artifact_spellings hbase started.cwd
        (show (Path.ofText smallSpelling).isAbsolute = false by decide)
        (by decide +kernel) (by decide +kernel) (of_decide_eq_true hs) (by decide +kernel)
      exact ⟨w, started, rfl, hbase, hspellings.1.trans hartifact⟩

/-- A name with NUL in it has a declaration only if it is given from the base directory. -/
theorem nul_facts :
    (smallPrepare.1.toOption.map fun w =>
      ((w.artifact smallPrepare.2.cwd "src/a\x00.gql").toOption.isSome,
        (w.artifact smallPrepare.2.cwd
          (w.base.join (Path.ofText "src/a\x00.gql")).text).toOption.isSome))
      = some (true, false) := by
  decide +kernel

/-- **NUL tells the spellings apart**: no place is found for an absolute path that holds it, while a
    relative one is never looked for. -/
theorem artifact_spellings_nul :
    ¬ ∀ (w : Writer) (cwd : Path) (p : String), w.base.IsPlace →
      (Path.ofText p).isAbsolute = false → (Path.ofText p).name ≠ ".." →
      (Path.ofText p).normalized.parts.head? ≠ some ".." →
      (w.artifact cwd p).toOption = (w.artifact cwd (w.base.join (Path.ofText p)).text).toOption := by
  intro h
  have hfacts := nul_facts
  rcases hprepare : smallPrepare with ⟨result, started⟩
  rw [hprepare] at hfacts
  cases result with
  | error f => cases hfacts
  | ok w =>
      obtain ⟨hsome, hnone⟩ := Prod.mk.inj (Option.some.inj hfacts)
      have hbase := isPlace_smallBase hprepare
      have hsame := h w started.cwd "src/a\x00.gql" hbase (by decide) (by decide +kernel)
        (by decide +kernel)
      rw [hsame] at hsome
      exact absurd (hsome.symm.trans hnone) (by decide)

end Writer

end QueryTypings
