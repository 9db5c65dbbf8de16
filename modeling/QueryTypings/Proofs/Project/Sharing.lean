/-
  When two query files have one declaration.

  1. **Two directories** — a source is read from the base directory, and its declaration is placed
     from the output directory.  A source that climbs may come down again into the output directory,
     and then it is read elsewhere: from the base directory as many names up, and down the names by
     which it has come back (`footing`).

  2. **Sharing** — so sources with one declaration denote one file if and only if they stand on the
     same footing (`sharedArtifact_iff`).  Those that do not climb always do.
-/
import QueryTypings.Proofs.Path.Climbing
import QueryTypings.Proofs.Project.Preparation

namespace QueryTypings.Writer

variable {w : Writer} {cwd : Path}

/-! ## Two directories -/

/-- The file that a source denotes, taken from the base directory. -/
def sourcePlace (cwd : Path) (w : Writer) (source : String) : Path :=
  Path.resolved cwd (w.base.join (Path.ofText source))

/-- Where a source that comes down into the output directory is read from: the base directory without
    as many names as the source climbs, and the names of the output directory that take them back. -/
def footing (w : Writer) (relative : Path) : List String :=
  w.base.parts.rdrop relative.climb ++ w.outDir.parts.rtake relative.climb

/-- A source that does not climb is read from the base directory. -/
theorem footing_of_climb_eq_zero {r : Path} (h : r.climb = 0) : w.footing r = w.base.parts := by
  rw [footing, h, List.rdrop_zero, List.rtake_zero, List.append_nil]

/-- **The file that a source denotes**, absolute or not. -/
theorem sourcePlace_eq (hw : w.Placed) (hc : cwd.IsStart) {s : String} {r : Path}
    (hr : w.relativeSource cwd s = .ok r) :
    w.sourcePlace cwd s = ⟨.root, w.base.parts.rdrop r.climb ++ r.descent⟩ := by
  cases hs : (Path.ofText s).isAbsolute with
  | true =>
      obtain ⟨_, hplace, _⟩ := relativeSource_ok hw hc hs hr
      obtain ⟨hclimb, hdescent⟩ := Path.climb_of_noDots (relativeSource_parts hw hc hs hr).1
      have hjoin : w.base.join (Path.ofText s) = Path.ofText s := if_pos hs
      rw [hclimb, hdescent, List.rdrop_zero, ← hplace, sourcePlace, hjoin, Path.placeOf]
  | false =>
      simp only [relativeSource, hs] at hr
      obtain rfl := Except.ok.inj hr
      rw [sourcePlace, Path.resolved, Path.absolute_join_relative hw.base hs]

/-- What is left of the way down, once a source is in the output directory again, leads from its
    footing to the file. -/
theorem sourcePlace_of_below (hw : w.Placed) (hc : cwd.IsStart) {s : String} {r : Path}
    {way : List String} (hr : w.relativeSource cwd s = .ok r)
    (h : Path.absolute cwd (w.outDir.join r) = w.outDir.join ⟨.here, way⟩) :
    w.sourcePlace cwd s = ⟨.root, w.footing r ++ way⟩ := by
  have hrelative := relativeSource_isAbsolute hr
  rw [Path.absolute_join_relative hw.outDir hrelative] at h
  have hparts : w.outDir.parts.rdrop r.climb ++ r.descent = w.outDir.parts ++ way :=
    congrArg Path.parts h
  have hout : w.outDir.parts.rdrop r.climb ++ w.outDir.parts.rtake r.climb = w.outDir.parts :=
    List.take_append_drop _ _
  have hdescent : r.descent = w.outDir.parts.rtake r.climb ++ way := by
    conv_rhs at hparts => rw [← hout, List.append_assoc]
    exact List.append_cancel_left hparts
  rw [sourcePlace_eq hw hc hr, hdescent, footing, List.append_assoc]

/-! ## Sharing -/

/-- **When two sources have one declaration, and what follows.**  They have if they lead to one place
    from the output directory.  Then they denote one file if and only if they stand on the same
    footing, so in any case if neither climbs. -/
theorem sharedArtifact_iff (hw : w.Placed) (hc : cwd.IsStart) {s s' : String} {r r' a a' : Path}
    (hr : w.relativeSource cwd s = .ok r) (hr' : w.relativeSource cwd s' = .ok r')
    (h : w.artifact cwd s = .ok a) (h' : w.artifact cwd s' = .ok a') :
    (a = a' ↔ Path.absolute cwd (w.outDir.join r) = Path.absolute cwd (w.outDir.join r'))
    ∧ (a = a' →
      (w.sourcePlace cwd s = w.sourcePlace cwd s' ↔ w.footing r = w.footing r'))
    ∧ (a = a' → r.climb = 0 → r'.climb = 0 → w.sourcePlace cwd s = w.sourcePlace cwd s') := by
  obtain ⟨_, hrel, ha⟩ := artifact_eq_ok.mp h
  obtain ⟨_, hrel', ha'⟩ := artifact_eq_ok.mp h'
  obtain rfl := Except.ok.inj (hr.symm.trans hrel)
  obtain rfl := Except.ok.inj (hr'.symm.trans hrel')
  have hiff := Path.artifact_eq_iff hw.outDir ha ha'
  obtain ⟨way, _, hplace⟩ := Path.artifact_beside hw.outDir ha
  obtain ⟨way', _, hplace'⟩ := Path.artifact_beside hw.outDir ha'
  rw [ofText_relativeSource hw hc hr, ofText_relativeSource hw hc hr'] at hiff
  rw [ofText_relativeSource hw hc hr] at hplace
  rw [ofText_relativeSource hw hc hr'] at hplace'
  have hfooting : a = a' →
      (w.sourcePlace cwd s = w.sourcePlace cwd s' ↔ w.footing r = w.footing r') := by
    intro heq
    have hsame := hplace.symm.trans ((hiff.mp heq).trans hplace')
    have hways := Path.join_injective w.outDir hsame
    rw [sourcePlace_of_below hw hc hr hplace, sourcePlace_of_below hw hc hr' hplace', hways]
    refine ⟨fun hfile => ?_, fun hfoot => by rw [hfoot]⟩
    exact List.append_cancel_right (congrArg Path.parts hfile)
  refine ⟨hiff, hfooting, fun heq hclimb hclimb' => (hfooting heq).mpr ?_⟩
  rw [footing_of_climb_eq_zero hclimb, footing_of_climb_eq_zero hclimb']

/-- A query file beside the small project's base directory, in a directory that is named as the
    output directory is. -/
def reentered : String := "../types/src/q.gql"

/-- The small project's query file and the one outside have one declaration, on different footings. -/
theorem reentered_facts :
    (smallPrepare.1.toOption.map fun w => decide
      (w.artifact ⟨.root, ["b"]⟩ "src/q.gql"
          = .ok ⟨.root, ["b", ".gql", "types", "src", "q.d.gql.ts"]⟩
        ∧ w.artifact ⟨.root, ["b"]⟩ reentered
          = .ok ⟨.root, ["b", ".gql", "types", "src", "q.d.gql.ts"]⟩
        ∧ w.footing (.ofText "src/q.gql") ≠ w.footing (.ofText reentered))) = some true := by
  decide +kernel

/-- **Two query files may share a declaration**: one inside the base directory, one outside. -/
theorem sharedArtifact_iff_reentered :
    ∃ w started a, smallPrepare = (.ok w, started) ∧ w.Placed
      ∧ w.artifact ⟨.root, ["b"]⟩ "src/q.gql" = .ok a ∧ w.artifact ⟨.root, ["b"]⟩ reentered = .ok a
      ∧ w.sourcePlace ⟨.root, ["b"]⟩ "src/q.gql" ≠ w.sourcePlace ⟨.root, ["b"]⟩ reentered := by
  have hfacts := reentered_facts
  rcases hprepare : smallPrepare with ⟨result, started⟩
  rw [hprepare] at hfacts
  cases result with
  | error f => cases hfacts
  | ok w =>
      have hstart : Path.IsStart ⟨.root, ["b"]⟩ := isStart_smallWorld "query Q{a}"
      have hplaced := (prepare_ok (isStart_smallWorld "query Q{a}")
        (show Path.IsWritten ⟨.root, ["b"]⟩ by decide)
        (show Path.IsWritten ⟨.here, ["src", "..", ".gql"]⟩ by decide) hprepare).2.1.placed
      obtain ⟨hinside, houtside, hfooting⟩ := of_decide_eq_true (Option.some.inj hfacts)
      have hshared := (sharedArtifact_iff hplaced hstart
        (show w.relativeSource _ "src/q.gql" = .ok (.ofText "src/q.gql") from rfl)
        (show w.relativeSource _ reentered = .ok (.ofText reentered) from rfl)
        hinside houtside).2.1 rfl
      exact ⟨w, started, _, rfl, hplaced, hinside, houtside, fun heq => hfooting (hshared.mp heq)⟩

end QueryTypings.Writer
