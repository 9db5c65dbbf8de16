/-
  What making the directory for declarations touches.

  The directory is emptied before it is made, and it may be given by a path that goes up, or by an
  absolute one.  What keeps the rest of the tree safe is one comparison of places.

  1. **Comparison** — a directory holds a place if and only if its names begin those of the place
     (`contains_resolved_iff`).  So the comparison sees all that emptying the directory reaches.

  2. **Reach** — if the directory holds the base directory, or a place that is to be kept, nothing is
     touched and this is told.  If it holds none of them, only the directory is touched, and the way
     to it, whatever goes wrong (`tryPrepare_reach`).
-/
import QueryTypings.Proofs.Project.Start

namespace QueryTypings

open QueryTypings.Text QueryTypings.FileTree

/-! ## Comparison -/

/-- **A directory holds a place if and only if its names begin those of the place.** -/
theorem Path.contains_resolved_iff {cwd p q : Path} :
    (resolved cwd p).contains (resolved cwd q) = true
      ↔ (resolved cwd p).parts <+: (resolved cwd q).parts := by
  have horigin : (resolved cwd p).origin = (resolved cwd q).origin := rfl
  rw [contains, inside?, if_pos horigin, Option.isSome_iff_exists]
  constructor
  · rintro ⟨rest, hrest⟩
    exact ⟨rest, (dropFront?_eq_some_iff.mp hrest).symm⟩
  · rintro ⟨rest, hrest⟩
    exact ⟨rest, dropFront?_eq_some_iff.mpr hrest.symm⟩

namespace Writer

variable {setback : RootSetback} {s : Schema} {scalars : OrderedMap String} {base virtualDir : Path}
  {kept : List Path} {world after : World}

theorem contains_keptAt {cwd p : Path} (hp : p ∈ keptAt cwd base kept) :
    (rootAt cwd base virtualDir).contains p = true
      ↔ (rootAt cwd base virtualDir).parts <+: p.parts := by
  rcases List.mem_cons.mp hp with rfl | hp
  · exact Path.contains_resolved_iff
  · obtain ⟨q, _, rfl⟩ := List.mem_map.mp hp
    exact Path.contains_resolved_iff

/-- The comparison sees all that emptying the directory would reach. -/
theorem not_prefix_of_free
    (h : ∀ p ∈ keptAt world.cwd base kept, (rootAt world.cwd base virtualDir).contains p = false) :
    ∀ p ∈ keptAt world.cwd base kept, ¬ (rootAt world.cwd base virtualDir).parts <+: p.parts := by
  intro p hp hpre
  have hnot := h p hp
  rw [(contains_keptAt hp).mpr hpre] at hnot
  cases hnot

/-! ## Reach -/

/-- The paths can be those of a system: none of them holds NUL. -/
def Clean (base virtualDir : Path) (kept : List Path) : Prop :=
  ((base :: virtualDir :: kept).any Path.hasNul) = false

instance : Decidable (Clean base virtualDir kept) := inferInstanceAs (Decidable (_ = false))

/-- A directory in which there are the declaration of the schema and an empty directory for the
    declarations of query files, and nothing else. -/
structure FreshRoot (t : FileTree) (root : Path) (text : String) : Prop where
  directory : t.entry? root.parts = some .directory
  schemaFile : t.entry? (schemaPlace root) = some (.file (encodeUtf8 text.toList))
  types : t.entry? (typesPlace root) = some .directory
  nothing_else : ∀ place, Below root.parts place → place ≠ schemaPlace root →
    place ≠ typesPlace root → t.entry? place = none

theorem Filled.freshRoot {t t' : FileTree} {root : Path} {text : String}
    (h : Filled (t.clearBelow root.parts) root text t') : FreshRoot t' root text where
  directory := h.opened _ (List.prefix_append root.parts [typesName])
  schemaFile := h.schemaFile
  types := h.opened _ (List.prefix_refl _)
  nothing_else := fun _ hplace hschema htypes => h.nothing_else hplace htypes hschema

/-- **Making the directory touches it and the way to it only**, whatever goes wrong.  If it holds the
    base directory or something that is to be kept, it is not made, and nothing is touched.  If it
    does not, all else stays that is not in it: so do the base directory and what is to be kept, with
    all that they hold outside it; and if it is made, it holds the declaration of the schema and an
    empty directory. -/
theorem tryPrepare_reach (setback : RootSetback) (s : Schema) (scalars : OrderedMap String)
    (base virtualDir : Path) (kept : List Path) {world : World}
    (hcwd : world.cwd.isAbsolute = true) :
    let root := rootAt world.cwd base virtualDir
    let r := tryPrepare setback s scalars base virtualDir kept world
    (¬ Clean base virtualDir kept → r.1 = .error (.broken .nulInPath) ∧ r.2 = world)
    ∧ (Clean base virtualDir kept →
        (∃ p ∈ keptAt world.cwd base kept, root.parts <+: p.parts) →
        (∃ p ∈ keptAt world.cwd base kept, root.parts <+: p.parts
          ∧ r.1 = .error (.root (.holds root p))) ∧ r.2 = world)
    ∧ (Clean base virtualDir kept →
        (∀ p ∈ keptAt world.cwd base kept, ¬ root.parts <+: p.parts) →
        (∀ place, ¬ root.parts <+: place → r.2.tree.entry? place = world.tree.entry? place
          ∨ world.tree.entry? place = none ∧ r.2.tree.entry? place = some .directory
            ∧ place <+: root.parts)
        ∧ (∀ p ∈ keptAt world.cwd base kept, ∀ place e, p.parts <+: place →
          ¬ root.parts <+: place → world.tree.entry? place = some e →
          r.2.tree.entry? place = some e)
        ∧ ∀ w, r.1 = .ok w →
          FreshRoot r.2.tree root (Declaration.schemaDeclaration s scalars)) := by
  intro root r
  rcases hr : tryPrepare setback s scalars base virtualDir kept world with ⟨result, after⟩
  have hresult : r = (result, after) := hr
  have hdots : ".." ∉ root.parts := Path.resolved_noDots hcwd
  simp only [hresult]
  cases tryPrepare_cases hr with
  | nul hnul =>
      have hunclean : ¬ Clean base virtualDir kept := fun hclean => by
        rw [Clean, hnul] at hclean
        cases hclean
      exact ⟨fun _ => ⟨rfl, rfl⟩, fun hclean => absurd hclean hunclean,
        fun hclean => absurd hclean hunclean⟩
  | @held p hclean hmem hholds =>
      have hpre := (contains_keptAt hmem).mp hholds
      exact ⟨fun hunclean => absurd hclean hunclean, fun _ _ => ⟨⟨p, hmem, hpre, rfl⟩, rfl⟩,
        fun _ hfree => absurd hpre (hfree p hmem)⟩
  | @refused t f hclean hfree hmade =>
      have hspared := (madeRoot_effect setback hdots hmade).1
      refine ⟨fun hunclean => absurd hclean hunclean, ?_, fun _ _ => ⟨hspared, ?_, ?_⟩⟩
      · rintro _ ⟨p, hmem, hpre⟩
        exact absurd hpre (not_prefix_of_free hfree p hmem)
      · exact fun p _ place e _ hnot he => hspared.entry? hnot he
      · exact fun w hw => (by cases hw)
  | @made t w line hclean hfree hmade _ _ _ _ _ =>
      obtain ⟨hspared, hfilled⟩ := madeRoot_effect setback hdots hmade
      refine ⟨fun hunclean => absurd hclean hunclean, ?_, fun _ _ => ⟨hspared, ?_, ?_⟩⟩
      · rintro _ ⟨p, hmem, hpre⟩
        exact absurd hpre (not_prefix_of_free hfree p hmem)
      · exact fun p _ place e _ hnot he => hspared.entry? hnot he
      · exact fun _ _ => (hfilled rfl).freshRoot

/-- The schema of a small project. -/
def smallSchema : Schema := (Schema.ofText "type Query{a:Int}").toOption.getD default

/-- Making the directory of a small project. -/
def smallPrepare : Except StartFault Writer × World :=
  tryPrepare .nothing smallSchema [] ⟨.root, ["b"]⟩ ⟨.here, ["src", "..", ".gql"]⟩
    [⟨.here, ["s.graphql"]⟩] (smallWorld "query Q{a}")

/-- The small project's schema stays, and its directory is made as it should be. -/
theorem tryPrepare_reach_smallPrepare :
    (smallWorld "query Q{a}").cwd.isAbsolute = true ∧ smallPrepare.1.toOption.isSome = true
      ∧ smallPrepare.2.tree.entry? ["b", "s.graphql"]
        = (smallWorld "query Q{a}").tree.entry? ["b", "s.graphql"]
      ∧ FreshRoot smallPrepare.2.tree ⟨.root, ["b", ".gql"]⟩
        (Declaration.schemaDeclaration smallSchema []) := by
  have hreach := (tryPrepare_reach .nothing smallSchema [] ⟨.root, ["b"]⟩
    ⟨.here, ["src", "..", ".gql"]⟩ [⟨.here, ["s.graphql"]⟩]
    (show (smallWorld "query Q{a}").cwd.isAbsolute = true by decide)).2.2 (by decide +kernel)
    (by decide +kernel)
  have hmade : smallPrepare.1.toOption.isSome = true := by decide +kernel
  obtain ⟨hspared, _, hfresh⟩ := hreach
  refine ⟨by decide, hmade, ?_, ?_⟩
  · rcases hspared ["b", "s.graphql"] (by decide +kernel) with heq | ⟨hnone, _⟩
    · exact heq
    · exact absurd hnone (by decide +kernel)
  · rcases hmade' : smallPrepare.1 with f | w
    · rw [hmade'] at hmade
      cases hmade
    · exact hfresh w hmade'

/-- **Not every directory that holds the base directory is refused as such**: if a path to be kept
    holds NUL, no place is found for it, and this breaks down before anything is compared. -/
theorem prepare_nul :
    ¬ ∀ (s : Schema) (scalars : OrderedMap String) (base virtualDir : Path) (kept : List Path)
      (world : World), world.cwd.isAbsolute = true →
      (∃ p ∈ keptAt world.cwd base kept, (rootAt world.cwd base virtualDir).parts <+: p.parts) →
      ∃ f, (prepare s scalars base virtualDir kept world).1 = .error (.root f) := by
  intro h
  obtain ⟨f, hf⟩ := h smallSchema [] ⟨.root, ["b"]⟩ ⟨.here, []⟩ [⟨.here, ["a\x00b"]⟩]
    (smallWorld "query Q{a}") (by decide) ⟨⟨.root, ["b"]⟩, List.mem_cons_self, by decide +kernel⟩
  cases hf

end Writer

end QueryTypings
