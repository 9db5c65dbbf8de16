/-
  What a build finds when it begins.

  1. **Emptied** — a directory that is cleared holds nothing, and everything else stays.

  2. **Made** — the directory for declarations is made in its place and on the way to it only,
     whatever goes wrong; if nothing does, it is open and holds nothing (`madeRoot_effect`).

  3. **Begun** — all that can come of making the directory (`tryPrepare_cases`).  If a build begins,
     its writer knows its places, and its output directory is open and empty (`prepare_ok`).
-/
import QueryTypings.Project.Plugin
import QueryTypings.Proofs.Project.Writing

namespace QueryTypings

open QueryTypings.Text QueryTypings.FileTree

/-! ## Emptied -/

namespace FileTree

/-- Emptying a directory is leaving nothing in it. -/
theorem clearBelow_eq (t : FileTree) (top : List String) :
    t.clearBelow top = t.clearBelowBut top fun _ => false := by
  rw [clearBelow, clearBelowBut]
  congr 2
  funext e
  rw [Bool.or_false]

theorem entry?_clearBelow_inside (t : FileTree) {top place : List String} (h : top <+: place)
    (hne : place ≠ []) : entry? (t.clearBelow top) place = none := by
  rw [entry?_of_ne_nil _ hne, clearBelow, Option.map_eq_none_iff, List.find?_eq_none]
  intro e he
  have hnot := (List.mem_filter.mp he).2
  simp only [Bool.not_eq_true', decide_eq_true_eq] at hnot ⊢
  rintro rfl
  have hpre : top.isPrefixOf e.1 = true := List.isPrefixOf_iff_prefix.mpr h
  rw [hpre] at hnot
  cases hnot

/-- Whatever is left in a directory, everything else stays. -/
theorem entry?_clearBelowBut_outside (t : FileTree) {top place : List String}
    (left : List String → Bool) (h : ¬ top <+: place) :
    entry? (t.clearBelowBut top left) place = t.entry? place := by
  by_cases hne : place = []
  · rw [hne, entry?_nil, entry?_nil]
  · rw [entry?_of_ne_nil _ hne, entry?_of_ne_nil _ hne, clearBelowBut, List.find?_filter]
    congr 2
    funext e
    have hnot : top.isPrefixOf place = false := by
      rw [Bool.eq_false_iff]
      intro hpre
      exact h <| List.isPrefixOf_iff_prefix.mp hpre
    by_cases he : e.1 = place
    · simp [he, hnot]
    · simp [he]

theorem entry?_clearBelow_outside (t : FileTree) {top place : List String}
    (h : ¬ top <+: place) : entry? (t.clearBelow top) place = t.entry? place := by
  rw [clearBelow_eq, entry?_clearBelowBut_outside t _ h]

/-- The directory holds nothing. -/
def Empty (t : FileTree) (top : List String) : Prop := ∀ place, Below top place → t.entry? place = none

theorem Empty.octets? {t : FileTree} {top place : List String} (h : Empty t top)
    (hplace : Below top place) : t.octets? place = none := by
  rw [FileTree.octets?, h place hplace]

/-- An open directory that holds nothing is sound. -/
theorem Empty.rooted {t : FileTree} {top : List String} (h : Empty t top) (ho : Opened t top) :
    Rooted t top :=
  ⟨ho, fun place hplace hsome => absurd (h place hplace) hsome⟩

/-- What is not at a place or below it stays, except that directories may come on the way to it. -/
def Spared (t t' : FileTree) (top : List String) : Prop :=
  ∀ place, ¬ top <+: place → t'.entry? place = t.entry? place
    ∨ t.entry? place = none ∧ t'.entry? place = some .directory ∧ place <+: top

theorem Spared.of_eq {t t' : FileTree} {top : List String}
    (h : ∀ place, ¬ top <+: place → t'.entry? place = t.entry? place) : Spared t t' top :=
  fun place hplace => Or.inl (h place hplace)

/-- What is there and not below the place stays. -/
theorem Spared.entry? {t t' : FileTree} {top place : List String} {e : Entry} (h : Spared t t' top)
    (hnot : ¬ top <+: place) (he : t.entry? place = some e) : t'.entry? place = some e := by
  rcases h place hnot with heq | ⟨hnone, _⟩
  · rw [heq, he]
  · rw [he] at hnone
    cases hnone

end FileTree

namespace Writer

/-! ## Made -/

/-- The directory with the declarations of query files. -/
def typesPlace (root : Path) : List String := root.parts ++ [typesName]

/-- The file with the schema's declaration. -/
def schemaPlace (root : Path) : List String := root.parts ++ [schemaFileName]

theorem typesPlace_ne (root : Path) : typesPlace root ≠ schemaPlace root := fun heq =>
  absurd (List.append_cancel_left heq) (by decide)

variable {t t' : FileTree} {root : Path} {text : String}

theorem typesPlace_noDots (h : ".." ∉ root.parts) : ".." ∉ typesPlace root := by
  intro hm
  rcases List.mem_append.mp hm with hm | hm
  · exact h hm
  · exact absurd (List.mem_singleton.mp hm) (by decide)

/-- Directories that come on the way to one in the root come on the way to the root, or in it. -/
theorem spared_of_grown (h : Grown t t' (typesPlace root)) : Spared t t' root.parts := by
  intro place hnot
  rcases h place with heq | ⟨hnone, hdirectory, hpre, _⟩
  · exact Or.inl heq
  · refine Or.inr ⟨hnone, hdirectory, ?_⟩
    rcases List.prefix_or_prefix_of_prefix hpre (List.prefix_append root.parts [typesName]) with
      h | h
    · exact h
    · exact absurd h hnot

/-- What comes into a directory that is made. -/
structure Filled (t : FileTree) (root : Path) (text : String) (t' : FileTree) : Prop where
  way : ∃ opened, Grown t opened (typesPlace root) ∧ Opened opened (typesPlace root)
    ∧ opened.entry? (schemaPlace root) ≠ some .directory
    ∧ t' = opened.put (schemaPlace root) (.file (encodeUtf8 text.toList))

/-- **Filling a directory**, whatever troubles it: nothing else is touched, and if nothing stops it,
    everything has come. -/
theorem filledRoot_effect (trouble : Trouble) {f : Option RootFault} (hdots : ".." ∉ root.parts)
    (h : filledRoot trouble t root text = (t', f)) :
    Spared t t' root.parts ∧ (f = none → Filled t root text t') := by
  unfold filledRoot at h
  split at h
  · -- a directory cannot be made
    rename_i p o hmade
    obtain ⟨rfl, rfl⟩ := Prod.mk.inj h
    obtain ⟨hgrown, _⟩ := openWay_opens trouble (typesPlace_noDots hdots) hmade
    exact ⟨spared_of_grown (hgrown _ List.mem_cons_self), fun hf => (by cases hf)⟩
  · rename_i p hmade
    obtain ⟨hgrown, hopened, _⟩ := openWay_opens trouble (typesPlace_noDots hdots) hmade
    have hlast := hgrown p.last List.mem_cons_self
    obtain ⟨hlast', hf⟩ := Prod.mk.inj h
    generalize hq : p.last.replaceFile trouble root.parts schemaFileName
      (encodeUtf8 text.toList) = q at hlast' hf
    rcases (replaceFile_passage hq).2 with ⟨_, hput, hfile, _⟩ | ⟨hsome, hback⟩
    · have hfilled : t' = p.last.put (schemaPlace root) (.file (encodeUtf8 text.toList)) :=
        hlast'.symm.trans hput
      refine ⟨fun place hnot => ?_, fun _ => ⟨p.last, hlast, (hopened rfl).2.1, hfile, hfilled⟩⟩
      have hne : place ≠ schemaPlace root := by
        rintro rfl
        exact hnot (List.prefix_append _ _)
      rw [hfilled, entry?_put_of_ne p.last hne]
      exact spared_of_grown hlast place hnot
    · rw [← hlast', hback]
      refine ⟨spared_of_grown hlast, fun hnone => absurd ?_ hsome⟩
      rw [hnone, Option.map_eq_none_iff] at hf
      exact hf

/-- **Making the directory**, whatever goes wrong: nothing outside it is touched but the way to it,
    and if nothing goes wrong, it is emptied first and then filled. -/
theorem madeRoot_effect (setback : RootSetback) {f : Option RootFault} (hdots : ".." ∉ root.parts)
    (h : madeRoot setback t root text = (t', f)) :
    Spared t t' root.parts ∧ (f = none → Filled (t.clearBelow root.parts) root text t') := by
  have hfilled : ∀ trouble, filledRoot trouble (t.clearBelow root.parts) root text = (t', f) →
      Spared t t' root.parts ∧ (f = none → Filled (t.clearBelow root.parts) root text t') := by
    intro trouble hfill
    obtain ⟨hspared, hall⟩ := filledRoot_effect trouble hdots hfill
    refine ⟨fun place hnot => ?_, hall⟩
    rw [← entry?_clearBelow_outside t hnot]
    exact hspared place hnot
  unfold madeRoot at h
  split at h
  · obtain ⟨rfl, rfl⟩ := Prod.mk.inj h
    exact ⟨.of_eq fun _ _ => rfl, fun hf => (by cases hf)⟩
  · obtain ⟨rfl, rfl⟩ := Prod.mk.inj h
    exact ⟨.of_eq fun _ _ => rfl, fun hf => (by cases hf)⟩
  · rename_i left r subject _
    obtain ⟨rfl, rfl⟩ := Prod.mk.inj h
    exact ⟨.of_eq fun place hnot => entry?_clearBelowBut_outside t left hnot,
      fun hf => (by cases hf)⟩
  · exact hfilled _ h
  · exact hfilled _ h

/-- The directory for declarations of query files is open. -/
theorem Filled.opened (h : Filled t root text t') : Opened t' (typesPlace root) := by
  obtain ⟨opened, _, hopened, hfile, rfl⟩ := h.way
  intro place hplace
  have hne : place ≠ schemaPlace root := by
    rintro rfl
    exact hfile (hopened _ hplace)
  rw [entry?_put_of_ne opened hne, hopened place hplace]

/-- Beside it lies the declaration of the schema. -/
theorem Filled.schemaFile (h : Filled t root text t') :
    t'.entry? (schemaPlace root) = some (.file (encodeUtf8 text.toList)) := by
  obtain ⟨opened, _, _, _, rfl⟩ := h.way
  exact entry?_put_self opened (by simp [schemaPlace]) _

/-- Nothing else lies in a directory that was emptied. -/
theorem Filled.nothing_else (h : Filled (t.clearBelow root.parts) root text t') {place : List String}
    (hplace : Below root.parts place) (htypes : place ≠ typesPlace root)
    (hschema : place ≠ schemaPlace root) : t'.entry? place = none := by
  obtain ⟨opened, hgrown, _, _, rfl⟩ := h.way
  rw [entry?_put_of_ne opened hschema]
  rcases hgrown place with heq | ⟨_, _, hpre, _⟩
  · rw [heq]
    exact entry?_clearBelow_inside t hplace.1 hplace.ne_nil
  · -- what comes there lies on the way to the directory
    rcases List.prefix_concat_iff.mp hpre with heq | hpre
    · exact absurd heq htypes
    · exact absurd (hplace.1.eq_of_length_le hpre.length_le).symm hplace.2

/-- **The directory for declarations is made empty.** -/
theorem Filled.empty (h : Filled (t.clearBelow root.parts) root text t') :
    t'.Empty (typesPlace root) := by
  intro place hplace
  have hroot : Below root.parts place := by
    refine ⟨(List.prefix_append _ _).trans hplace.1, ?_⟩
    rintro rfl
    have hle := hplace.1.length_le
    rw [typesPlace, List.length_append, List.length_singleton] at hle
    omega
  refine h.nothing_else hroot hplace.2 ?_
  -- the file with the schema's declaration lies beside the directory
  rintro rfl
  refine typesPlace_ne root (hplace.1.eq_of_length_le ?_)
  rw [typesPlace, schemaPlace, List.length_append, List.length_append]
  exact Nat.le_refl _

end Writer

/-! ## Begun -/

/-- The paths from which a build begins are written. -/
structure Config.IsWritten (c : Config) : Prop where
  baseDir : c.baseDir.IsWritten
  searchDir : c.searchDir.IsWritten
  virtualDir : c.virtualDir.IsWritten

theorem Path.IsStart.join {cwd p : Path} (h : cwd.IsStart) (hp : p.IsWritten) :
    (Path.resolved cwd p).IsPlace :=
  Path.isPlace_resolved h.isAbsolute h.written hp

/-- What a writer and the world are like when a build has begun. -/
structure Writer.Begun (w : Writer) (world : World) : Prop where
  placed : w.Placed
  opened : Opened world.tree w.outDir.parts
  empty : world.tree.Empty w.outDir.parts

theorem Writer.Begun.rooted {w : Writer} {world : World} (h : w.Begun world) :
    Rooted world.tree w.outDir.parts :=
  h.empty.rooted h.opened

namespace Writer

variable {setback : RootSetback} {s : Schema} {scalars : OrderedMap String} {base virtualDir : Path}
  {kept : List Path} {world after : World}

/-- All that can come of making the directory. -/
inductive Prepared (setback : RootSetback) (s : Schema) (scalars : OrderedMap String)
    (base virtualDir : Path) (kept : List Path) (world : World) :
    Except StartFault Writer → World → Prop
  | nul (held : ((base :: virtualDir :: kept).any Path.hasNul) = true) :
      Prepared setback s scalars base virtualDir kept world (.error (.broken .nulInPath)) world
  | held {p : Path} (clean : ((base :: virtualDir :: kept).any Path.hasNul) = false)
      (mem : p ∈ keptAt world.cwd base kept)
      (holds : (rootAt world.cwd base virtualDir).contains p = true) :
      Prepared setback s scalars base virtualDir kept world
        (.error (.root (.holds (rootAt world.cwd base virtualDir) p))) world
  | refused {t : FileTree} {f : RootFault}
      (clean : ((base :: virtualDir :: kept).any Path.hasNul) = false)
      (free : ∀ p ∈ keptAt world.cwd base kept,
        (rootAt world.cwd base virtualDir).contains p = false)
      (made : madeRoot setback world.tree (rootAt world.cwd base virtualDir)
        (Declaration.schemaDeclaration s scalars) = (t, some f)) :
      Prepared setback s scalars base virtualDir kept world (.error (.root f))
        { world with tree := t }
  | made {t : FileTree} {w : Writer} {line : String}
      (clean : ((base :: virtualDir :: kept).any Path.hasNul) = false)
      (free : ∀ p ∈ keptAt world.cwd base kept,
        (rootAt world.cwd base virtualDir).contains p = false)
      (made : madeRoot setback world.tree (rootAt world.cwd base virtualDir)
        (Declaration.schemaDeclaration s scalars) = (t, none))
      (hasSchema : w.schema = s) (hasScalars : w.scalars = scalars)
      (hasBase : w.base = Path.resolved world.cwd base)
      (hasOutDir : w.outDir = (rootAt world.cwd base virtualDir).join ⟨.here, [typesName]⟩)
      (hasSchemaFile :
        w.schemaFile = (rootAt world.cwd base virtualDir).join ⟨.here, [schemaFileName]⟩) :
      Prepared setback s scalars base virtualDir kept world (.ok w)
        ({ world with tree := t }.say .info line)

theorem tryPrepare_cases {result : Except StartFault Writer}
    (h : tryPrepare setback s scalars base virtualDir kept world = (result, after)) :
    Prepared setback s scalars base virtualDir kept world result after := by
  unfold tryPrepare at h
  split at h
  · rename_i hnul
    obtain ⟨rfl, rfl⟩ := Prod.mk.inj h
    exact .nul hnul
  · rename_i hclean
    have hclean := Bool.eq_false_iff.mpr hclean
    simp only at h
    split at h
    · rename_i p hheld
      obtain ⟨rfl, rfl⟩ := Prod.mk.inj h
      exact .held hclean (List.mem_of_find?_eq_some hheld) (List.find?_some hheld)
    · rename_i hheld
      have hfree : ∀ p ∈ keptAt world.cwd base kept,
          (rootAt world.cwd base virtualDir).contains p = false :=
        fun p hp => Bool.eq_false_iff.mpr (List.find?_eq_none.mp hheld p hp)
      split at h
      · rename_i t f hmade
        obtain ⟨rfl, rfl⟩ := Prod.mk.inj h
        exact .refused hclean hfree hmade
      · rename_i t hmade
        obtain ⟨rfl, rfl⟩ := Prod.mk.inj h
        exact .made hclean hfree hmade rfl rfl rfl rfl rfl

/-- **A build begins with an open and empty output directory**, and what has to be kept does not lie
    in the directory that is made. -/
theorem prepare_ok {started : World} {w : Writer} (hc : world.cwd.IsStart) (hbase : base.IsWritten)
    (hvirtual : virtualDir.IsWritten)
    (h : prepare s scalars base virtualDir kept world = (.ok w, started)) :
    started.cwd = world.cwd ∧ w.Begun started ∧ ∃ root : Path, root.IsPlace
      ∧ w.outDir.parts = root.parts ++ [typesName]
      ∧ (∀ p ∈ kept, root.contains (Path.resolved world.cwd (w.base.join p)) = false)
      ∧ ∀ place e, ¬ root.parts <+: place → world.tree.entry? place = some e →
        started.tree.entry? place = some e := by
  cases tryPrepare_cases h with
  | made hclean hfree hmade _ _ hasBase hasOutDir _ =>
      have hb := hc.join hbase
      have hroot : (rootAt world.cwd base virtualDir).IsPlace :=
        hc.join (hb.written.join hvirtual)
      obtain ⟨hspared, hfilled⟩ := madeRoot_effect .nothing hroot.noDots hmade
      have hout : w.outDir.parts = typesPlace (rootAt world.cwd base virtualDir) := by
        rw [hasOutDir]
        rfl
      have hplace : w.outDir.IsPlace := by
        rw [hasOutDir]
        refine hroot.join (by decide) fun n hn => ?_
        obtain rfl := List.mem_singleton.mp hn
        exact ⟨by decide, by decide⟩
      refine ⟨rfl, ⟨⟨hasBase ▸ hb, hplace⟩, ?_, ?_⟩, _, hroot, hout, fun p hp => ?_,
        fun place e hnot he => hspared.entry? hnot he⟩
      · rw [hout]
        exact (hfilled rfl).opened
      · rw [hout]
        exact (hfilled rfl).empty
      · rw [hasBase]
        exact hfree _ (List.mem_cons_of_mem _ (List.mem_map.mpr ⟨p, hp, rfl⟩))

end Writer

theorem Plugin.prepare_eq {c : Config} {world started : World} {w : Writer}
    (h : Plugin.prepare c world = (.ok w, started)) :
    ∃ s, Writer.prepare s c.scalars (c.resolvedBase world.cwd) c.virtualDir
      [c.resolvedSchema world.cwd, c.resolvedSearch world.cwd] world = (.ok w, started) := by
  unfold Plugin.prepare at h
  simp only at h
  split at h
  · cases (Prod.mk.inj h).1
  · split at h
    · cases (Prod.mk.inj h).1
    · split at h
      · cases (Prod.mk.inj h).1
      · exact ⟨_, h⟩

theorem Plugin.prepare_ok {c : Config} {world started : World} {w : Writer}
    (hc : world.cwd.IsStart) (hconfig : c.IsWritten)
    (h : Plugin.prepare c world = (.ok w, started)) :
    started.cwd = world.cwd ∧ w.Begun started := by
  obtain ⟨s, h⟩ := prepare_eq h
  obtain ⟨hcwd, hbegun, _⟩ :=
    Writer.prepare_ok hc (hc.join hconfig.baseDir).written hconfig.virtualDir h
  exact ⟨hcwd, hbegun⟩

/-- **The search directory outlives the beginning of a build.** -/
theorem Plugin.prepare_search {c : Config} {world started : World} {w : Writer}
    (hc : world.cwd.IsStart) (hconfig : c.IsWritten)
    (h : Plugin.prepare c world = (.ok w, started))
    (hsearch : world.isDirectory (c.resolvedSearch world.cwd) = .ok true) :
    started.isDirectory (c.resolvedSearch started.cwd) = .ok true := by
  obtain ⟨s, h⟩ := prepare_eq h
  have hb := hc.join hconfig.baseDir
  obtain ⟨hcwd, hbegun, root, hroot, _, hkept, hsame⟩ :=
    Writer.prepare_ok hc hb.written hconfig.virtualDir h
  have hplace : (c.resolvedSearch world.cwd).IsPlace := hc.join (hb.written.join hconfig.searchDir)
  have hjoin : Path.resolved world.cwd (w.base.join (c.resolvedSearch world.cwd))
      = c.resolvedSearch world.cwd := by
    rw [Path.join, if_pos hplace.isAbsolute, Path.resolved_of_isPlace hplace]
  have hnot : ¬ root.parts <+: (c.resolvedSearch world.cwd).parts := by
    rintro ⟨rest, hrest⟩
    have hout := hkept _ (List.mem_cons_of_mem _ List.mem_cons_self)
    rw [hjoin, Path.contains, (Path.inside?_eq_some_iff hroot hplace).mpr hrest.symm] at hout
    cases hout
  have hlook : started.lookUp (c.resolvedSearch world.cwd)
      = world.lookUp (c.resolvedSearch world.cwd) := by
    refine lookUp_congr hplace fun way hway => ?_
    have hthere := opened_of_isDirectory hplace hsearch way hway
    rw [hthere, hsame way .directory (fun hpre => hnot (hpre.trans hway)) hthere]
  rw [World.isDirectory] at hsearch
  rw [hcwd, World.isDirectory, hlook, hsearch]

/-! ## A small project -/

/-- The settings of a small project. -/
def smallConfig : Config where
  schemaPath := ⟨.here, ["s.graphql"]⟩
  scalars := []
  searchDir := ⟨.here, ["src"]⟩
  extensions := [".gql"]
  virtualDir := ⟨.here, [".gql"]⟩
  baseDir := ⟨.root, ["b"]⟩
  startupTimeoutMs := 1000

/-- The place of its only query file. -/
def smallFile : Path := ⟨.root, ["b", "src", "q.gql"]⟩

/-- The project, with the text of the query file. -/
def smallWorld (query : String) : World where
  cwd := ⟨.root, ["b"]⟩
  tree := ⟨[(["b"], .directory), (["b", "src"], .directory),
    (["b", "s.graphql"], .file (encodeUtf8 "type Query{a:Int}".toList)),
    (smallFile.parts, .file (encodeUtf8 query.toList))]⟩
  log := []

theorem isStart_smallWorld (query : String) : (smallWorld query).cwd.IsStart := by
  have hcwd : Path.IsStart ⟨.root, ["b"]⟩ := ⟨by decide, by decide⟩
  exact hcwd

theorem isWritten_smallConfig : smallConfig.IsWritten := ⟨by decide, by decide, by decide⟩

theorem isPlace_smallFile : smallFile.IsPlace := ⟨rfl, by decide, by decide⟩

end QueryTypings
