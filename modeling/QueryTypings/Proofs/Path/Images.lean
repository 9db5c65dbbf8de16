/-
  Which paths are those of declarations.

  1. **The name** — a name that is read as that of a declaration is made from the name that is read
     out of it (`sourceName?_eq_some_iff`): what is taken away is what was added.

  2. **The way** — a way from one path to another that does not climb is what the other has more
     (`absolute_of_relativeTo`).  So a path that is read lies below the root, at the end of a way that
     ends in the name of a declaration (`source_eq_ok`).

  3. **Images** — so the query file that is read from a path has a declaration, and it lies at that
     path; and every path where a declaration lies is read (`artifact_source`).
-/
import QueryTypings.Proofs.Path.Inverse

namespace QueryTypings.Path

/-! ## The name -/

theorem dropSuffix?_eq_some_iff {suffix s r : String} :
    dropSuffix? suffix s = some r ↔ s = r ++ suffix := by
  refine ⟨fun h => ?_, fun h => h ▸ dropSuffix?_append r suffix⟩
  rw [dropSuffix?] at h
  split at h
  · rename_i hprefix
    obtain ⟨back, hback⟩ := List.isPrefixOf_iff_prefix.mp hprefix
    have hlength : suffix.length = suffix.toList.reverse.length := by
      rw [List.length_reverse, String.length_toList]
    rw [← hback, hlength, List.drop_left] at h
    obtain rfl := Option.some.inj h
    have hlist : s.toList = back.reverse ++ suffix.toList := by
      rw [← List.reverse_reverse s.toList, ← hback, List.reverse_append, List.reverse_reverse]
    refine String.toList_inj.mp ?_
    rw [hlist, String.toList_append, String.toList_ofList]
  · cases h

/-- **What is read from the name of a declaration** is the name that it was made from. -/
theorem sourceName?_eq_some_iff {artifact name : String} : sourceName? artifact = some name
    ↔ (splitName name).2 ≠ ""
      ∧ artifact = artifactName (splitName name).1 (splitName name).2 := by
  refine ⟨fun h => ?_, fun ⟨hextension, h⟩ => h ▸ sourceName?_artifactName hextension⟩
  obtain ⟨inner, hinner, hread⟩ := Option.bind_eq_some_iff.mp h
  obtain rfl := dropSuffix?_eq_some_iff.mp hinner
  dsimp only at hread
  split at hread
  · cases hread
  · rename_i front hfront
    split at hread
    · cases hread
    · rename_i hfull
      simp only [Bool.or_eq_true, decide_eq_true_eq, not_or] at hfull
      obtain ⟨hextension, hne⟩ := hfull
      obtain rfl := Option.some.inj hread
      obtain ⟨stem, x, _, hx, hdot, hwhole, hsplit⟩ := splitName_cases hextension
      rw [hsplit] at hfront ⊢
      -- the name is cut where the text between stem and ending is
      have hcut : splitName (front ++ String.ofList ('.' :: x)) = (front, String.ofList ('.' :: x)) := by
        have hfront' : front.toList ≠ [] := fun hnil => hne (String.toList_inj.mp hnil)
        have hsplit' := splitName_append hfront' hx hdot
        rwa [String.ofList_append, String.ofList_toList] at hsplit'
      have hinner' : inner = String.ofList stem ++ String.ofList ('.' :: x) := by
        rw [← String.ofList_append, ← hwhole, String.ofList_toList]
      rw [hcut, artifactName, ← dropSuffix?_eq_some_iff.mp hfront, ← hinner']
      exact ⟨by simp, rfl⟩

/-! ## The way -/

/-- What two lists have in common, and where they part. -/
theorem exists_common (a b : List String) :
    ∃ common, a = common ++ (dropCommon a b).1 ∧ b = common ++ (dropCommon a b).2 := by
  induction a generalizing b with
  | nil => exact ⟨[], rfl, by cases b <;> rfl⟩
  | cons n r ih =>
      cases b with
      | nil => exact ⟨[], rfl, rfl⟩
      | cons m s =>
          by_cases hnm : n = m
          · subst hnm
            obtain ⟨common, ha, hb⟩ := ih s
            rw [dropCommon, if_pos rfl]
            exact ⟨n :: common, congrArg (n :: ·) ha, congrArg (n :: ·) hb⟩
          · rw [dropCommon, if_neg hnm]
            exact ⟨[], rfl, rfl⟩

variable {cwd : Path} {p directory : Path}

/-- **A way that does not climb leads down**: it is what the path has more than the directory. -/
theorem absolute_of_relativeTo (horigin : (absolute cwd directory).origin = (absolute cwd p).origin)
    (hway : (relativeTo cwd p directory).parts.head? ≠ some "..") :
    absolute cwd p
      = (absolute cwd directory).join ⟨.here, (relativeTo cwd p directory).parts⟩ := by
  rw [relativeTo] at hway ⊢
  generalize absolute cwd directory = d at horigin hway ⊢
  generalize absolute cwd p = q at horigin hway ⊢
  obtain ⟨origin, names⟩ := d
  obtain ⟨origin', names'⟩ := q
  obtain rfl : origin = origin' := horigin
  obtain ⟨common, hnames, hnames'⟩ := exists_common names names'
  cases hup : (dropCommon names names').1 with
  | nil =>
      rw [hup, List.append_nil] at hnames
      subst hnames
      exact congrArg (Path.mk origin) hnames'
  | cons n r =>
      dsimp only at hway
      rw [hup] at hway
      exact absurd rfl hway

variable {declaration root : String} {s : Path}

/-- **What is read from a path**: a way down from the root, whose last part is the name of a
    declaration, and which leads to the path. -/
theorem source_eq_ok (hv : (absolute cwd (ofText declaration)).origin = .root)
    (hr : (absolute cwd (ofText root)).origin = .root) (h : source cwd declaration root = .ok s) :
    ∃ way name, s = ⟨.here, way ++ [name]⟩ ∧ (splitName name).2 ≠ ""
      ∧ absolute cwd (ofText declaration) = (absolute cwd (ofText root)).join
        ⟨.here, way ++ [artifactName (splitName name).1 (splitName name).2]⟩ := by
  rw [source] at h
  split at h
  · cases h
  · dsimp only at h
    split at h
    · cases h
    · rename_i hway
      have habsolute := absolute_of_relativeTo (hr.trans hv.symm) hway
      split at h
      · cases h
      · rename_i name hname
        obtain ⟨hextension, hlast⟩ := sourceName?_eq_some_iff.mp hname
        obtain rfl := Except.ok.inj h
        -- the root itself has no name that could be read
        have hne : (relativeTo cwd (ofText declaration) (ofText root)).parts ≠ [] := by
          intro hnil
          rw [Path.name, hnil] at hname
          cases hname
        obtain ⟨way, last, hparts⟩ : ∃ way last,
            (relativeTo cwd (ofText declaration) (ofText root)).parts = way ++ [last] :=
          ⟨_, _, (List.dropLast_append_getLast hne).symm⟩
        rw [Path.name, hparts, List.getLastD_concat] at hlast
        refine ⟨way, name, ?_, hextension, ?_⟩
        · rw [withName, hparts, List.dropLast_concat]
          rfl
        · rw [habsolute, hparts, hlast]

/-! ## Images -/

/-- The name that is read from a name is a name too. -/
theorem isName_of_artifactName {name : String} (hextension : (splitName name).2 ≠ "")
    (h : IsName (artifactName (splitName name).1 (splitName name).2)) : IsName name := by
  obtain ⟨x, _, hx, hname⟩ := splitName_eq hextension
  refine ⟨?_, fun hslash => h.2 ?_⟩
  · rw [isPart, Bool.and_eq_true, Bool.not_eq_true', bne_iff_ne]
    refine ⟨by simp [hname], fun hdot => hextension ?_⟩
    obtain rfl : name = "." := String.toList_inj.mp hdot
    decide
  · rw [toList_artifactName, hx]
    rw [hname] at hslash
    rcases List.mem_append.mp hslash with hslash | hslash
    · exact List.mem_append_left _ hslash
    · refine List.mem_append_right _ (List.mem_cons_of_mem _ (List.mem_cons_of_mem _ ?_))
      exact List.mem_append_left _ hslash

/-- **A file at the end of a way down from the root** has a declaration, at the end of the same way. -/
theorem artifact_of_way {way : List String} {name : String} (hextension : (splitName name).2 ≠ "")
    (hroot : (absolute cwd (ofText root)).origin = .root) (hdots : ".." ∉ way)
    (hwritten : Path.IsWritten ⟨.here, way ++ [name]⟩) :
    ∃ a, artifact cwd (text ⟨.here, way ++ [name]⟩) root = .ok a
      ∧ absolute cwd a = (absolute cwd (ofText root)).join
        ⟨.here, way ++ [artifactName (splitName name).1 (splitName name).2]⟩ := by
  have hread := ofText_text hwritten
  have hname : Path.name ⟨.here, way ++ [name]⟩ = name := List.getLastD_concat
  have hrootDots : ".." ∉ (absolute cwd (ofText root)).parts :=
    noDots_absolute (by rw [isAbsolute, hroot]; rfl)
  -- seen from anywhere, the declaration is the root and the way down
  have habsolute : absolute cwd ((ofText root).normalized.join
        ⟨.here, way ++ [artifactName (splitName name).1 (splitName name).2]⟩).normalized
      = (absolute cwd (ofText root)).join
        ⟨.here, way ++ [artifactName (splitName name).1 (splitName name).2]⟩ := by
    rw [absolute_normalized, absolute_join, absolute_normalized,
      absolute_of_noDots hrootDots (noDots_concat hdots (artifactName_ne_dots _ _))]
  have hrenamed : (ofText (text ⟨.here, way ++ [name]⟩)).withName
        (artifactName (ofText (text ⟨.here, way ++ [name]⟩)).stem
          (ofText (text ⟨.here, way ++ [name]⟩)).extension)
      = ⟨.here, way ++ [artifactName (splitName name).1 (splitName name).2]⟩ := by
    rw [hread, withName, stem, extension, hname, List.dropLast_concat]
  refine ⟨_, artifact_eq_ok_iff.mpr ⟨?_, ?_, rfl, ?_⟩, ?_⟩
  · rw [hread, hname]
    exact hextension
  · rw [hread]
    rfl
  · rw [hrenamed, habsolute, absolute_normalized]
    obtain ⟨first, rest, hfirst⟩ := List.exists_cons_of_ne_nil (List.concat_ne_nil
      (artifactName (splitName name).1 (splitName name).2) way)
    exact isUnderRoot_iff.mpr ⟨hroot, first, rest, by rw [hfirst]⟩
  · rw [hrenamed, habsolute]

/-- **What is read from a path has its declaration there.**  Where paths begin at the root, a query
    file that is read from a path has a declaration, which lies at the path, however the path is
    written.  And a path that has a text is read if and only if some declaration lies there. -/
theorem artifact_source (hc : cwd.IsWritten)
    (hv : (absolute cwd (ofText declaration)).origin = .root)
    (hr : (absolute cwd (ofText root)).origin = .root) :
    (∀ s, source cwd declaration root = .ok s → ∃ a, artifact cwd s.text root = .ok a
      ∧ absolute cwd a = absolute cwd (ofText declaration))
    ∧ ((∃ s, source cwd declaration root = .ok s) ↔ declaration ≠ "" ∧ ∃ file a,
      artifact cwd file root = .ok a ∧ absolute cwd a = absolute cwd (ofText declaration)) := by
  have hdots := @noDots_absolute cwd (ofText declaration) (by rw [isAbsolute, hv]; rfl)
  have hback : ∀ s, source cwd declaration root = .ok s → ∃ a, artifact cwd s.text root = .ok a
      ∧ absolute cwd a = absolute cwd (ofText declaration) := by
    intro s hs
    obtain ⟨way, name, rfl, hextension, habsolute⟩ := source_eq_ok hv hr hs
    have hnames : ∀ n ∈ way ++ [artifactName (splitName name).1 (splitName name).2],
        IsName n ∧ n ≠ ".." := by
      intro n hn
      have hmem : n ∈ (absolute cwd (ofText declaration)).parts := by
        rw [habsolute]
        exact List.mem_append_right _ hn
      exact ⟨(hc.join (isWritten_ofText declaration)).normalized n hmem, fun heq => hdots (heq ▸ hmem)⟩
    have hway : ∀ n ∈ way, IsName n ∧ n ≠ ".." := fun n hn =>
      hnames n (List.mem_append_left _ hn)
    have hname : IsName name := isName_of_artifactName hextension
      (hnames _ (List.mem_append_right _ (List.mem_singleton_self _))).1
    rw [habsolute]
    refine artifact_of_way hextension hr (fun hmem => (hway _ hmem).2 rfl) fun n hn => ?_
    rcases List.mem_append.mp hn with hn | hn
    · exact (hway n hn).1
    · rwa [List.mem_singleton.mp hn]
  refine ⟨hback, ?_, ?_⟩
  · rintro ⟨s, hs⟩
    refine ⟨?_, _, hback s hs⟩
    rintro rfl
    rw [source, if_pos rfl] at hs
    cases hs
  · -- a declaration that lies there is read with its name
    rintro ⟨hne, file, a, ha, habsolute⟩
    obtain ⟨way, _, hdeclaration⟩ := absolute_artifact ha
    rw [habsolute] at hdeclaration
    refine ⟨_, source_of_way hne (artifact_eq_ok_iff.mp ha).1 (fun hmem => hdots ?_) hdeclaration⟩
    rw [hdeclaration]
    exact List.mem_append_right _ (List.mem_append_left _ hmem)

/-- A path that is written with two dots, empty parts and a name of several dots. -/
theorem artifact_source_detour :
    ∃ s a, source ⟨.root, ["w"]⟩ "/w//types/./a/../.q.d.d.gql.ts" "./x/../types" = .ok s
      ∧ artifact ⟨.root, ["w"]⟩ s.text "./x/../types" = .ok a
      ∧ absolute ⟨.root, ["w"]⟩ a = ⟨.root, ["w", "types", ".q.d.d.gql.ts"]⟩ := by
  have hsource : source ⟨.root, ["w"]⟩ "/w//types/./a/../.q.d.d.gql.ts" "./x/../types"
      = .ok ⟨.here, [".q.d.gql"]⟩ := by decide +kernel
  have hplace : absolute ⟨.root, ["w"]⟩ (ofText "/w//types/./a/../.q.d.d.gql.ts")
      = ⟨.root, ["w", "types", ".q.d.d.gql.ts"]⟩ := by decide +kernel
  have hroot : (absolute ⟨.root, ["w"]⟩ (ofText "./x/../types")).origin = .root := by
    decide +kernel
  obtain ⟨a, hartifact, habsolute⟩ :=
    (artifact_source (by decide) (by rw [hplace]) hroot).1 _ hsource
  exact ⟨_, a, hsource, hartifact, habsolute.trans hplace⟩

end QueryTypings.Path
