/-
  From a declaration back to its query file.

  1. **The name** — what is added to a name with an extension can be taken away again
     (`sourceName?_artifactName`), however many dots the name has and wherever they stand.

  2. **Absolute forms** — seen from any directory a declaration lies below the root, and what leads
     to it from there ends in its name (`absolute_artifact`).  The root, the query file and the
     declaration may be written with two dots anywhere.

  3. **Reading backwards** — so the rule for declarations can be read backwards at every path that
     it gives, and leads to the query file (`source_artifact`).
-/
import QueryTypings.Proofs.Path.Absolute
import QueryTypings.Proofs.Path.Artifact

namespace QueryTypings.Path

/-! ## The name -/

theorem dropSuffix?_append (s suffix : String) : dropSuffix? suffix (s ++ suffix) = some s := by
  have hback : (s ++ suffix).toList.reverse = suffix.toList.reverse ++ s.toList.reverse := by
    rw [String.toList_append, List.reverse_append]
  have hlength : suffix.length = suffix.toList.reverse.length := by
    rw [List.length_reverse, String.length_toList]
  have hprefix : suffix.toList.reverse.isPrefixOf (suffix.toList.reverse ++ s.toList.reverse) := by
    rw [List.isPrefixOf_iff_prefix]
    exact List.prefix_append _ _
  rw [dropSuffix?]
  simp only [hback, hlength, hprefix, if_true, List.drop_left, List.reverse_reverse,
    String.ofList_toList]

/-- **The name of a declaration tells the name of the file**, if that has an extension. -/
theorem sourceName?_artifactName {name : String} (h : (splitName name).2 ≠ "") :
    sourceName? (artifactName (splitName name).1 (splitName name).2) = some name := by
  obtain ⟨front, x, hfront, hx, hdot, hname, hsplit⟩ := splitName_cases h
  have hinner : String.ofList front ++ ".d" ++ String.ofList ('.' :: x)
      = String.ofList ((front ++ ['.', 'd']) ++ '.' :: x) := by
    rw [String.ofList_append, String.ofList_append]
  have hcut : splitName (String.ofList front ++ ".d" ++ String.ofList ('.' :: x))
      = (String.ofList front ++ ".d", String.ofList ('.' :: x)) := by
    rw [hinner, splitName_append (by simp) hx hdot, String.ofList_append]
  have hwhole : String.ofList front ++ String.ofList ('.' :: x) = name := by
    rw [← String.ofList_append, ← hname, String.ofList_toList]
  have hextension : String.ofList ('.' :: x) ≠ "" := by simp
  have hstem : String.ofList front ≠ "" := by simpa using hfront
  rw [hsplit]
  generalize String.ofList ('.' :: x) = extension at hcut hwhole hextension ⊢
  rw [sourceName?, artifactName, dropSuffix?_append, Option.bind_some, hcut]
  simp [dropSuffix?_append, hextension, hstem, hwhole]

theorem name_ne_dots {name : String} (h : (splitName name).2 ≠ "") : name ≠ ".." := by
  rintro rfl
  exact h (by decide)

/-! ## Absolute forms -/

variable {cwd a : Path} {source root : String}

/-- The parts of a relative path with an extension: those in front, and its name. -/
theorem eq_of_extension {p : Path} (hrelative : p.isAbsolute = false)
    (h : (splitName p.name).2 ≠ "") : p = ⟨.here, p.parts.dropLast ++ [p.name]⟩ := by
  obtain ⟨origin, parts⟩ := p
  cases origin with
  | here => exact congrArg (Path.mk .here) (dropLast_append_getLastD h).symm
  | root => cases hrelative
  | doubleRoot => cases hrelative

/-- A declaration is read back from its text. -/
theorem ofText_text_artifact (h : artifact cwd source root = .ok a) : ofText a.text = a := by
  obtain ⟨hextension, hrelative, rfl, _⟩ := artifact_eq_ok_iff.mp h
  refine ofText_text (IsWritten.normalized ?_)
  have hwith : ((ofText source).withName
      (artifactName (ofText source).stem (ofText source).extension)).isAbsolute = false := hrelative
  rw [join, hwith]
  intro n hn
  rcases List.mem_append.mp hn with hn | hn
  · exact (isWritten_ofText root).normalized n hn
  · rcases List.mem_append.mp hn with hn | hn
    · exact isWritten_ofText source n (List.dropLast_subset _ hn)
    · rw [List.mem_singleton.mp hn]
      exact isName_artifactName (isWritten_ofText source _ (name_mem hextension)).2 hextension

/-- **A declaration lies below the root**, wherever both are seen from. -/
theorem below_root_of_artifact (h : artifact cwd source root = .ok a) :
    (absolute cwd (ofText root)).origin = .root ∧ ∃ name rest,
      absolute cwd a = (absolute cwd (ofText root)).join ⟨.here, name :: rest⟩ := by
  obtain ⟨_, _, _, hunder⟩ := artifact_eq_ok_iff.mp h
  rw [absolute_normalized] at hunder
  exact isUnderRoot_iff.mp hunder

/-- **Where a declaration lies**: some way down from the root, which leads to the directory of the
    query file if that is taken from there, and then its name. -/
theorem absolute_artifact (h : artifact cwd source root = .ok a) :
    ∃ way, absolute (absolute cwd (ofText root)) ⟨.here, (ofText source).parts.dropLast⟩
        = (absolute cwd (ofText root)).join ⟨.here, way⟩
      ∧ absolute cwd a = (absolute cwd (ofText root)).join ⟨.here, way
          ++ [artifactName (ofText source).stem (ofText source).extension]⟩ := by
  obtain ⟨hextension, hrelative, ha, _⟩ := artifact_eq_ok_iff.mp h
  obtain ⟨_, first, rest, hbelow⟩ := below_root_of_artifact h
  generalize hnamed : artifactName (ofText source).stem (ofText source).extension = named at ha ⊢
  have hwith : (ofText source).withName named
      = ⟨.here, (ofText source).parts.dropLast ++ [named]⟩ := by
    conv_lhs => rw [eq_of_extension hrelative hextension, withName, List.dropLast_concat]
  have hlast : absolute cwd a
      = (absolute (absolute cwd (ofText root)) ⟨.here, (ofText source).parts.dropLast⟩).join
          ⟨.here, [named]⟩ := by
    rw [ha, absolute_normalized, hwith, absolute_join, absolute_normalized,
      absolute_concat _ (hnamed ▸ artifactName_ne_dots _ _)]
  -- the last part is the name, so what is before it is the root and a way down
  generalize absolute (absolute cwd (ofText root)) ⟨.here, (ofText source).parts.dropLast⟩ = d
    at hlast ⊢
  generalize absolute cwd (ofText root) = r at hbelow ⊢
  obtain ⟨way, last, hway⟩ : ∃ way last, first :: rest = way ++ [last] :=
    ⟨_, _, (List.dropLast_append_getLast (List.cons_ne_nil first rest)).symm⟩
  rw [hlast, hway, ← join_join] at hbelow
  obtain ⟨horigin, hparts⟩ := Path.mk.inj hbelow
  have hd : d = r.join ⟨.here, way⟩ :=
    (congr (congrArg Path.mk horigin) (List.append_inj' hparts rfl).1 : _)
  exact ⟨way, hd, by rw [hlast, hd, join_join]⟩

/-! ## Reading backwards -/

theorem text_artifact_ne (h : artifact cwd source root = .ok a) : a.text ≠ "" := by
  intro hempty
  have hnil : a = ⟨.here, []⟩ := by
    rw [← ofText_text_artifact h, hempty]
    rfl
  rw [hnil] at hempty
  exact absurd hempty (by decide)

/-- Behind a way without two dots there may stand a last part that is not two dots. -/
theorem noDots_concat {way : List String} {last : String} (hway : ".." ∉ way)
    (hlast : last ≠ "..") : ".." ∉ way ++ [last] := by
  intro hmem
  rcases List.mem_append.mp hmem with hmem | hmem
  · exact hway hmem
  · exact hlast (List.mem_singleton.mp hmem).symm

/-- **Where a way down from the root leads to a declaration**, it leads to the query file too, if its
    last part is renamed. -/
theorem source_of_way {declaration name : String} {way : List String} (hne : declaration ≠ "")
    (hextension : (splitName name).2 ≠ "") (hway : ".." ∉ way)
    (h : absolute cwd (ofText declaration) = (absolute cwd (ofText root)).join
      ⟨.here, way ++ [artifactName (splitName name).1 (splitName name).2]⟩) :
    Path.source cwd declaration root = .ok ⟨.here, way ++ [name]⟩ := by
  have hdown := relativeTo_of_join h
  have hhead : ¬ (way ++ [artifactName (splitName name).1 (splitName name).2]).head?
      = some ".." := fun hhead =>
    noDots_concat hway (artifactName_ne_dots _ _) (List.mem_of_mem_head? hhead)
  have hback : sourceName? (Path.name ⟨.here, way
      ++ [artifactName (splitName name).1 (splitName name).2]⟩) = some name := by
    rw [Path.name, List.getLastD_concat]
    exact sourceName?_artifactName hextension
  rw [Path.source]
  simp only [if_neg hne, hdown, if_neg hhead, hback, withName, List.dropLast_concat]

/-- **A declaration leads back to its query file.**  Whatever the texts are, where there is a
    declaration the file that it belongs to is found: a relative path without two dots, which from
    the root leads to the same place as the source.  If the source goes nowhere above where it is
    taken from, it is the source's normal form. -/
theorem source_artifact (h : artifact cwd source root = .ok a) :
    ∃ s, Path.source cwd a.text root = .ok s ∧ s.isAbsolute = false ∧ ".." ∉ s.parts
      ∧ absolute cwd ((ofText root).join s) = absolute cwd ((ofText root).join (ofText source))
      ∧ ((ofText source).normalized.parts.head? ≠ some ".." → s = (ofText source).normalized) := by
  obtain ⟨hextension, hrelative, _, _⟩ := artifact_eq_ok_iff.mp h
  obtain ⟨way, hfront, habsolute⟩ := absolute_artifact h
  have hread := ofText_text_artifact h
  have hsource := eq_of_extension hrelative hextension
  have hname : (ofText source).name ≠ ".." := name_ne_dots hextension
  have hroot : (absolute cwd (ofText root)).isAbsolute = true := by
    rw [isAbsolute, (below_root_of_artifact h).1]
    rfl
  have hrootDots := noDots_absolute hroot
  -- no part of the way down is two dots
  have hway : ".." ∉ way := by
    intro hmem
    have habs := @noDots_absolute (absolute cwd (ofText root))
      ⟨.here, (ofText source).parts.dropLast⟩ (by rw [hfront]; exact hroot)
    rw [hfront] at habs
    exact habs (List.mem_append_right _ hmem)
  have hdots := noDots_concat hway hname
  refine ⟨⟨.here, way ++ [(ofText source).name]⟩, ?_, rfl, hdots, ?_, fun hhead => ?_⟩
  · rw [← hread] at habsolute
    exact source_of_way (text_artifact_ne h) hextension hway habsolute
  · -- from the root both lead to the name in the same directory
    rw [absolute_join, absolute_join, absolute_of_noDots hrootDots hdots]
    conv_rhs => rw [hsource, absolute_concat _ hname, hfront, join_join]
  · -- without two dots the normal form is a way down itself
    have hnormal : (ofText source).normalized
        = (normalized ⟨.here, (ofText source).parts.dropLast⟩).join
            ⟨.here, [(ofText source).name]⟩ := by
      conv_lhs => rw [hsource]
      exact normalized_concat ⟨.here, (ofText source).parts.dropLast⟩ hname
    have hnodots := noDots_of_head?_normalized hhead
    rw [hnormal] at hnodots ⊢
    have hsame : (absolute cwd (ofText root)).join ⟨.here, way⟩
        = (absolute cwd (ofText root)).join
            (normalized ⟨.here, (ofText source).parts.dropLast⟩) := by
      rw [← hfront, ← absolute_normalized]
      exact absolute_of_noDots hrootDots fun hmem => hnodots (List.mem_append_left _ hmem)
    rw [join_injective _ hsame]
    rfl

/-- A detour through a directory that is left again, with a name of several dots, and a root that is
    written with two dots itself. -/
theorem source_artifact_detour :
    ∃ a s, artifact ⟨.root, ["w"]⟩ "../types/a/../.q.d.gql" "./x/../types" = .ok a
      ∧ Path.source ⟨.root, ["w"]⟩ a.text "./x/../types" = .ok s ∧ ".." ∉ s.parts
      ∧ absolute ⟨.root, ["w"]⟩ ((ofText "./x/../types").join s)
        = absolute ⟨.root, ["w"]⟩
          ((ofText "./x/../types").join (ofText "../types/a/../.q.d.gql")) := by
  have hartifact : artifact ⟨.root, ["w"]⟩ "../types/a/../.q.d.gql" "./x/../types"
      = .ok ⟨.here, ["types", ".q.d.d.gql.ts"]⟩ := by decide +kernel
  obtain ⟨s, hs, _, hdots, hsame, _⟩ := source_artifact hartifact
  exact ⟨_, s, hartifact, hs, hdots, hsame⟩

end QueryTypings.Path
