/-
  Which extensions the names of query files can have.

  A setting may be any text with a dot in front, and the extension of a path is what its last name
  holds from its last dot on.  So an extension that is set with a second dot is not that of any path.

  1. **Names** — a text is the extension of a name if the name ends in it, with something in front,
     and it has a dot in front only (`splitName_snd_eq_iff`).

  2. **Files** — the last name of a file with a stem and an ending is the stem with the beginning of
     the ending, or a part of the ending (`name_ofChars_append`); whether it ends in an extension does
     not depend on the stem (`hasEnding_stem_iff`).

  3. **Query files** — so for every extension that is set, either all files with it are query files,
     or none (`accepts?_file`).
-/
import QueryTypings.Proofs.Config.Validation
import QueryTypings.Proofs.Path.Artifact
import QueryTypings.Proofs.Text.Lines

namespace QueryTypings

open QueryTypings.Text

namespace Path

/-! ## Names -/

/-- The name ends in the extension, with something in front of it; the extension has one dot. -/
def HasEnding (name extension : List Char) : Prop :=
  extension.count '.' = 1 ∧ ∃ front, front ≠ [] ∧ name = front ++ extension

theorem count_dot_cons {x : List Char} : ('.' :: x).count '.' = 1 ↔ '.' ∉ x := by
  rw [List.count_cons_self, Nat.add_eq_right, List.count_eq_zero]

/-- **The extension of a name** is what the name ends in. -/
theorem splitName_snd_eq_iff {name : String} {x : List Char} (hx : x ≠ []) :
    (splitName name).2 = String.ofList ('.' :: x) ↔ HasEnding name.toList ('.' :: x) := by
  rw [HasEnding, count_dot_cons]
  constructor
  · intro h
    have hne : (splitName name).2 ≠ "" := by
      rw [h]
      simp
    obtain ⟨front, y, hfront, -, hdot, hname, hsplit⟩ := splitName_cases hne
    rw [hsplit] at h
    obtain rfl : y = x := (List.cons.inj (String.ofList_injective h)).2
    exact ⟨hdot, front, hfront, hname⟩
  · rintro ⟨hdot, front, hfront, hname⟩
    rw [← String.ofList_toList (s := name), hname, splitName_append hfront hx hdot]

/-- What ends in a character that it has in front only ends in it before the end of a text with that
    character in front, if the whole does. -/
theorem suffix_append_cons_iff {c : Char} {front x y : List Char} (hx : c ∉ x) :
    c :: x <:+ front ++ c :: y ↔ c :: x <:+ c :: y := by
  refine ⟨fun h => ?_, fun h => h.trans (List.suffix_append front _)⟩
  rcases List.suffix_or_suffix_of_suffix h (List.suffix_append front (c :: y)) with h | ⟨t, ht⟩
  · exact h
  · cases t with
    | nil => exact ht ▸ List.suffix_refl _
    | cons d t =>
        obtain ⟨-, rfl⟩ := List.cons.inj ht
        exact absurd (List.mem_append_right t List.mem_cons_self) hx

/-- The front of a name does not matter, if a dot follows. -/
theorem hasEnding_append_iff {front x y : List Char} (hfront : front ≠ []) :
    HasEnding (front ++ '.' :: y) ('.' :: x) ↔ '.' ∉ x ∧ '.' :: x <:+ '.' :: y := by
  rw [HasEnding, count_dot_cons]
  refine and_congr_right fun hdot => ?_
  have hwhole : '.' :: x <:+ front ++ '.' :: y ↔ '.' :: x <:+ '.' :: y :=
    suffix_append_cons_iff hdot
  rw [← hwhole]
  constructor
  · rintro ⟨t, -, ht⟩
    exact ⟨t, ht.symm⟩
  · rintro ⟨t, ht⟩
    refine ⟨t, ?_, ht.symm⟩
    rintro rfl
    -- nothing in front would put a second dot into the extension
    obtain ⟨c, r, rfl⟩ := List.exists_cons_of_ne_nil hfront
    obtain ⟨-, rfl⟩ := List.cons.inj ht
    exact hdot (List.mem_append_right r List.mem_cons_self)

/-! ## Files -/

/-- The parts that follow the first one of an ending. -/
def laterParts (ending : List Char) : List String :=
  ((splitAt '/' ending).tail.filter isPart).map String.ofList

variable {stem other ending : List Char}

/-- The stem of a file and the beginning of its ending are one part. -/
theorem parts_ofChars_append (hstem : stem ≠ []) (hslash : '/' ∉ stem) (ending : List Char) :
    (ofChars (stem ++ '.' :: ending)).parts
      = String.ofList (stem ++ '.' :: (splitAt '/' ending).headD []) :: laterParts ending := by
  have hfront : '/' ∉ stem ++ ['.'] := by simpa using hslash
  have hcut : stem ++ '.' :: ending = (stem ++ ['.']) ++ ending := by simp
  have hpart : isPart ((stem ++ ['.']) ++ (splitAt '/' ending).headD []) = true := by
    obtain ⟨c, r, rfl⟩ := List.exists_cons_of_ne_nil hstem
    simp [isPart]
  rw [ofChars, hcut, splitAt_append_of_not_mem hfront, List.filter_cons_of_pos hpart, List.map_cons,
    laterParts]
  simp

/-- The last name is that part, unless the ending holds another one. -/
theorem name_ofChars_append (hstem : stem ≠ []) (hslash : '/' ∉ stem) (ending : List Char) :
    (ofChars (stem ++ '.' :: ending)).name
      = (laterParts ending).getLastD
        (String.ofList (stem ++ '.' :: (splitAt '/' ending).headD [])) := by
  rw [name, parts_ofChars_append hstem hslash, List.getLastD_cons]

/-- **The stem of a file does not matter** for the extensions that its name ends in. -/
theorem hasEnding_stem_iff (hstem : stem ≠ []) (hslash : '/' ∉ stem) (hother : other ≠ [])
    (hslash' : '/' ∉ other) (ending x : List Char) :
    HasEnding (ofChars (stem ++ '.' :: ending)).name.toList ('.' :: x)
      ↔ HasEnding (ofChars (other ++ '.' :: ending)).name.toList ('.' :: x) := by
  rw [name_ofChars_append hstem hslash, name_ofChars_append hother hslash']
  rcases List.eq_nil_or_concat (laterParts ending) with hnil | ⟨front, last, hlast⟩
  · rw [hnil, List.getLastD_nil, List.getLastD_nil, String.toList_ofList, String.toList_ofList,
      hasEnding_append_iff hstem, hasEnding_append_iff hother]
  · rw [hlast, List.concat_eq_append, List.getLastD_concat, List.getLastD_concat]

/-- The extension of a file is made of what its ending is made of. -/
theorem mem_ending_of_hasEnding (hstem : stem ≠ []) (hslash : '/' ∉ stem) {x : List Char}
    (h : HasEnding (ofChars (stem ++ '.' :: ending)).name.toList ('.' :: x)) :
    ∀ c ∈ '.' :: x, c ∈ '.' :: ending := by
  intro c hc
  rw [name_ofChars_append hstem hslash] at h
  rcases List.eq_nil_or_concat (laterParts ending) with hnil | ⟨front, last, hlast⟩
  · rw [hnil, List.getLastD_nil, String.toList_ofList, hasEnding_append_iff hstem] at h
    rcases List.mem_cons.mp (h.2.subset hc) with rfl | hfirst
    · exact List.mem_cons_self
    · have hpiece : (splitAt '/' ending).headD [] ∈ splitAt '/' ending := by
        cases hs : splitAt '/' ending with
        | nil => exact absurd hs (splitAt_ne_nil '/' ending)
        | cons l ls => exact List.mem_cons_self
      exact List.mem_cons_of_mem _ (mem_of_mem_splitAt hpiece hfirst)
  · rw [hlast, List.concat_eq_append, List.getLastD_concat] at h
    have hmem : last ∈ laterParts ending := by simp [hlast]
    obtain ⟨piece, hpiece, rfl⟩ := List.mem_map.mp hmem
    obtain ⟨-, front, -, hname⟩ := h
    rw [String.toList_ofList] at hname
    have hlater := List.mem_of_mem_tail (List.mem_filter.mp hpiece).1
    exact List.mem_cons_of_mem _ (mem_of_mem_splitAt hlater (hname ▸ List.mem_append_right _ hc))

/-- The last name of a path with parts is its own, wherever it is taken from. -/
theorem name_join {p : Path} (h : p.parts ≠ []) (directory : Path) :
    (directory.join p).name = p.name := by
  rw [join]
  split
  · rfl
  · obtain ⟨front, last, hlast⟩ := (List.eq_nil_or_concat p.parts).resolve_left h
    rw [name, name, hlast, List.concat_eq_append, ← List.append_assoc, List.getLastD_concat,
      List.getLastD_concat]

/-- The path of a file with a stem and an ending in a directory. -/
def file (directory : Path) (stem ending : String) : Path := directory.join (ofText (stem ++ ending))

end Path

/-! ## Query files -/

namespace Config

variable {cwd : Path} {settings : OrderedMap Json} {c : Config} {p : Path}

/-- An extension is set if and only if the name ends in one that is. -/
theorem extension_mem_iff (hc : IsCanonical c.extensions) : p.extension ∈ c.extensions
    ↔ ∃ x ∈ c.extensions, Path.HasEnding p.name.toList x.toList := by
  constructor
  · intro hmem
    obtain ⟨r, hr, hx⟩ := hc.dotted _ hmem
    refine ⟨p.extension, hmem, ?_⟩
    rw [hx, ← Path.splitName_snd_eq_iff hr, ← hx, String.ofList_toList, Path.extension]
  · rintro ⟨x, hmem, hending⟩
    obtain ⟨r, hr, hx⟩ := hc.dotted x hmem
    rw [hx, ← Path.splitName_snd_eq_iff hr, ← hx, String.ofList_toList] at hending
    rwa [Path.extension, hending]

/-- An extension in lower case is compared as it is. -/
theorem hasExtension_iff (hc : IsCanonical c.extensions)
    (hsettled : ∀ x, Path.HasEnding p.name.toList ('.' :: x) → ∀ d ∈ '.' :: x, IsSettled d) :
    c.hasExtension p = true ↔ ∃ x ∈ c.extensions, Path.HasEnding p.name.toList x.toList := by
  have hlower : lowerString p.extension = p.extension := by
    by_cases hempty : p.extension = ""
    · rw [hempty]
      rfl
    · obtain ⟨front, x, -, hx, -, -, hsplit⟩ := Path.splitName_cases hempty
      have hextension : p.extension = String.ofList ('.' :: x) := congrArg Prod.snd hsplit
      have hending := (Path.splitName_snd_eq_iff hx).mp hextension
      rw [hextension, lowerString, String.toList_ofList, lower_of_isSettled (hsettled x hending)]
  rw [hasExtension, List.contains_iff_mem, hlower, extension_mem_iff hc]

/-- Files with the extension end in one that is set. -/
def IsUsable (c : Config) (e : String) : Prop :=
  ∃ x ∈ c.extensions, Path.HasEnding (Path.ofText ("a" ++ e)).name.toList x.toList

/-- Without a slash, an extension is usable if it ends in one that is set and has one dot. -/
theorem isUsable_iff (hc : IsCanonical c.extensions) {e : String} (he : e ∈ c.extensions)
    (hslash : '/' ∉ e.toList) : c.IsUsable e
      ↔ ∃ x ∈ c.extensions, x.toList.count '.' = 1 ∧ x.toList <:+ e.toList := by
  obtain ⟨r, -, hr⟩ := hc.dotted e he
  rw [hr] at hslash
  have hcut : splitAt '/' r = [r] :=
    splitAt_of_not_mem fun hmem => hslash (List.mem_cons_of_mem _ hmem)
  have hname : (Path.ofText ("a" ++ e)).name.toList = ['a'] ++ '.' :: r := by
    have htext : ("a" ++ e).toList = ['a'] ++ '.' :: r := by rw [String.toList_append, hr]; rfl
    rw [Path.ofText, htext, Path.name_ofChars_append (List.cons_ne_nil _ _) (by decide),
      Path.laterParts, hcut]
    simp
  rw [IsUsable, hname, hr]
  refine exists_congr fun x => and_congr_right fun hx => ?_
  obtain ⟨y, -, hy⟩ := hc.dotted x hx
  rw [hy, Path.hasEnding_append_iff (List.cons_ne_nil _ _), Path.count_dot_cons]

/-- **Files with an extension that is set** have a set extension if and only if that one is usable. -/
theorem hasExtension_file_iff (hc : IsCanonical c.extensions) {e : String} (he : e ∈ c.extensions)
    {stem : String} (hstem : stem ≠ "") (hslash : '/' ∉ stem.toList) (directory : Path) :
    c.hasExtension (directory.file stem e) = true ↔ c.IsUsable e := by
  obtain ⟨r, -, hr⟩ := hc.dotted e he
  have hstem' : stem.toList ≠ [] := fun hnil => hstem (by simpa using hnil)
  have htext (s : String) : Path.ofText (s ++ e) = Path.ofChars (s.toList ++ '.' :: r) := by
    rw [Path.ofText, String.toList_append, hr]
  have hname : (directory.file stem e).name = (Path.ofChars (stem.toList ++ '.' :: r)).name := by
    rw [Path.file, htext]
    refine Path.name_join ?_ directory
    rw [Path.parts_ofChars_append hstem' hslash]
    exact List.cons_ne_nil _ _
  have hsettled : ∀ x, Path.HasEnding (directory.file stem e).name.toList ('.' :: x) →
      ∀ d ∈ '.' :: x, IsSettled d := by
    intro x hending d hd
    rw [hname] at hending
    exact hc.settled he d (hr ▸ Path.mem_ending_of_hasEnding hstem' hslash hending d hd)
  rw [hasExtension_iff hc hsettled, IsUsable, hname, htext]
  refine exists_congr fun x => and_congr_right fun hx => ?_
  obtain ⟨y, -, hy⟩ := hc.dotted x hx
  rw [hy]
  exact Path.hasEnding_stem_iff hstem' hslash (by decide) (by decide) r y

/-- **Of the files with an extension that is set,** whatever their stems and directories, either all
    are query files, apart from the schema and from paths that hold NUL, or none is.  Without a slash,
    they are if what stands behind the last dot of the extension is set as well. -/
theorem accepts?_file (hc : ofSettings cwd settings = .ok c) {e : String} (he : e ∈ c.extensions) :
    (∀ directory stem, stem ≠ "" → '/' ∉ stem.toList →
        (¬ c.IsUsable e → c.accepts? cwd (Path.file directory stem e) = some false)
        ∧ (c.IsUsable e → c.accepts? cwd (Path.file directory stem e)
          = if (directory.file stem e).hasNul then none
            else some (Path.resolved cwd ((c.resolvedBase cwd).join (directory.file stem e))
              != c.resolvedSchema cwd)))
      ∧ ('/' ∉ e.toList →
        (c.IsUsable e ↔ ∃ x ∈ c.extensions, x.toList.count '.' = 1 ∧ x.toList <:+ e.toList)) := by
  have hcanonical := (isValid_ofSettings hc).extensions
  refine ⟨fun directory stem hstem hslash => ?_, isUsable_iff hcanonical he⟩
  have hextension := hasExtension_file_iff hcanonical he hstem hslash directory
  constructor
  · intro hnot
    have hno := Bool.not_eq_true _ ▸ mt hextension.mp hnot
    rw [accepts?, hno]
    rfl
  · intro husable
    rw [accepts?, hextension.mpr husable]
    rfl

/-- Settings with an extension of two dots. -/
def dottedSettings : OrderedMap Json := [("extensions", .array [.string ".d.gql"])]

/-- A file with that extension. -/
def dottedFile : Path := Path.file ⟨.here, ["src"]⟩ "a" ".d.gql"

/-- What those settings say of the file. -/
theorem dotted_facts : ∃ c, ofSettings ⟨.root, ["b"]⟩ dottedSettings = .ok c
    ∧ c.extensions = [".d.gql"]
    ∧ Path.resolved ⟨.root, ["b"]⟩ ((c.resolvedBase ⟨.root, ["b"]⟩).join dottedFile)
      ≠ c.resolvedSchema ⟨.root, ["b"]⟩ :=
  ⟨⟨⟨.here, ["schema.graphql"]⟩, [], ⟨.here, ["src"]⟩, [".d.gql"], ⟨.here, [".gql"]⟩,
    ⟨.root, ["b"]⟩, usualTimeoutMs⟩, rfl, rfl, by decide +kernel⟩

/-- The file is not the schema, and no query file either. -/
theorem accepts?_file_dotted : ∃ c, ofSettings ⟨.root, ["b"]⟩ dottedSettings = .ok c
    ∧ ".d.gql" ∈ c.extensions
    ∧ Path.resolved ⟨.root, ["b"]⟩ ((c.resolvedBase ⟨.root, ["b"]⟩).join dottedFile)
      ≠ c.resolvedSchema ⟨.root, ["b"]⟩
    ∧ c.accepts? ⟨.root, ["b"]⟩ dottedFile = some false := by
  obtain ⟨c, hc, hextensions, hschema⟩ := dotted_facts
  have hmem : ".d.gql" ∈ c.extensions := by
    rw [hextensions]
    exact List.mem_cons_self
  obtain ⟨haccepts, husable⟩ := accepts?_file hc hmem
  have hnot : ¬ c.IsUsable ".d.gql" := by
    rw [husable (by decide), hextensions]
    decide
  exact ⟨c, hc, hmem, hschema, (haccepts ⟨.here, ["src"]⟩ "a" (by decide) (by decide)).1 hnot⟩

end Config

end QueryTypings
