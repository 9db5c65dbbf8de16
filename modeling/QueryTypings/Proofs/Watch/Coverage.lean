/-
  Which query files a scan finds.

  1. **Order** — lists of names are ordered totally, so the files of a scan come sorted, and each
     comes once (`nodup_eraseDups`).

  2. **Patterns** — the pattern of an extension asks for any directories and then for a name; a
     plain extension asks for names that end in it, letter by letter (`fitsName_plain_iff`).

  3. **Search** — so a pattern selects the files below the search directory whose names fit, however
     deep they lie (`filesOf_extension`).

  4. **Scan** — a scan finds the files that the filter for reported files accepts and a pattern fits
     (`scan_finds_iff`).  The filter compares in lower case, and a pattern does not: a query file
     whose extension is written with capitals is watched, and a scan passes over it.
-/
import QueryTypings.Proofs.Distinct
import QueryTypings.Proofs.FileTree.Reach
import QueryTypings.Proofs.Project.Generation
import QueryTypings.Proofs.Watch.Scanned

namespace QueryTypings

open QueryTypings.Text QueryTypings.FileTree

namespace Watch

/-! ## Order -/

theorem namesLe_total (a b : List String) : namesLe a b || namesLe b a := by
  induction a generalizing b with
  | nil => rfl
  | cons x r ih =>
      cases b with
      | nil => rfl
      | cons y s =>
          by_cases hxy : x = y
          · subst hxy
            simpa only [namesLe, if_true] using ih s
          · simp only [namesLe, if_neg hxy, if_neg (Ne.symm hxy), Bool.or_eq_true,
              decide_eq_true_iff]
            exact lt_or_gt_of_ne hxy

theorem namesLe_trans (a b c : List String) (hab : namesLe a b = true) (hbc : namesLe b c = true) :
    namesLe a c = true := by
  induction a generalizing b c with
  | nil => rfl
  | cons x r ih =>
      cases b with
      | nil => cases hab
      | cons y s =>
          cases c with
          | nil => cases hbc
          | cons z u =>
              simp only [namesLe] at hab hbc ⊢
              by_cases hxy : x = y
              · subst hxy
                rw [if_pos rfl] at hab
                by_cases hxz : x = z
                · rw [if_pos hxz] at hbc ⊢
                  exact ih s u hab hbc
                · rwa [if_neg hxz] at hbc ⊢
              · rw [if_neg hxy, decide_eq_true_iff] at hab
                by_cases hyz : y = z
                · subst hyz
                  rw [if_neg hxy, decide_eq_true_iff]
                  exact hab
                · rw [if_neg hyz, decide_eq_true_iff] at hbc
                  have hxz := lt_trans hab hbc
                  rw [if_neg hxz.ne, decide_eq_true_iff]
                  exact hxz

/-! ## Patterns -/

/-- The pattern of the extension is one part behind the directories. -/
def IsSinglePart (extension : String) : Prop :=
  '/' ∉ extension.toList ∧ hasTwoStars ('*' :: extension.toList) = false

instance (extension : String) : Decidable (IsSinglePart extension) :=
  inferInstanceAs (Decidable (_ ∧ _))

/-- What the pattern of an extension asks of a name. -/
def namePieces (extension : String) : List Piece := pieces ('*' :: extension.toList)

/-- The parts of the pattern of an extension. -/
theorem patternParts?_extension {e : String} (h : IsSinglePart e) :
    patternParts? ("**/*" ++ e) = some [.directories, .name (namePieces e)] := by
  obtain ⟨hslash, hstars⟩ := h
  have hname : '/' ∉ '*' :: e.toList := by simpa using hslash
  have hparts : splitAt '/' ("**/*" ++ e).toList = [['*', '*'], '*' :: e.toList] := by
    have htext : ("**/*" ++ e).toList = ['*', '*'] ++ '/' :: '*' :: e.toList := by
      rw [String.toList_append]
      rfl
    rw [htext, splitAt_append_cons (by decide), splitAt_of_not_mem hname]
  have hpart : patternPart? ('*' :: e.toList) = some (.name (namePieces e)) := by
    have hne : '*' :: e.toList ≠ ['*', '*'] := by
      intro heq
      rw [heq] at hstars
      exact absurd hstars (by decide)
    rw [patternPart?, if_neg hne, hstars]
    rfl
  have hfilter : [['*', '*'], '*' :: e.toList].filter Path.isPart = [['*', '*'], '*' :: e.toList] := by
    simp [Path.isPart]
  simp only [patternParts?, hparts, hfilter, List.mapM_cons, List.mapM_nil, hpart]
  rfl

/-- Characters that stand for themselves. -/
theorem piecesFrom_plain {cs : List Char} (h : ∀ c ∈ cs, isWild c = false) {fuel : Nat}
    (hfuel : cs.length ≤ fuel) : piecesFrom fuel cs = cs.map .exactly := by
  induction cs generalizing fuel with
  | nil => cases fuel <;> rfl
  | cons c r ih =>
      cases fuel with
      | zero => cases hfuel
      | succ fuel =>
          have hc := h c List.mem_cons_self
          simp only [isWild, Bool.or_eq_false_iff, beq_eq_false_iff_ne] at hc
          obtain ⟨⟨hstar, hmark⟩, hbracket⟩ := hc
          have hrest := ih (fun d hd => h d (List.mem_cons_of_mem _ hd))
            (Nat.le_of_succ_le_succ hfuel)
          rw [piecesFrom, if_neg hstar, if_neg hmark, if_neg hbracket, hrest, List.map_cons]

theorem fitsName_exactly (cs name : List Char) :
    fitsName (cs.map .exactly) name = true ↔ name = cs := by
  induction cs generalizing name with
  | nil => simp [fitsName]
  | cons c r ih =>
      cases name with
      | nil => simp [fitsName]
      | cons d s =>
          have hstep : fitsName ((c :: r).map .exactly) (d :: s)
              = (d == c && fitsName (r.map .exactly) s) := rfl
          rw [hstep, Bool.and_eq_true, beq_iff_eq, ih, List.cons_eq_cons]

theorem anyEnd_iff (holds : List Char → Bool) (cs : List Char) :
    anyEnd holds cs = true ↔ ∃ r, r <:+ cs ∧ holds r = true := by
  induction cs with
  | nil => simp [anyEnd]
  | cons c r ih =>
      rw [anyEnd, Bool.or_eq_true, ih]
      constructor
      · rintro (hall | ⟨s, hs, hend⟩)
        · exact ⟨c :: r, List.suffix_rfl, hall⟩
        · exact ⟨s, hs.trans (List.suffix_cons c r), hend⟩
      · rintro ⟨s, hs, hend⟩
        rcases List.suffix_cons_iff.mp hs with rfl | hs
        · exact Or.inl hend
        · exact Or.inr ⟨s, hs, hend⟩

/-- **A plain extension asks for names that end in it.** -/
theorem fitsName_plain_iff {e : String} (h : ∀ c ∈ e.toList, isWild c = false) (name : List Char) :
    fitsName (namePieces e) name = true ↔ e.toList <:+ name := by
  have hpieces : namePieces e = .anything :: e.toList.map .exactly := by
    rw [namePieces, pieces, List.length_cons, piecesFrom, if_pos rfl,
      piecesFrom_plain h (Nat.le_refl _)]
  have hany : fitsName (namePieces e) name = anyEnd (fitsName (e.toList.map .exactly)) name := by
    rw [hpieces]
    cases name <;> rfl
  rw [hany, anyEnd_iff]
  constructor
  · rintro ⟨r, hr, hfits⟩
    rw [(fitsName_exactly _ _).mp hfits] at hr
    exact hr
  · intro hend
    exact ⟨e.toList, hend, (fitsName_exactly _ _).mpr rfl⟩

/-! ## Search -/

variable {t : FileTree} {world : World} {c : Config}

/-- A pattern for a name selects what the directory holds under such a name. -/
theorem select_name (p : List Piece) (s : Spot) :
    select t [.name p] s = .ok (((t.children s.place).filter fun c => fitsName p c.1.toList).map
      fun c => s.down [c.1]) := by
  have hfitting : (t.children s.place).filter
        (fun c => fitsName p c.1.toList && (([] : List PatternPart).isEmpty || c.2 == .directory))
      = (t.children s.place).filter fun c => fitsName p c.1.toList := by
    refine List.filter_congr fun c _ => ?_
    rw [List.isEmpty_nil, Bool.true_or, Bool.and_true]
  have heach : ∀ cs : List (String × Entry), cs.mapM (fun c => select t [] (s.down [c.1]))
      = .ok (cs.map fun c => [s.down [c.1]]) := fun cs =>
    List.mapM_pure (m := Except FileTree.Obstacle)
  rw [select]
  simp only [hfitting, heach]
  show Except.ok _ = Except.ok _
  rw [← List.flatMap_def, List.map_eq_flatMap]

/-- With directories in front it does so for each directory below. -/
theorem select_directories (p : List Piece) (s : Spot) :
    select t [.directories, .name p] s
      = .ok ((([] :: t.directoriesBelow s.place).map fun d =>
          ((t.children (s.down d).place).filter fun c => fitsName p c.1.toList).map
            fun c => (s.down d).down [c.1]).flatten.eraseDups) := by
  rw [select]
  simp only [select_name]
  have heach : ∀ ds : List (List String), ds.mapM (fun d => (Except.ok
        (((t.children (s.down d).place).filter fun c => fitsName p c.1.toList).map
          fun c => (s.down d).down [c.1]) : Except FileTree.Obstacle (List Spot)))
      = .ok (ds.map fun d => ((t.children (s.down d).place).filter fun c => fitsName p c.1.toList).map
          fun c => (s.down d).down [c.1]) := fun ds =>
    List.mapM_pure (m := Except FileTree.Obstacle)
  rw [heach]
  rfl

/-- **What is selected**: places one name below a directory below the place where the search begins. -/
theorem mem_select_iff {p : List Piece} {s found : Spot} {spots : List Spot}
    (h : select t [.directories, .name p] s = .ok spots) :
    found ∈ spots ↔ ∃ d name, (d = [] ∨ (s.place ++ d, .directory) ∈ t.entries)
      ∧ (∃ e, (s.place ++ d ++ [name], e) ∈ t.entries) ∧ fitsName p name.toList = true
      ∧ found = s.down (d ++ [name]) := by
  rw [select_directories] at h
  obtain rfl := Except.ok.inj h
  have hdown : ∀ d name, (s.down d).down [name] = s.down (d ++ [name]) := fun d name => by
    simp only [Spot.down, List.append_assoc]
  rw [List.mem_eraseDups, List.mem_flatten]
  constructor
  · rintro ⟨_, hlist, hfound⟩
    obtain ⟨d, hd, rfl⟩ := List.mem_map.mp hlist
    obtain ⟨⟨name, e⟩, hchild, rfl⟩ := List.mem_map.mp hfound
    obtain ⟨hmem, hfits⟩ := List.mem_filter.mp hchild
    refine ⟨d, name, ?_, ⟨e, mem_children_iff.mp hmem⟩, hfits, hdown d name⟩
    rcases List.mem_cons.mp hd with rfl | hd
    · exact Or.inl rfl
    · exact Or.inr (mem_directoriesBelow_iff.mp hd).2
  · rintro ⟨d, name, hd, ⟨e, hmem⟩, hfits, rfl⟩
    refine ⟨_, List.mem_map.mpr ⟨d, ?_, rfl⟩, List.mem_map.mpr ⟨(name, e),
      List.mem_filter.mpr ⟨mem_children_iff.mpr hmem, hfits⟩, hdown d name⟩⟩
    by_cases hnil : d = []
    · exact hnil ▸ List.mem_cons_self
    · exact List.mem_cons_of_mem _ (mem_directoriesBelow_iff.mpr ⟨hnil, hd.resolve_left hnil⟩)

/-- A directory on an open way is there, unless its path is too long to be looked up. -/
theorem isDirectory_of_opened {d : Path} (hd : d.IsPlace) (ho : Opened world.tree d.parts) {b : Bool}
    (h : world.isDirectory d = .ok b) : b = true := by
  have hway : ∀ a rest, d.parts = a ++ rest → rest ≠ [] →
      world.tree.entry? ([] ++ a) = some .directory := fun a rest heq _ =>
    ho a (heq ▸ List.prefix_append a rest)
  rw [World.isDirectory, World.lookUp, names_of_isPlace world hd] at h
  by_cases hlong : isTooLongPath d.text = true
  · rw [if_pos hlong] at h
    cases h
  · rw [if_neg hlong] at h
    rcases hfollow : world.tree.follow [] d.parts with r | place
    · rw [hfollow, follow_error_of_opened hd.noDots hway hfollow] at h
      cases h
    · obtain rfl := (follow_ok hd.noDots hfollow).1
      have hthere : world.tree.entryAt ([] ++ d.parts) = .ok .directory := by
        rw [entryAt, List.nil_append, ho d.parts (List.prefix_refl _)]
      rw [hfollow] at h
      simp only [hthere] at h
      exact (Except.ok.inj h).symm

/-- An open way goes down through directories. -/
theorem directory_of_opened (ht : t.Sound) {names way : List String} (ho : Opened t (names ++ way)) :
    way = [] ∨ (names ++ way, .directory) ∈ t.entries := by
  by_cases hway : way = []
  · exact Or.inl hway
  · refine Or.inr ((entry?_eq_some_iff ht ?_).mp (ho _ (List.prefix_refl _)))
    exact fun hnil => hway (List.append_eq_nil_iff.mp hnil).2

/-- **The pattern of an extension selects the files below the directory whose names fit**, however
    deep they lie. -/
theorem filesOf_extension (ht : world.tree.Sound) {d : Path} (hd : d.IsPlace) {e : String}
    (he : IsSinglePart e) {b : Bool} (hb : world.isDirectory d = .ok b) :
    ∃ found, filesOf world d ("**/*" ++ e) = .ok found ∧ ∀ names, names ∈ found ↔
      Below d.parts names ∧ (world.tree.octets? names).isSome = true
        ∧ fitsName (namePieces e) (names.getLastD "").toList = true := by
  -- what lies below the directory is a file only if the directory is one
  have hopened : ∀ names, Below d.parts names → (world.tree.octets? names).isSome = true →
      Opened world.tree names.dropLast ∧ b = true := by
    intro names hbelow hfile
    obtain ⟨octets, hoctets⟩ := Option.isSome_iff_exists.mp hfile
    have hup := (ht.opened_of_file hoctets).2.1
    have hway : Opened world.tree d.parts := fun way hway =>
      hup way (hway.trans hbelow.prefix_dropLast)
    exact ⟨hup, isDirectory_of_opened hd hway hb⟩
  rw [filesOf, patternParts?_extension he, hb]
  cases b with
  | false =>
      refine ⟨[], rfl, fun names => ⟨fun h => (by cases h), fun h => ?_⟩⟩
      cases (hopened names h.1 h.2.1).2
  | true =>
      have hselect := select_directories (t := world.tree) (namePieces e) ⟨d.parts, d.parts⟩
      simp only [hselect]
      refine ⟨_, rfl, fun names => ?_⟩
      rw [List.mem_map]
      constructor
      · rintro ⟨spot, hspot, rfl⟩
        obtain ⟨hspot, hfile⟩ := List.mem_filter.mp hspot
        obtain ⟨way, name, -, -, hfits, rfl⟩ := (mem_select_iff hselect).mp hspot
        have hlast : (d.parts ++ (way ++ [name])).getLastD "" = name := by simp
        refine ⟨below_append (by simp), hfile, ?_⟩
        show fitsName (namePieces e) ((d.parts ++ (way ++ [name])).getLastD "").toList = true
        rw [hlast]
        exact hfits
      · rintro ⟨hbelow, hfile, hfits⟩
        obtain ⟨rest, rfl⟩ := hbelow.1
        have hrest : rest ≠ [] := by
          rintro rfl
          exact hbelow.2 (List.append_nil _)
        obtain ⟨way, name, rfl⟩ : ∃ way name, rest = way ++ [name] :=
          ⟨_, _, (List.dropLast_append_getLast hrest).symm⟩
        have hlast : (d.parts ++ (way ++ [name])).getLastD "" = name := by simp
        rw [hlast] at hfits
        obtain ⟨octets, hoctets⟩ := Option.isSome_iff_exists.mp hfile
        have hne : d.parts ++ (way ++ [name]) ≠ [] := hbelow.ne_nil
        have hentry := (entry?_eq_some_iff ht hne).mp (octets?_eq_some.mp hoctets)
        have hup := (hopened _ hbelow hfile).1
        rw [← List.append_assoc, List.dropLast_concat] at hup
        refine ⟨Spot.down ⟨d.parts, d.parts⟩ (way ++ [name]), List.mem_filter.mpr ⟨?_, hfile⟩, rfl⟩
        rw [← List.append_assoc] at hentry
        exact (mem_select_iff hselect).mpr
          ⟨way, name, directory_of_opened ht hup, ⟨_, hentry⟩, hfits, rfl⟩

/-! ## Scan -/

/-- What a scan goes through: the files that one of the patterns selects. -/
theorem filesOf_all (ht : world.tree.Sound) {d : Path} (hd : d.IsPlace)
    (hext : ∀ e ∈ c.extensions, IsSinglePart e) {b : Bool} (hb : world.isDirectory d = .ok b) :
    ∃ found, c.globPatterns.mapM (filesOf world d) = .ok found ∧ ∀ names, names ∈ found.flatten ↔
      Below d.parts names ∧ (world.tree.octets? names).isSome = true
        ∧ ∃ e ∈ c.extensions, fitsName (namePieces e) (names.getLastD "").toList = true := by
  obtain ⟨found, hfound⟩ : ∃ found, c.globPatterns.mapM (filesOf world d) = .ok found := by
    refine exists_mapM_ok fun pattern hpattern => ?_
    obtain ⟨e, he, rfl⟩ := List.mem_map.mp hpattern
    obtain ⟨list, hlist, -⟩ := filesOf_extension ht hd (hext e he) hb
    exact ⟨list, hlist⟩
  refine ⟨found, hfound, fun names => ?_⟩
  obtain ⟨hfor, hback⟩ := exists_of_mapM_ok hfound
  rw [List.mem_flatten]
  constructor
  · rintro ⟨list, hlist, hnames⟩
    obtain ⟨pattern, hpattern, hfiles⟩ := hback list hlist
    obtain ⟨e, he, rfl⟩ := List.mem_map.mp hpattern
    obtain ⟨list', hlist', hmem⟩ := filesOf_extension ht hd (hext e he) hb
    obtain rfl := Except.ok.inj (hfiles.symm.trans hlist')
    obtain ⟨hbelow, hfile, hfits⟩ := (hmem names).mp hnames
    exact ⟨hbelow, hfile, e, he, hfits⟩
  · rintro ⟨hbelow, hfile, e, he, hfits⟩
    obtain ⟨list, hlist, hfiles⟩ := hfor _ (List.mem_map_of_mem he)
    obtain ⟨list', hlist', hmem⟩ := filesOf_extension ht hd (hext e he) hb
    obtain rfl := Except.ok.inj (hfiles.symm.trans hlist')
    exact ⟨list, hlist, (hmem names).mpr ⟨hbelow, hfile, hfits⟩⟩

/-- **A scan finds files in order, and each once.** -/
theorem scan_sorted {paths : List Path} (h : scan world c = .ok paths) :
    paths.Pairwise (fun p q => namesLe p.parts q.parts = true) ∧ paths.Nodup := by
  rw [scan] at h
  obtain ⟨found, _, h⟩ := ok_of_bind_ok h
  obtain rfl := Except.ok.inj h
  have hrooted : Function.Injective (Path.mk .root) := fun a b h => (Path.mk.inj h).2
  refine ⟨List.Pairwise.filter _ ?_, List.Nodup.filter _ ?_⟩
  · rw [List.pairwise_map]
    exact List.pairwise_mergeSort namesLe_trans namesLe_total _
  · rw [List.nodup_map_iff hrooted, (List.mergeSort_perm _ namesLe).nodup_iff]
    exact nodup_eraseDups _

/-- **What a scan finds.**  It finds, in order and each once, the query files strictly below the
    search directory whose names a pattern fits; a plain extension fits the names that end in it as
    it is written. -/
theorem scan_finds_iff (hc : world.cwd.IsStart) (hconfig : c.IsWritten) (ht : world.tree.Sound)
    (hext : ∀ e ∈ c.extensions, IsSinglePart e) {b : Bool}
    (hsearch : world.isDirectory (c.resolvedSearch world.cwd) = .ok b) :
    ∃ paths, scan world c = .ok paths
      ∧ paths.Pairwise (fun p q => namesLe p.parts q.parts = true) ∧ paths.Nodup
      ∧ (∀ p, p ∈ paths ↔ QueryFile c world p ∧ p ≠ c.resolvedSearch world.cwd
        ∧ ∃ e ∈ c.extensions, fitsName (namePieces e) p.name.toList = true)
      ∧ ∀ e, (∀ x ∈ e.toList, isWild x = false) → ∀ name,
        fitsName (namePieces e) name = true ↔ e.toList <:+ name := by
  have hd : (c.resolvedSearch world.cwd).IsPlace :=
    hc.join ((hc.join hconfig.baseDir).written.join hconfig.searchDir)
  obtain ⟨found, hfound, hmem⟩ := filesOf_all ht hd hext hsearch
  have hscan : scan world c
      = .ok (((found.flatten.eraseDups.mergeSort namesLe).map (Path.mk .root)).filter
        fun p => c.reports? world.cwd p.text == some true) := by
    rw [scan, hfound]
    rfl
  refine ⟨_, hscan, (scan_sorted hscan).1, (scan_sorted hscan).2, fun p => ?_,
    fun e he name => fitsName_plain_iff he name⟩
  · rw [List.mem_filter, List.mem_map, beq_iff_eq]
    constructor
    · rintro ⟨⟨names, hnames, rfl⟩, haccepted⟩
      rw [List.mem_mergeSort, List.mem_eraseDups, hmem] at hnames
      obtain ⟨hbelow, hfile, hfits⟩ := hnames
      obtain ⟨octets, hoctets⟩ := Option.isSome_iff_exists.mp hfile
      have hnamed := (ht.opened_of_file hoctets).2.2
      have hplace : Path.IsPlace ⟨.root, names⟩ :=
        ⟨rfl, fun hdots => (hnamed _ hdots).2 rfl, fun n hn => (hnamed n hn).1⟩
      obtain ⟨rest, hrest⟩ := hbelow.1
      have hinside := (Path.inside?_eq_some_iff hd hplace).mpr hrest.symm
      refine ⟨⟨hplace, hfile, ?_, haccepted⟩, fun heq => hbelow.2 (congrArg Path.parts heq), hfits⟩
      rw [Path.contains, hinside]
      rfl
    · rintro ⟨⟨hplace, hfile, hcontains, haccepted⟩, hne, hfits⟩
      obtain ⟨rest, hinside⟩ := Option.isSome_iff_exists.mp hcontains
      have hparts := (Path.inside?_eq_some_iff hd hplace).mp hinside
      refine ⟨⟨p.parts, ?_, hplace.eq.symm⟩, haccepted⟩
      rw [List.mem_mergeSort, List.mem_eraseDups, hmem]
      refine ⟨⟨⟨rest, hparts.symm⟩, fun heq => hne ?_⟩, hfile, hfits⟩
      rw [hplace.eq, hd.eq, heq]

/-- A file whose extension is written with capitals. -/
def capitalFile : Path := ⟨.root, ["b", "src", "r.GQL"]⟩

/-- The small project, with that file beside its query file. -/
def capitalWorld : World :=
  let world := smallWorld "query A{a}"
  { world with tree := world.tree.put capitalFile.parts (.file (encodeUtf8 "query B{a}".toList)) }

/-- What the project is like, as far as a scan depends on it. -/
theorem capital_facts :
    ((capitalWorld.tree.entries.map Prod.fst).Nodup
        ∧ (∀ e ∈ capitalWorld.tree.entries, Opened capitalWorld.tree e.1.dropLast)
        ∧ ∀ e ∈ capitalWorld.tree.entries, ∀ n ∈ e.1, Path.IsName n ∧ n ≠ "..")
      ∧ (∀ e ∈ smallConfig.extensions, IsSinglePart e)
      ∧ capitalWorld.isDirectory (smallConfig.resolvedSearch capitalWorld.cwd) = .ok true
      ∧ (capitalWorld.tree.octets? capitalFile.parts).isSome = true
      ∧ (smallConfig.resolvedSearch capitalWorld.cwd).contains capitalFile = true
      ∧ smallConfig.reports? capitalWorld.cwd capitalFile.text = some true
      ∧ ∀ e ∈ smallConfig.extensions, fitsName (namePieces e) capitalFile.name.toList = false := by
  decide +kernel

/-- The file is a query file like the other one, and the scan passes over it. -/
theorem scan_finds_iff_capital :
    ∃ paths, scan capitalWorld smallConfig = .ok paths ∧ paths.Nodup
      ∧ QueryFile smallConfig capitalWorld capitalFile ∧ capitalFile ∉ paths := by
  obtain ⟨⟨hunique, hopened, hnamed⟩, hext, hsearch, hregular, hinside, haccepted, hfits⟩ :=
    capital_facts
  have hcwd : capitalWorld.cwd.IsStart := isStart_smallWorld "query A{a}"
  obtain ⟨paths, hscan, -, hnodup, hfinds, -⟩ := scan_finds_iff hcwd isWritten_smallConfig
    ⟨hunique, hopened, hnamed⟩ hext hsearch
  have hplace : capitalFile.IsPlace := ⟨rfl, by decide, by decide⟩
  refine ⟨paths, hscan, hnodup, ⟨hplace, hregular, hinside, haccepted⟩, fun hmem => ?_⟩
  obtain ⟨-, -, e, he, hfit⟩ := (hfinds capitalFile).mp hmem
  rw [hfits e he] at hfit
  cases hfit

end Watch

end QueryTypings
