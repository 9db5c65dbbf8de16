/-
  What an operation on a tree of files changes, and what it leaves alone.

  1. **Places** — a tree that is changed at one place is the same everywhere else.

  2. **Looking up** — names without two dots lead to the place that they spell, over directories.
     Two trees that agree on the way there agree on what is found.

  3. **Directories** — making a directory only fills places on the way to it that held nothing, from
     the root downwards, whatever goes wrong (`openWay_opens`).

  4. **Files** — a write passes through trees that differ from the first one in another file, or in
     its target, and in the end its target or nothing is changed (`replaceFile_passage`).  A removal
     changes its target or nothing.
-/
import QueryTypings.FileTree.Change
import Mathlib.Data.List.Infix

namespace QueryTypings.FileTree

/-! ## Places -/

@[simp] theorem entry?_nil (t : FileTree) : t.entry? [] = some .directory := rfl

theorem entry?_of_ne_nil (t : FileTree) {place : List String} (h : place ≠ []) :
    t.entry? place = (t.entries.find? fun e => e.1 = place).map fun e => e.2 :=
  if_neg h

/-- Entries at one place do not count for another. -/
theorem find?_filter_ne (es : List (List String × Entry)) {place q : List String} (h : q ≠ place) :
    (es.filter fun o => o.1 ≠ place).find? (fun e => e.1 = q) = es.find? fun e => e.1 = q := by
  induction es with
  | nil => rfl
  | cons e r ih =>
      by_cases he : e.1 = place
      · have hq : ¬ e.1 = q := fun hq => h (hq.symm.trans he)
        rw [List.filter_cons_of_neg (by simp [he]), ih, List.find?_cons_of_neg (by simp [hq])]
      · rw [List.filter_cons_of_pos (by simp [he])]
        by_cases hq : e.1 = q
        · rw [List.find?_cons_of_pos (by simp [hq]), List.find?_cons_of_pos (by simp [hq])]
        · rw [List.find?_cons_of_neg (by simp [hq]), List.find?_cons_of_neg (by simp [hq]), ih]

theorem entry?_put_self (t : FileTree) {place : List String} (h : place ≠ []) (e : Entry) :
    entry? (t.put place e) place = some e := by
  rw [entry?_of_ne_nil _ h, put, List.find?_cons_of_pos (by simp)]
  rfl

theorem entry?_put_of_ne (t : FileTree) {place q : List String} (h : q ≠ place) (e : Entry) :
    entry? (t.put place e) q = t.entry? q := by
  by_cases hq : q = []
  · rw [hq, entry?_nil, entry?_nil]
  · rw [entry?_of_ne_nil _ hq, entry?_of_ne_nil _ hq, put,
      List.find?_cons_of_neg (by simp [Ne.symm h]), find?_filter_ne _ h]

theorem entry?_clear_self (t : FileTree) {place : List String} (h : place ≠ []) :
    entry? (t.clear place) place = none := by
  rw [entry?_of_ne_nil _ h, clear, Option.map_eq_none_iff, List.find?_eq_none]
  intro e he
  have := (List.mem_filter.mp he).2
  simpa using this

theorem entry?_clear_of_ne (t : FileTree) {place q : List String} (h : q ≠ place) :
    entry? (t.clear place) q = t.entry? q := by
  by_cases hq : q = []
  · rw [hq, entry?_nil, entry?_nil]
  · rw [entry?_of_ne_nil _ hq, entry?_of_ne_nil _ hq, clear, find?_filter_ne _ h]

/-- What is there decides which octets are. -/
theorem octets?_congr {t t' : FileTree} {place : List String}
    (h : t'.entry? place = t.entry? place) : t'.octets? place = t.octets? place := by
  rw [octets?, octets?, h]

theorem octets?_eq_some {t : FileTree} {place : List String} {octets : List Nat} :
    t.octets? place = some octets ↔ t.entry? place = some (.file octets) := by
  rw [octets?]
  split
  · rename_i o he
    rw [he]
    exact ⟨fun h => by rw [Option.some.inj h], fun h => by rw [(Entry.file.inj (Option.some.inj h))]⟩
  · rename_i hno
    exact ⟨fun h => (by cases h), fun h => absurd h (hno octets)⟩

theorem octets?_of_directory {t : FileTree} {place : List String}
    (h : t.entry? place = some .directory) : t.octets? place = none := by
  rw [octets?, h]

/-! ## Looking up -/

/-- **Names without two dots lead where they say**, and every name is looked up in a directory. -/
theorem follow_ok {t : FileTree} {place names p : List String} (hdots : ".." ∉ names)
    (h : t.follow place names = .ok p) :
    p = place ++ names ∧ ∀ a b, names = a ++ b → b ≠ [] → t.entry? (place ++ a) = some .directory := by
  induction names generalizing place with
  | nil =>
      unfold follow at h
      cases h
      refine ⟨(List.append_nil _).symm, fun a b hab hb => ?_⟩
      exact absurd (List.append_eq_nil_iff.mp hab.symm).2 hb
  | cons name rest ih =>
      unfold follow at h
      split at h
      · cases h
      · cases h
      · rename_i hdir
        have hname : name ≠ ".." := fun hn => hdots (hn ▸ List.mem_cons_self)
        rw [if_neg hname] at h
        split at h
        · cases h
        · obtain ⟨hp, hway⟩ := ih (fun hr => hdots (List.mem_cons_of_mem _ hr)) h
          refine ⟨by rw [hp, List.append_assoc, List.singleton_append], fun a b hab hb => ?_⟩
          cases a with
          | nil => rw [List.append_nil]; exact hdir
          | cons m a =>
              obtain ⟨rfl, hrest⟩ := List.cons.inj hab
              rw [List.append_cons]
              exact hway a b hrest hb

/-- Trees that agree on the way lead to the same place. -/
theorem follow_congr {t t' : FileTree} {place names : List String} (hdots : ".." ∉ names)
    (h : ∀ a b, names = a ++ b → b ≠ [] → t'.entry? (place ++ a) = t.entry? (place ++ a)) :
    t'.follow place names = t.follow place names := by
  induction names generalizing place with
  | nil => rfl
  | cons name rest ih =>
      have hname : name ≠ ".." := fun hn => hdots (hn ▸ List.mem_cons_self)
      have hhere : t'.entry? place = t.entry? place := by
        have := h [] (name :: rest) rfl (List.cons_ne_nil name rest)
        rwa [List.append_nil] at this
      have hrest : t'.follow (place ++ [name]) rest = t.follow (place ++ [name]) rest :=
        ih (fun hr => hdots (List.mem_cons_of_mem _ hr)) fun a b hab hb => by
          have := h (name :: a) b (by rw [hab, List.cons_append]) hb
          rwa [List.append_cons] at this
      unfold follow
      rw [hhere, if_neg hname, if_neg hname, hrest]

theorem locate_ok {t : FileTree} {names p : List String} (hdots : ".." ∉ names)
    (h : t.locate names = .ok p) :
    p = names ∧ ∀ a b, names = a ++ b → b ≠ [] → t.entry? a = some .directory := by
  rw [locate] at h
  split at h
  · cases h
  · exact follow_ok hdots h

/-- No name has more octets than a name may have. -/
def Fits (names : List String) : Prop := ∀ n ∈ names, isTooLong n = false

theorem follow_fits {t : FileTree} {place names p : List String} (hdots : ".." ∉ names)
    (h : t.follow place names = .ok p) : Fits names := by
  induction names generalizing place with
  | nil => exact fun n hn => (by cases hn)
  | cons name rest ih =>
      unfold follow at h
      split at h
      · cases h
      · cases h
      · have hname : name ≠ ".." := fun hn => hdots (hn ▸ List.mem_cons_self)
        rw [if_neg hname] at h
        split at h
        · cases h
        · rename_i hshort
          intro n hn
          rcases List.mem_cons.mp hn with rfl | hn
          · exact Bool.eq_false_iff.mpr hshort
          · exact ih (fun hr => hdots (List.mem_cons_of_mem _ hr)) h n hn

theorem locate_fits {t : FileTree} {names p : List String} (hdots : ".." ∉ names)
    (h : t.locate names = .ok p) : Fits names := by
  rw [locate] at h
  split at h
  · cases h
  · exact follow_fits hdots h

/-! ## Directories -/

/-- Nothing but directories on the way to a place came, and only where nothing was; each of them lies
    in a directory. -/
def Grown (t t' : FileTree) (names : List String) : Prop :=
  ∀ place, t'.entry? place = t.entry? place
    ∨ t.entry? place = none ∧ t'.entry? place = some .directory ∧ place <+: names
      ∧ t'.entry? place.dropLast = some .directory

theorem Grown.refl (t : FileTree) (names : List String) : Grown t t names :=
  fun _ => Or.inl rfl

/-- A directory stays one. -/
theorem Grown.directory {t t' : FileTree} {names place : List String} (h : Grown t t' names)
    (hd : t.entry? place = some .directory) : t'.entry? place = some .directory := by
  rcases h place with heq | ⟨hnone, _⟩
  · rw [heq, hd]
  · rw [hd] at hnone
    cases hnone

/-- Files neither come nor go. -/
theorem Grown.octets? {t t' : FileTree} {names : List String} (h : Grown t t' names)
    (place : List String) : t'.octets? place = t.octets? place := by
  rcases h place with heq | ⟨hnone, hdir, _⟩
  · exact octets?_congr heq
  · rw [octets?_of_directory hdir, FileTree.octets?, hnone]

theorem Grown.mono {t t' : FileTree} {names more : List String} (h : Grown t t' names)
    (hmore : names <+: more) : Grown t t' more := by
  intro place
  rcases h place with heq | ⟨hnone, hdir, hpre, hup⟩
  · exact Or.inl heq
  · exact Or.inr ⟨hnone, hdir, hpre.trans hmore, hup⟩

theorem Grown.trans {t t' t'' : FileTree} {names : List String} (h : Grown t t' names)
    (h' : Grown t' t'' names) : Grown t t'' names := by
  intro place
  rcases h' place with heq | ⟨hnone, hdir, hpre, hup⟩
  · rcases h place with heq' | ⟨hnone, hdir, hpre, hup⟩
    · exact Or.inl (heq.trans heq')
    · exact Or.inr ⟨hnone, heq.trans hdir, hpre, h'.directory hup⟩
  · rcases h place with heq' | ⟨_, hdir', _⟩
    · exact Or.inr ⟨heq'.symm.trans hnone, hdir, hpre, hup⟩
    · rw [hdir'] at hnone
      cases hnone

theorem dropLast_ne_self {place : List String} (h : place ≠ []) : place.dropLast ≠ place := by
  intro heq
  have hlen := congrArg List.length heq
  rw [List.length_dropLast] at hlen
  have := List.length_pos_of_ne_nil h
  omega

/-- A directory that comes at the end of the way. -/
theorem grown_put {t : FileTree} {names : List String} (hne : names ≠ [])
    (hnone : t.entry? names = none) (hup : t.entry? names.dropLast = some .directory) :
    Grown t (t.put names .directory) names := by
  intro place
  by_cases hp : place = names
  · subst hp
    refine Or.inr ⟨hnone, entry?_put_self t hne .directory, List.prefix_refl place, ?_⟩
    rw [entry?_put_of_ne t (dropLast_ne_self hne), hup]
  · exact Or.inl (entry?_put_of_ne t hp .directory)

/-- All places on the way are directories, the last one included. -/
def Opened (t : FileTree) (names : List String) : Prop :=
  ∀ place, place <+: names → t.entry? place = some .directory

/-- A directory at the end of an open way. -/
theorem Opened.concat {t : FileTree} {names : List String} (hne : names ≠ [])
    (hup : Opened t names.dropLast) (hd : t.entry? names = some .directory) : Opened t names := by
  intro place hplace
  rcases List.prefix_concat_iff.mp
    ((List.dropLast_append_getLast hne).symm ▸ hplace) with heq | hpre
  · rw [heq, List.dropLast_append_getLast hne]
    exact hd
  · exact hup place hpre

/-- What comes of making a directory.  In all trees that are passed through, nothing but directories
    on the way came; and in the end the whole way is open, or something is in the way. -/
structure OpensWay (t : FileTree) (names : List String) (p : Passage)
    (place : Except Obstacle (List String)) : Prop where
  grown : ∀ u ∈ p.last :: p.before, Grown t u names
  complete : ∀ q, place = .ok q → q = names ∧ p.refusal = none ∧ Opened p.last names ∧ Fits names
  stopped : ∀ o, place = .error o → p.refusal = some o.refusal

theorem OpensWay.obstacle {t : FileTree} {names : List String} {p : Passage} {o : Obstacle}
    (hgrown : ∀ u ∈ p.last :: p.before, Grown t u names) (hp : p.refusal = some o.refusal) :
    OpensWay t names p (.error o) :=
  ⟨hgrown, fun q hq => (by cases hq), fun o' ho' => by rw [hp, (Except.error.inj ho')]⟩

/-- The last step of making a directory. -/
theorem openLast_opens (trouble : Trouble) {t : FileTree} {p : Passage} {names : List String}
    {found : Except Refusal (List String)} (hne : names ≠ [])
    (hgrown : ∀ u ∈ p.last :: p.before, Grown t u names) (hfree : p.refusal = none)
    (hfound : ∀ q, found = .ok q → q = names ∧ Opened p.last names.dropLast ∧ Fits names) :
    OpensWay t names (openLast trouble p names found).1 (openLast trouble p names found).2 := by
  cases found with
  | error r => exact .obstacle hgrown rfl
  | ok place =>
      obtain ⟨rfl, hup, hfits⟩ := hfound place rfl
      simp only [openLast]
      split
      · rename_i hnone _
        have hput := grown_put hne hnone (hup _ (List.prefix_refl _))
        refine ⟨fun u hu => ?_, fun q hq => ?_, fun o ho => (by cases ho)⟩
        · rcases List.mem_cons.mp hu with rfl | hu
          · exact (hgrown _ List.mem_cons_self).trans hput
          · exact hgrown u hu
        · refine ⟨(Except.ok.inj hq).symm, hfree, .concat hne (fun q hq => ?_) ?_, hfits⟩
          · exact hput.directory (hup q hq)
          · exact entry?_put_self _ hne .directory
      · exact .obstacle hgrown rfl
      · rename_i hd
        exact ⟨hgrown, fun q hq => ⟨(Except.ok.inj hq).symm, hfree, .concat hne hup hd, hfits⟩,
          fun o ho => (by cases ho)⟩
      · exact .obstacle hgrown rfl

theorem openWayUp_opens (trouble : Trouble) (t : FileTree) {back : List String}
    (hdots : ".." ∉ back) :
    OpensWay t back.reverse (t.openWayUp trouble back).1 (t.openWayUp trouble back).2 := by
  -- from the last name upwards, as the system does: it goes up only where something is missing
  induction back with
  | nil =>
      refine ⟨fun u hu => ?_, fun q hq => ⟨(Except.ok.inj hq).symm, rfl, fun place hplace => ?_, ?_⟩,
        fun o ho => (by cases ho)⟩
      · rw [List.mem_singleton.mp hu]
        exact Grown.refl t _
      · rw [List.reverse_nil, List.prefix_nil] at hplace
        rw [hplace, entry?_nil]
      · exact fun n hn => (by cases hn)
  | cons name above ih =>
      have hopens := ih fun hm => hdots (List.mem_cons_of_mem _ hm)
      have hnames : ".." ∉ (name :: above).reverse := fun hm => hdots (List.mem_reverse.mp hm)
      have hne : (name :: above).reverse ≠ [] := by simp
      have hdrop : (name :: above).reverse.dropLast = above.reverse := by simp
      have hpre : above.reverse <+: (name :: above).reverse := by
        rw [List.reverse_cons]
        exact List.prefix_append _ _
      have hstart : ∀ u ∈ [t], Grown t u (name :: above).reverse := fun u hu => by
        rw [List.mem_singleton.mp hu]
        exact Grown.refl t _
      simp only [openWayUp]
      split
      · -- the way there is not complete, so it is made first
        have hmono : ∀ u ∈ (t.openWayUp trouble above).1.last :: (t.openWayUp trouble above).1.before,
            Grown t u (name :: above).reverse := fun u hu => (hopens.grown u hu).mono hpre
        split
        · rename_i p o hup
          rw [hup] at hmono hopens
          exact .obstacle hmono (hopens.stopped o rfl)
        · rename_i p place hup
          rw [hup] at hmono hopens
          obtain ⟨rfl, hfree, hopened, hfits⟩ := hopens.complete place rfl
          refine openLast_opens trouble hne hmono hfree fun q hq => ?_
          have hlast : ".." ∉ [name] := fun hm =>
            hdots (List.mem_singleton.mp hm ▸ List.mem_cons_self)
          have hplace := (follow_ok hlast hq).1
          rw [← List.reverse_cons] at hplace
          refine ⟨hplace, hdrop ▸ hopened, fun n hn => ?_⟩
          rw [List.reverse_cons] at hn
          rcases List.mem_append.mp hn with hn | hn
          · exact hfits n hn
          · exact follow_fits hlast hq n hn
      · refine openLast_opens trouble hne hstart rfl fun q hq => ?_
        obtain ⟨hplace, hway⟩ := locate_ok hnames hq
        refine ⟨hplace, fun place hplace => ?_, locate_fits hnames hq⟩
        obtain ⟨rest, hrest⟩ := hplace
        refine hway place (rest ++ [name]) ?_ (by simp)
        rw [← List.append_assoc, hrest, hdrop, List.reverse_cons]

/-- **Making a directory**, whatever troubles it: in all trees that are passed through, only places
    on the way that held nothing are filled; and if nothing is in the way, the whole way is open. -/
theorem openWay_opens (trouble : Trouble) {t : FileTree} {names : List String} {p : Passage}
    {o : Option Obstacle} (hdots : ".." ∉ names) (h : t.openWay trouble names = (p, o)) :
    (∀ u ∈ p.last :: p.before, Grown t u names)
      ∧ (o = none → p.refusal = none ∧ Opened p.last names ∧ Fits names)
      ∧ (o ≠ none → p.refusal ≠ none) := by
  have hopens := @openWayUp_opens trouble t names.reverse fun hm => hdots (List.mem_reverse.mp hm)
  rw [List.reverse_reverse] at hopens
  rw [openWay] at h
  split at h
  · rename_i q ob hup
    obtain ⟨rfl, rfl⟩ := Prod.mk.inj h
    rw [hup] at hopens
    refine ⟨hopens.grown, fun ho => (by cases ho), fun _ => ?_⟩
    rw [hopens.stopped ob rfl]
    exact Option.some_ne_none _
  · rename_i q place hup
    obtain ⟨rfl, rfl⟩ := Prod.mk.inj h
    rw [hup] at hopens
    exact ⟨hopens.grown, fun _ => (hopens.complete place rfl).2, fun ho => absurd rfl ho⟩

/-! ## Files -/

/-- A tree that the replacement of a file passes through: it is as before, but for another file where
    nothing was, or but for the target, which holds the octets. -/
inductive Replacing (t : FileTree) (directory : List String) (name : String) (octets : List Nat) :
    FileTree → Prop
  | asBefore : Replacing t directory name octets t
  | beside (k n : Nat) (free : t.entry? (directory ++ [temporaryName name k]) = none) :
      Replacing t directory name octets
        (t.put (directory ++ [temporaryName name k]) (.file (octets.take n)))
  | done : Replacing t directory name octets (t.put (directory ++ [name]) (.file octets))

theorem temporaryName_ne (name : String) (number : Nat) : temporaryName name number ≠ name := by
  intro h
  have hlength := congrArg String.length h
  simp only [temporaryName, String.length_append] at hlength
  have hdot : ".".length = 1 := rfl
  omega

/-- The name of the other file is a temporary one, and nothing has it. -/
theorem freeName?_eq_some {t : FileTree} {directory : List String} {name other : String}
    {fuel number : Nat} (h : t.freeName? directory name fuel number = some other) :
    t.entry? (directory ++ [other]) = none ∧ ∃ n, other = temporaryName name n := by
  induction fuel generalizing number with
  | zero =>
      unfold freeName? at h
      cases h
  | succ fuel ih =>
      unfold freeName? at h
      simp only at h
      split at h
      · rename_i hfree
        obtain rfl := Option.some.inj h
        exact ⟨Option.isNone_iff_eq_none.mp hfree, number, rfl⟩
      · exact ih h

/-- The name of the other file, and its path, are as short as the system wants them. -/
def Room (directory : List String) (name : String) : Prop :=
  ∃ n, isTooLong (temporaryName name n) = false
    ∧ isTooLongPath (Path.mk .root (directory ++ [temporaryName name n])).text = false

/-- **Replacing a file**, whatever troubles it: all trees that are passed through are as before but
    for the other file or the target, and in the end the octets are in the target, or the tree is as
    it was. -/
theorem replaceFile_passage {trouble : Trouble} {t : FileTree} {directory : List String}
    {name : String} {octets : List Nat} {p : Passage}
    (h : t.replaceFile trouble directory name octets = p) :
    (∀ u ∈ p.last :: p.before, Replacing t directory name octets u)
      ∧ ((p.refusal = none ∧ p.last = t.put (directory ++ [name]) (.file octets)
          ∧ t.entry? (directory ++ [name]) ≠ some .directory ∧ Room directory name)
        ∨ (p.refusal ≠ none ∧ p.last = t)) := by
  have hnot : ∀ r, (∀ u ∈ (Passage.stop ⟨t, [], none⟩ r).last :: (Passage.stop ⟨t, [], none⟩ r).before,
      Replacing t directory name octets u) := fun r u hu => by
    rw [List.mem_singleton.mp hu]
    exact .asBefore
  subst h
  simp only [replaceFile]
  split
  · exact ⟨hnot _, Or.inr ⟨Option.some_ne_none _, rfl⟩⟩
  · exact ⟨hnot _, Or.inr ⟨Option.some_ne_none _, rfl⟩⟩
  · exact ⟨hnot _, Or.inr ⟨Option.some_ne_none _, rfl⟩⟩
  · rename_i other _ hother
    obtain ⟨hfree, k, rfl⟩ := freeName?_eq_some hother
    have hbeside : ∀ n, Replacing t directory name octets
        (t.put (directory ++ [temporaryName name k]) (.file (octets.take n))) :=
      fun n => .beside k n hfree
    -- the other file is there, first empty and then with some octets
    have hfilled : ∀ (n : Nat) (last : FileTree), Replacing t directory name octets last →
        ∀ u ∈ [last, t.put (directory ++ [temporaryName name k]) (.file (octets.take n)),
          t.put (directory ++ [temporaryName name k]) (.file []), t],
          Replacing t directory name octets u := by
      intro n last hlast u hu
      simp only [List.mem_cons, List.not_mem_nil, or_false] at hu
      rcases hu with rfl | rfl | rfl | rfl
      · exact hlast
      · exact hbeside n
      · exact hbeside 0
      · exact .asBefore
    split
    · exact ⟨hnot _, Or.inr ⟨Option.some_ne_none _, rfl⟩⟩
    · rename_i hroom
      rw [Bool.or_eq_true, not_or, Bool.not_eq_true, Bool.not_eq_true] at hroom
      split
      · exact ⟨hnot _, Or.inr ⟨Option.some_ne_none _, rfl⟩⟩
      · exact ⟨hfilled _ t .asBefore, Or.inr ⟨Option.some_ne_none _, rfl⟩⟩
      · exact ⟨hfilled _ t .asBefore, Or.inr ⟨Option.some_ne_none _, rfl⟩⟩
      · split
        · exact ⟨hfilled _ t .asBefore, Or.inr ⟨Option.some_ne_none _, rfl⟩⟩
        · rename_i hdir
          refine ⟨hfilled _ _ .done, Or.inl ⟨rfl, rfl, fun h => hdir ?_, 0, hroom⟩⟩
          rw [isDirectory, h]
          rfl

/-- A removal clears the place of a file, on an open way. -/
theorem removeFile_ok {t t' : FileTree} {names : List String} (hdots : ".." ∉ names)
    (h : t.removeFile names = .ok t') :
    t' = t.clear names ∧ (t.octets? names).isSome := by
  rw [removeFile] at h
  split at h
  · cases h
  · rename_i p hp
    obtain rfl := (locate_ok hdots hp).1
    split at h
    · cases h
    · cases h
    · rename_i o ho
      exact ⟨(Except.ok.inj h).symm, by rw [octets?_eq_some.mpr ho]; rfl⟩

/-- Names without two dots miss something only if it, or what should hold it, is not there. -/
theorem follow_missing {t : FileTree} {place names : List String} (hdots : ".." ∉ names)
    (h : t.follow place names = .error .missing) :
    ∃ a b, names = a ++ b ∧ b ≠ [] ∧ t.entry? (place ++ a) = none := by
  induction names generalizing place with
  | nil =>
      unfold follow at h
      cases h
  | cons name rest ih =>
      unfold follow at h
      split at h
      · rename_i hnone
        exact ⟨[], name :: rest, rfl, List.cons_ne_nil name rest, by rw [List.append_nil, hnone]⟩
      · cases h
      · have hname : name ≠ ".." := fun hn => hdots (hn ▸ List.mem_cons_self)
        rw [if_neg hname] at h
        split at h
        · cases h
        · obtain ⟨a, b, hab, hb, hnone⟩ := ih (fun hr => hdots (List.mem_cons_of_mem _ hr)) h
          refine ⟨name :: a, b, by rw [hab, List.cons_append], hb, ?_⟩
          rw [List.append_cons]
          exact hnone

/-- A removal that misses the file: it, or a directory that should hold it, is not there. -/
theorem removeFile_missing {t : FileTree} {names : List String} (hdots : ".." ∉ names)
    (h : t.removeFile names = .error .missing) :
    ∃ place, place <+: names ∧ t.entry? place = none := by
  rw [removeFile] at h
  split at h
  · rename_i r hlocate
    obtain rfl := Except.error.inj h
    rw [locate] at hlocate
    split at hlocate
    · cases hlocate
    · obtain ⟨a, b, hab, _, hnone⟩ := follow_missing hdots hlocate
      exact ⟨a, ⟨b, hab.symm⟩, hnone⟩
  · rename_i p hp
    obtain rfl := (locate_ok hdots hp).1
    split at h
    · rename_i hnone
      exact ⟨p, List.prefix_refl p, hnone⟩
    · cases h
    · cases h

end QueryTypings.FileTree
