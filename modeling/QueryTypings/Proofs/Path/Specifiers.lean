/-
  How a file names another one that it imports.

  1. **Directories** — a text is cut before its last slashes, and what is left begins where the text
     begins (`exists_directory`, `origin_directoryText`).  Of the text of a path it is the text of
     what holds the path (`ofText_directoryText`).

  2. **Ways** — the way from a directory to a path climbs to where they part and goes down from there.
     Taken from the directory it leads to the path, also where the path lies beside or above it
     (`absolute_join_relativeTo`).

  3. **Specifiers** — the text of the way, with or without a mark in front, is read as the way again.
     So a specifier leads from the directory of the file to what is imported
     (`importSpecifier?_leads`).

  4. **Marks** — the mark is left out where the way begins with a dot.  That is right for a way that
     climbs, but a name may begin with a dot too (`importSpecifier?_marked_iff`).
-/
import QueryTypings.Proofs.Path.Climbing
import QueryTypings.Proofs.Path.Images

namespace QueryTypings.Path

open QueryTypings.Text

/-! ## Directories -/

/-- Every text ends in a name without slashes, and before it are slashes, unless it has none. -/
theorem exists_directory (cs : List Char) :
    ∃ directory slashes name, cs = directory ++ slashes ++ name ∧ (∀ c ∈ slashes, c = '/')
      ∧ '/' ∉ name ∧ directory.getLast? ≠ some '/' ∧ (slashes = [] → directory = []) := by
  obtain ⟨name, back, hcs, hname, hback⟩ : ∃ name back, cs.reverse = name ++ back
      ∧ '/' ∉ name ∧ (back = [] ∨ back.head? = some '/') := by
    refine ⟨_, _, (List.takeWhile_append_dropWhile (p := (· != '/'))).symm, fun hmem => ?_, ?_⟩
    · simpa using List.mem_takeWhile_imp hmem
    · cases hd : cs.reverse.dropWhile (· != '/') with
      | nil => exact Or.inl rfl
      | cons c r =>
          have hhead := List.head_dropWhile_not (p := (· != '/')) (l := cs.reverse)
            (by rw [hd]; exact List.cons_ne_nil c r)
          have hc : c = '/' := by simpa [hd] using hhead
          exact Or.inr (congrArg some hc)
  have hsplit : back = back.takeWhile (· == '/') ++ back.dropWhile (· == '/') :=
    List.takeWhile_append_dropWhile.symm
  refine ⟨(back.dropWhile (· == '/')).reverse, (back.takeWhile (· == '/')).reverse, name.reverse,
    ?_, fun c hc => ?_, fun hmem => hname (List.mem_reverse.mp hmem), ?_, fun hnil => ?_⟩
  · rw [← List.reverse_append, ← hsplit, ← List.reverse_append, ← hcs, List.reverse_reverse]
  · simpa using List.mem_takeWhile_imp (List.mem_reverse.mp hc)
  · rw [List.getLast?_reverse]
    intro hlast
    have hne : back.dropWhile (· == '/') ≠ [] := fun hnil => by
      rw [hnil] at hlast
      cases hlast
    have hnot := List.head_dropWhile_not (p := (· == '/')) (l := back) hne
    rw [List.head?_eq_some_head hne] at hlast
    rw [Option.some.inj hlast] at hnot
    cases hnot
  · rcases hback with rfl | hhead
    · rfl
    · cases back with
      | nil => cases hhead
      | cons c r =>
          obtain rfl := Option.some.inj hhead
          simp at hnil

/-- **What is left before the last slashes**, or the slashes if nothing is before them. -/
theorem directoryText_eq {directory slashes name : List Char} (hslashes : ∀ c ∈ slashes, c = '/')
    (hname : '/' ∉ name) (hdirectory : directory.getLast? ≠ some '/')
    (hcut : slashes = [] → directory = []) :
    directoryText (String.ofList (directory ++ slashes ++ name))
      = String.ofList (if directory = [] then slashes else directory) := by
  have hback : (directory ++ slashes ++ name).reverse.dropWhile (· != '/')
      = slashes.reverse ++ directory.reverse := by
    rw [List.reverse_append, List.reverse_append, List.dropWhile_append_of_pos ?_]
    · cases hs : slashes.reverse with
      | nil => rw [hcut (List.reverse_eq_nil_iff.mp hs)]; rfl
      | cons c r =>
          have hc := hslashes c (List.mem_reverse.mp (hs ▸ List.mem_cons_self))
          rw [List.cons_append, List.dropWhile_cons_of_neg (by simp [hc])]
    · intro c hc
      exact bne_iff_ne.mpr fun heq => hname (heq ▸ List.mem_reverse.mp hc)
  have hfront : (slashes.reverse ++ directory.reverse).dropWhile (· == '/')
      = directory.reverse := by
    rw [List.dropWhile_append_of_pos fun c hc => by simp [hslashes c (List.mem_reverse.mp hc)]]
    cases hd : directory.reverse with
    | nil => rfl
    | cons c r =>
        refine List.dropWhile_cons_of_neg fun hc => hdirectory ?_
        rw [← List.head?_reverse, hd, ← eq_of_beq hc]
        rfl
  rw [directoryText, String.toList_ofList]
  simp only [hback, hfront, List.isEmpty_iff, List.reverse_eq_nil_iff, List.reverse_reverse]
  by_cases hnil : directory = []
  · simp [hnil]
  · simp [hnil]

/-- Where a path begins that has so many slashes in front. -/
def Origin.ofSlashes : Nat → Origin
  | 0 => .here
  | 2 => .doubleRoot
  | _ + 1 => .root

theorem ofChars_eq_ofSlashes (cs : List Char) :
    Origin.ofChars cs = .ofSlashes (cs.takeWhile (· == '/')).length := by
  -- in each case the slashes that are seen are all there are, or they are three
  have hstop : ∀ r : List Char, (∀ t, r ≠ '/' :: t) → r.takeWhile (· == '/') = [] := by
    intro r hr
    cases r with
    | nil => rfl
    | cons c t => exact List.takeWhile_cons_of_neg fun hc => hr t (by rw [eq_of_beq hc])
  fun_cases Origin.ofChars cs with
  | case1 r => simp [Origin.ofSlashes]
  | case2 r hr => simp [Origin.ofSlashes, hstop r hr]
  | case3 r _ hr => simp [Origin.ofSlashes, hstop r hr]
  | case4 _ _ _ hcs => simp [Origin.ofSlashes, hstop cs hcs]

/-- What follows does not matter where another character than a slash stands before it, or where it
    does not go on with slashes. -/
theorem ofChars_origin_append {front back : List Char}
    (h : (∃ c ∈ front, c ≠ '/') ∨ back.head? ≠ some '/') :
    Origin.ofChars (front ++ back) = Origin.ofChars front := by
  rw [ofChars_eq_ofSlashes, ofChars_eq_ofSlashes, List.takeWhile_append]
  split
  · rename_i hlength
    have hall := List.takeWhile_eq_self_iff.mp ((List.takeWhile_prefix _).eq_of_length hlength)
    rcases h with ⟨c, hc, hne⟩ | hhead
    · exact absurd (eq_of_beq (hall c hc)) hne
    · have hback : back.takeWhile (· == '/') = [] := by
        cases back with
        | nil => rfl
        | cons c r => exact List.takeWhile_cons_of_neg fun hc => hhead (congrArg some (eq_of_beq hc))
      rw [hback, List.append_nil, List.takeWhile_eq_self_iff.mpr hall]
  · rfl

/-- **The directory of a file begins where the file begins.** -/
theorem origin_directoryText (s : String) :
    (ofText (directoryText s)).origin = (ofText s).origin := by
  obtain ⟨directory, slashes, name, hs, hslashes, hname, hdirectory, hcut⟩ := exists_directory s.toList
  have htext : s = String.ofList (directory ++ slashes ++ name) := by
    rw [← hs, String.ofList_toList]
  have horigin : ∀ t : String, (ofText t).origin = Origin.ofChars t.toList := fun _ => rfl
  rw [horigin, horigin, htext, directoryText_eq hslashes hname hdirectory hcut,
    String.toList_ofList, String.toList_ofList]
  by_cases hnil : directory = []
  · rw [if_pos hnil, hnil, List.nil_append]
    exact (ofChars_origin_append (Or.inr fun hhead => hname (List.mem_of_head? hhead))).symm
  · rw [if_neg hnil, List.append_assoc]
    refine (ofChars_origin_append (Or.inl ⟨_, List.getLast_mem hnil, fun heq => hdirectory ?_⟩)).symm
    rw [List.getLast?_eq_some_getLast hnil, heq]

/-- The text of a path ends in the name of its last part. -/
theorem toList_text_concat (origin : Origin) (front : List String) (name : String) :
    (text ⟨origin, front ++ [name]⟩).toList
      = (if front = [] then origin.text.toList else (text ⟨origin, front⟩).toList ++ ['/'])
        ++ name.toList := by
  rw [toList_text (Or.inr (List.concat_ne_nil name front))]
  by_cases hnil : front = []
  · rw [if_pos hnil, hnil]
    rfl
  · have hslash : ("/" : String).toList = ['/'] := rfl
    rw [if_neg hnil, toList_text (Or.inr hnil), ← hslash, ← toList_joinWith, ← toList_joinWith,
      joinWith_concat _ _ hnil, String.toList_append, String.toList_append]
    simp only [List.append_assoc]

/-- **The directory in the text of a path** is what holds the path. -/
theorem ofText_directoryText {p : Path} (hp : p.IsWritten) (hne : p.parts ≠ []) :
    ofText (directoryText p.text) = p.parent := by
  obtain ⟨origin, parts⟩ := p
  obtain ⟨front, name, rfl⟩ : ∃ front name, parts = front ++ [name] :=
    ⟨_, _, (List.dropLast_append_getLast hne).symm⟩
  have hfront : IsWritten ⟨origin, front⟩ := fun n hn => hp n (List.mem_append_left _ hn)
  have hname : IsName name := hp name (List.mem_append_right _ (List.mem_singleton_self name))
  have hparent : (Path.mk origin (front ++ [name])).parent = ⟨origin, front⟩ :=
    congrArg (Path.mk origin) List.dropLast_concat
  rw [hparent, ← String.ofList_toList (s := text _), toList_text_concat]
  by_cases hnil : front = []
  · -- nothing but the slashes of the root is left
    have hslashes : origin.text.toList.all (· == '/') = true := by cases origin <;> rfl
    have horigin : ∀ c ∈ origin.text.toList, c = '/' :=
      fun c hc => eq_of_beq (List.all_eq_true.mp hslashes c hc)
    have hcut := @directoryText_eq [] _ _ horigin hname.2 (by decide) fun _ => rfl
    rw [List.nil_append, if_pos rfl] at hcut
    rw [if_pos hnil, hcut, hnil, String.ofList_toList]
    cases origin <;> rfl
  · obtain ⟨before, last, rfl⟩ : ∃ before last, front = before ++ [last] :=
      ⟨_, _, (List.dropLast_append_getLast hnil).symm⟩
    have hlast : IsName last :=
      hfront last (List.mem_append_right _ (List.mem_singleton_self last))
    have hends : (text ⟨origin, before ++ [last]⟩).toList.getLast?
        = some (last.toList.getLast hlast.ne_nil) := by
      rw [toList_text_concat, List.getLast?_append, List.getLast?_eq_some_getLast hlast.ne_nil]
      rfl
    have hfull : (text ⟨origin, before ++ [last]⟩).toList ≠ [] := fun hempty => by
      rw [hempty] at hends
      cases hends
    have hcut := @directoryText_eq (text ⟨origin, before ++ [last]⟩).toList ['/'] _ (by simp)
      hname.2 (fun hslash => hlast.2 (Option.some.inj (hends.symm.trans hslash) ▸ List.getLast_mem _)) nofun
    rw [if_neg hfull, String.ofList_toList] at hcut
    rw [if_neg hnil, hcut, ofText_text hfront]

/-! ## Ways -/

variable {cwd p directory : Path}

/-- **The way from a directory to a path leads there**: it climbs as many names as the path has not in
    common with the directory, and then it has the names that the directory has not. -/
theorem absolute_join_relativeTo (hd : (absolute cwd directory).isAbsolute = true)
    (horigin : (absolute cwd directory).origin = (absolute cwd p).origin) :
    absolute cwd (directory.join (relativeTo cwd p directory)) = absolute cwd p := by
  have hdots := noDots_absolute hd
  have hdots' := @noDots_absolute cwd p (by rwa [isAbsolute, ← horigin])
  rw [absolute_join, relativeTo]
  generalize absolute cwd directory = d at hd horigin hdots ⊢
  generalize absolute cwd p = q at horigin hdots' ⊢
  obtain ⟨common, hup, hdown⟩ := exists_common d.parts q.parts
  generalize (dropCommon d.parts q.parts).1 = up at hup ⊢
  generalize (dropCommon d.parts q.parts).2 = down at hdown ⊢
  have hclimb : up.map (fun _ => "..") = List.replicate up.length ".." := List.map_const' ..
  have hdownDots : ".." ∉ down := fun hmem => hdots' (hdown ▸ List.mem_append_right _ hmem)
  have hfold : (d.parts ++ (up.map (fun _ => "..") ++ down)).foldl (resolvePart true) []
      = q.parts.reverse := by
    rw [List.foldl_append, foldl_resolvePart hdots, List.foldl_append, hclimb, List.append_nil,
      foldl_resolvePart_replicate fun hmem => hdots (List.mem_reverse.mp hmem),
      foldl_resolvePart hdownDots, hup, hdown, List.reverse_append, List.reverse_append,
      List.drop_left' List.length_reverse]
  have hjoin : absolute d ⟨.here, up.map (fun _ => "..") ++ down⟩
      = ⟨d.origin, ((d.parts ++ (up.map (fun _ => "..") ++ down)).foldl
          (resolvePart d.isAbsolute) []).reverse⟩ := rfl
  rw [hjoin, hd, hfold, List.reverse_reverse, horigin]

/-- Seen from a directory, paths that begin alike are absolute in one way. -/
theorem origin_absolute_congr {q : Path} (h : p.origin = q.origin) :
    (absolute cwd p).origin = (absolute cwd q).origin := by
  have horigin : ∀ p : Path, (absolute cwd p).origin
      = if p.origin != .here then p.origin else cwd.origin := by
    intro p
    show (cwd.join p).origin = _
    rw [join, isAbsolute]
    split <;> rfl
  rw [horigin, horigin, h]

/-- A way between paths that are read from texts is written. -/
theorem isWritten_relativeTo (hc : cwd.IsWritten) (hp : p.IsWritten) :
    (relativeTo cwd p directory).IsWritten := by
  obtain ⟨common, _, hdown⟩ := exists_common (absolute cwd directory).parts (absolute cwd p).parts
  intro n hn
  rcases List.mem_append.mp hn with hn | hn
  · obtain ⟨_, _, rfl⟩ := List.mem_map.mp hn
    decide
  · exact (hc.join hp).normalized n (hdown ▸ List.mem_append_right _ hn)

/-! ## Specifiers -/

/-- The mark in front is no part of the path. -/
theorem ofText_mark (s : String) : ofText ("./" ++ s) = ⟨.here, (ofText s).parts⟩ := by
  have hlist : ("./" ++ s).toList = ['.'] ++ '/' :: s.toList := by
    rw [String.toList_append]
    rfl
  rw [ofText, ofChars, hlist, splitAt_append_cons (by decide)]
  rfl

variable {fromFile target specifier : String}

/-- The text of a way with a mark in front, unless it begins with a dot anyway. -/
def withMark (way : String) : String := if way.toList.head? = some '.' then way else "./" ++ way

/-- There is a specifier for every path that has a text. -/
theorem importSpecifier?_eq_some_iff : importSpecifier? cwd fromFile target = some specifier
    ↔ target ≠ "" ∧ specifier
      = withMark (relativeTo cwd (ofText target) (ofText (directoryText fromFile))).text := by
  rw [importSpecifier?]
  by_cases hne : target = ""
  · rw [if_pos hne]
    exact ⟨fun h => (by cases h), fun h => absurd hne h.1⟩
  · rw [if_neg hne]
    exact ⟨fun h => ⟨hne, (Option.some.inj h).symm⟩, fun h => congrArg some h.2.symm⟩

/-- A specifier is read as the way from the directory of the file. -/
theorem ofText_importSpecifier? (hc : cwd.IsWritten)
    (h : importSpecifier? cwd fromFile target = some specifier) :
    ofText specifier = relativeTo cwd (ofText target) (ofText (directoryText fromFile)) := by
  have hwritten := @isWritten_relativeTo _ _ (ofText (directoryText fromFile)) hc
    (isWritten_ofText target)
  rw [(importSpecifier?_eq_some_iff.mp h).2, withMark]
  split
  · exact ofText_text hwritten
  · rw [ofText_mark, ofText_text hwritten]
    rfl

/-- **A specifier leads to what is imported.**  Where paths begin at the root, taken from the directory
    of the file it leads to the same place as the target, from whichever working directory both are
    seen and however they are written. -/
theorem importSpecifier?_leads (hc : cwd.IsWritten)
    (hfrom : (absolute cwd (ofText fromFile)).origin = .root)
    (htarget : (absolute cwd (ofText target)).origin = .root) (hne : target ≠ "") :
    ∃ specifier, importSpecifier? cwd fromFile target = some specifier
      ∧ absolute cwd ((ofText (directoryText fromFile)).join (ofText specifier))
        = absolute cwd (ofText target) := by
  have hdirectory : (absolute cwd (ofText (directoryText fromFile))).origin = .root :=
    (origin_absolute_congr (origin_directoryText fromFile)).trans hfrom
  have hspecifier := (@importSpecifier?_eq_some_iff cwd fromFile target _).mpr ⟨hne, rfl⟩
  refine ⟨_, hspecifier, ?_⟩
  rw [ofText_importSpecifier? hc hspecifier]
  refine absolute_join_relativeTo ?_ (hdirectory.trans htarget.symm)
  rw [isAbsolute, hdirectory]
  rfl

/-! ## Marks -/

/-- The text begins as that of a path which is marked as a relative one. -/
def IsMarked (s : String) : Prop := "./".toList <+: s.toList ∨ "../".toList <+: s.toList

instance (s : String) : Decidable (IsMarked s) := inferInstanceAs (Decidable (_ ∨ _))

theorem dropCommon_append_append (front a b : List String) :
    dropCommon (front ++ a) (front ++ b) = dropCommon a b := by
  induction front with
  | nil => rfl
  | cons n r ih =>
      show dropCommon (n :: (r ++ a)) (n :: (r ++ b)) = _
      rw [dropCommon, if_pos rfl, ih]

theorem dropCommon_eq_nil_left_iff {a b r : List String} : dropCommon a b = ([], r) ↔ b = a ++ r := by
  refine ⟨fun h => ?_, fun h => h ▸ dropCommon_append a r⟩
  obtain ⟨common, ha, hb⟩ := exists_common a b
  rw [h] at ha hb
  rw [hb, ha, List.append_nil]

theorem dropCommon_eq_nil_right_iff {a b r : List String} : dropCommon a b = (r, []) ↔ a = b ++ r := by
  constructor
  · intro h
    obtain ⟨common, ha, hb⟩ := exists_common a b
    rw [h] at ha hb
    rw [ha, hb, List.append_nil]
  · rintro rfl
    have hnil : dropCommon r [] = (r, []) := by cases r <;> rfl
    rw [← hnil, ← dropCommon_append_append b r [], List.append_nil]

/-- The text of a relative path begins with its first part. -/
theorem toList_text_cons (name : String) (rest : List String) :
    ∃ back, (text ⟨.here, name :: rest⟩).toList = name.toList ++ back
      ∧ (back = [] ↔ rest = []) ∧ (back = [] ∨ back.head? = some '/') := by
  cases rest with
  | nil => exact ⟨[], by simp [text, joinWith, Origin.text], by simp, Or.inl rfl⟩
  | cons n r =>
      refine ⟨'/' :: (joinWith "/" (n :: r)).toList, ?_, by simp, Or.inr rfl⟩
      show (Origin.here.text ++ joinWith "/" (name :: n :: r)).toList = _
      rw [joinWith_cons _ _ (List.cons_ne_nil n r)]
      simp [Origin.text]

/-- A way that climbs, and goes on, begins as it should. -/
theorem isMarked_climb (name : String) (rest : List String) :
    IsMarked (text ⟨.here, ".." :: name :: rest⟩) := by
  obtain ⟨back, htext, hnil, hslash⟩ := toList_text_cons ".." (name :: rest)
  have hne : back ≠ [] := fun h => List.cons_ne_nil name rest (hnil.mp h)
  obtain ⟨r, rfl⟩ : ∃ r, back = '/' :: r := by
    cases back with
    | nil => exact absurd rfl hne
    | cons c r => exact ⟨r, congrArg (· :: r) (Option.some.inj (hslash.resolve_left hne))⟩
  exact Or.inr ⟨r, htext.symm⟩

/-- A way down never begins as a mark does: what is before the first slash is a name. -/
theorem not_isMarked_text {name : String} (hname : IsName name) (hdots : name ≠ "..")
    (rest : List String) : ¬ IsMarked (text ⟨.here, name :: rest⟩) := by
  obtain ⟨back, htext, _, hslash⟩ := toList_text_cons name rest
  have hfirst : ∀ {mark r : List Char}, '/' ∉ mark → mark ++ '/' :: r = name.toList ++ back →
      mark = name.toList := by
    intro mark r hmark heq
    have hsplit := congrArg (fun cs => (splitAt '/' cs).head?) heq
    rw [splitAt_append_cons hmark] at hsplit
    rcases hslash with rfl | hslash
    · rw [List.append_nil, splitAt_of_not_mem hname.2] at hsplit
      exact Option.some.inj hsplit
    · cases back with
      | nil => cases hslash
      | cons c t =>
          obtain rfl := Option.some.inj hslash
          rw [splitAt_append_cons hname.2] at hsplit
          exact Option.some.inj hsplit
  rw [IsMarked, htext]
  rintro (⟨r, hr⟩ | ⟨r, hr⟩)
  · have hdot : ['.'] = name.toList := hfirst (by decide) hr
    have hpart := hname.1
    rw [← hdot] at hpart
    cases hpart
  · have hboth : ['.', '.'] = name.toList := hfirst (by decide) hr
    exact hdots (String.toList_inj.mp hboth.symm)

theorem isMarked_withMark {way : String} (h : IsMarked way) : IsMarked (withMark way) := by
  rw [withMark]
  split
  · exact h
  · exact Or.inl ⟨way.toList, (String.toList_append ..).symm⟩

/-- A way down has a mark in front unless its first name begins with a dot. -/
theorem isMarked_down_iff {name : String} (hname : IsName name) (hdots : name ≠ "..")
    (rest : List String) :
    IsMarked (withMark (text ⟨.here, name :: rest⟩)) ↔ name.toList.head? ≠ some '.' := by
  obtain ⟨back, htext, _⟩ := toList_text_cons name rest
  have hhead : (text ⟨.here, name :: rest⟩).toList.head? = name.toList.head? := by
    rw [htext, List.head?_append_of_ne_nil _ hname.ne_nil]
  rw [withMark, hhead]
  split
  · rename_i hdot
    exact ⟨fun h => absurd h (not_isMarked_text hname hdots rest), fun h => absurd hdot h⟩
  · rename_i hdot
    exact ⟨fun _ => hdot, fun _ => Or.inl ⟨_, (String.toList_append ..).symm⟩⟩

/-- A way up has no mark, and ends in a slash behind two dots only if it goes on. -/
theorem isMarked_up_iff (climbed : List String) :
    IsMarked (withMark (text ⟨.here, climbed.map (fun _ => "..")⟩)) ↔ 2 ≤ climbed.length := by
  match climbed with
  | [] => decide
  | [_] =>
      have hup : ¬ IsMarked (withMark (text ⟨.here, [".."]⟩)) := by decide
      exact iff_of_false hup (by simp)
  | _ :: _ :: _ => exact iff_of_true (isMarked_withMark (isMarked_climb ..)) (by simp)

/-- The way from a directory to a place, by where they part. -/
def wayBetween (directory place : List String) : Path :=
  ⟨.here, (dropCommon directory place).1.map (fun _ => "..") ++ (dropCommon directory place).2⟩

/-- A way that goes down somewhere has a mark in front, unless it begins with a name that begins with
    a dot. -/
theorem isMarked_beside_iff {directory place : List String} (hwritten : ∀ n ∈ place, IsName n)
    (hdots : ".." ∉ place) (h : ¬ place <+: directory) :
    IsMarked (withMark (wayBetween directory place).text)
      ↔ ∀ name rest, place = directory ++ name :: rest → name.toList.head? ≠ some '.' := by
  obtain ⟨common, hup, hdown⟩ := exists_common directory place
  rw [wayBetween]
  cases hd : (dropCommon directory place).2 with
  | nil =>
      -- nothing is left of the way down, so the place holds the directory
      rw [hd, List.append_nil] at hdown
      exact absurd (hdown ▸ hup ▸ List.prefix_append _ _) h
  | cons name rest =>
      have hmem : name ∈ place := hdown ▸ hd ▸ List.mem_append_right _ List.mem_cons_self
      cases hu : (dropCommon directory place).1 with
      | nil =>
          rw [hu, List.append_nil] at hup
          rw [hd, ← hup] at hdown
          rw [List.map_nil, List.nil_append,
            isMarked_down_iff (hwritten name hmem) (fun heq => hdots (heq ▸ hmem))]
          refine ⟨fun hhead name' rest' heq => ?_, fun hall => hall name rest hdown⟩
          obtain ⟨rfl, _⟩ := List.cons.inj (List.append_cancel_left (hdown.symm.trans heq))
          exact hhead
      | cons n r =>
          refine iff_of_true ?_ fun name' rest' heq => ?_
          · rw [List.map_cons, List.cons_append]
            cases r <;> exact isMarked_withMark (isMarked_climb ..)
          · rw [dropCommon_eq_nil_left_iff.mpr heq] at hu
            cases hu

theorem relativeTo_eq_wayBetween (cwd p directory : Path) : relativeTo cwd p directory
    = wayBetween (resolved cwd directory).parts (resolved cwd p).parts := rfl

theorem exists_marked_iff : (∃ specifier, importSpecifier? cwd fromFile target = some specifier
      ∧ IsMarked specifier) ↔ target ≠ "" ∧ IsMarked (withMark (wayBetween
        (resolved cwd (ofText (directoryText fromFile))).parts
        (resolved cwd (ofText target)).parts).text) := by
  rw [← relativeTo_eq_wayBetween]
  constructor
  · rintro ⟨specifier, hspecifier, hmark⟩
    obtain ⟨hne, heq⟩ := importSpecifier?_eq_some_iff.mp hspecifier
    exact ⟨hne, heq ▸ hmark⟩
  · rintro ⟨hne, hmark⟩
    exact ⟨_, importSpecifier?_eq_some_iff.mpr ⟨hne, rfl⟩, hmark⟩

/-- **When a specifier begins as that of a relative path.**  If the target is neither the directory of
    the file nor one that holds it, it does if and only if it is not the case that the target lies in
    the directory and the first name of the way down begins with a dot.  If the target is the
    directory or holds it, it does if and only if the directory lies two levels down or more. -/
theorem importSpecifier?_marked_iff (ha : cwd.isAbsolute = true) (hc : cwd.IsWritten)
    (fromFile target : String) :
    let directory := (resolved cwd (ofText (directoryText fromFile))).parts
    let place := (resolved cwd (ofText target)).parts
    let marked := ∃ specifier, importSpecifier? cwd fromFile target = some specifier
      ∧ IsMarked specifier
    (¬ place <+: directory → (marked ↔ target ≠ ""
      ∧ ∀ name rest, place = directory ++ name :: rest → name.toList.head? ≠ some '.'))
    ∧ ∀ climbed, directory = place ++ climbed → (marked ↔ target ≠ "" ∧ 2 ≤ climbed.length) := by
  intro directory place marked
  have hmarked : marked ↔ target ≠ "" ∧ IsMarked (withMark (wayBetween directory place).text) :=
    exists_marked_iff
  have hwritten : ∀ n ∈ place, IsName n := (hc.join (isWritten_ofText target)).normalized
  refine ⟨fun hnot => ?_, fun climbed hclimbed => ?_⟩
  · rw [hmarked, isMarked_beside_iff hwritten (resolved_noDots ha) hnot]
  · rw [hmarked, wayBetween, dropCommon_eq_nil_right_iff.mpr hclimbed, List.append_nil,
      isMarked_up_iff]

/-- **A name that begins with a dot is not told from a way up**: a file that is imported from a hidden
    directory beside the importing file has a specifier without a mark. -/
theorem importSpecifier?_marked_iff_hidden :
    importSpecifier? ⟨.root, ["w"]⟩ "/w/a.ts" "/w/.gql/schema.d.ts" = some ".gql/schema.d.ts"
      ∧ ¬ (∃ specifier, importSpecifier? ⟨.root, ["w"]⟩ "/w/a.ts" "/w/.gql/schema.d.ts"
        = some specifier ∧ IsMarked specifier) := by
  have hiff := (@importSpecifier?_marked_iff ⟨.root, ["w"]⟩ (by decide) (by decide) "/w/a.ts"
    "/w/.gql/schema.d.ts").1 (by decide +kernel)
  refine ⟨by decide +kernel, fun h => (hiff.mp h).2 ".gql" ["schema.d.ts"] (by decide +kernel) rfl⟩

end QueryTypings.Path
