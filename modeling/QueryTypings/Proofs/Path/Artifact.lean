/-
  The place of a declaration tells its query file.

  1. **The name** — a name with an extension is cut before its last dot, and the name of the
     declaration keeps both halves.  So no two names have declarations of one name
     (`artifactName_injective`).

  2. **The root** — whatever text is given, a declaration is a place below the root of all
     declarations, or there is none (`artifact_within`).

  3. **The place** — for a query file inside the base directory the declaration lies in a directory
     of the same way down (`artifact_eq`); two query files never share a declaration
     (`artifactParts_injective`).
-/
import QueryTypings.Proofs.Path.Normal
import Mathlib.Data.List.TakeWhile

namespace QueryTypings.Path

open QueryTypings.Text

/-! ## The name -/

/-- A list is cut before the last of a character in one way. -/
theorem append_cons_inj {c : Char} {a b x y : List Char} (hx : c ∉ x) (hy : c ∉ y)
    (h : a ++ c :: x = b ++ c :: y) : a = b ∧ x = y := by
  rcases List.append_eq_append_iff.mp h with ⟨t, hb, ht⟩ | ⟨t, ha, ht⟩
  · cases t with
    | nil => exact ⟨by simpa using hb.symm, (List.cons.inj ht).2⟩
    | cons d u =>
        obtain ⟨_, hxu⟩ := List.cons.inj ht
        exact absurd (hxu ▸ List.mem_append_right u List.mem_cons_self) hx
  · cases t with
    | nil => exact ⟨by simpa using ha, (List.cons.inj ht).2.symm⟩
    | cons d u =>
        obtain ⟨_, hyu⟩ := List.cons.inj ht
        exact absurd (hyu ▸ List.mem_append_right u List.mem_cons_self) hy

/-- A name that has an extension, and its halves. -/
theorem splitName_cases {name : String} (h : (splitName name).2 ≠ "") :
    ∃ front x, front ≠ [] ∧ x ≠ [] ∧ '.' ∉ x ∧ name.toList = front ++ '.' :: x
      ∧ splitName name = (String.ofList front, String.ofList ('.' :: x)) := by
  have hback : name.toList.reverse
      = name.toList.reverse.takeWhile (· != '.') ++ name.toList.reverse.dropWhile (· != '.') :=
    (List.takeWhile_append_dropWhile).symm
  have hno : '.' ∉ (name.toList.reverse.takeWhile (· != '.')).reverse := by
    intro hmem
    have := List.mem_takeWhile_imp (List.mem_reverse.mp hmem)
    simp at this
  simp only [splitName] at h ⊢
  cases hd : name.toList.reverse.dropWhile (· != '.') with
  | nil =>
      rw [hd] at h
      exact absurd rfl h
  | cons c back =>
      have hc : c = '.' := by
        have hhead := List.head_dropWhile_not (p := (· != '.')) (l := name.toList.reverse)
          (by rw [hd]; exact List.cons_ne_nil c back)
        simpa [hd] using hhead
      subst hc
      rw [hd] at h
      dsimp only at h ⊢
      split
      · rename_i hempty
        rw [if_pos hempty] at h
        exact absurd rfl h
      · rename_i hfull
        rw [Bool.or_eq_true, not_or, List.isEmpty_iff, List.isEmpty_iff] at hfull
        refine ⟨back.reverse, _, ?_, hfull.1, hno, ?_, rfl⟩
        · exact fun hnil => hfull.2 (List.reverse_eq_nil_iff.mp hnil)
        · have hrev := congrArg List.reverse hback
          rw [hd] at hrev
          simpa using hrev

/-- A name is cut before its last dot. -/
theorem splitName_append {front x : List Char} (hfront : front ≠ []) (hx : x ≠ [])
    (hdot : '.' ∉ x) :
    splitName (String.ofList (front ++ '.' :: x))
      = (String.ofList front, String.ofList ('.' :: x)) := by
  have hall : ∀ c ∈ x.reverse, (c != '.') = true := fun c hc =>
    bne_iff_ne.mpr fun heq => hdot (heq ▸ List.mem_reverse.mp hc)
  have hback : (front ++ '.' :: x).reverse = x.reverse ++ '.' :: front.reverse := by simp
  have htake : (x.reverse ++ '.' :: front.reverse).takeWhile (· != '.') = x.reverse := by
    rw [List.takeWhile_append_of_pos hall, List.takeWhile_cons_of_neg (by simp), List.append_nil]
  have hdrop : (x.reverse ++ '.' :: front.reverse).dropWhile (· != '.') = '.' :: front.reverse := by
    rw [List.dropWhile_append_of_pos hall, List.dropWhile_cons_of_neg (by simp)]
  simp [splitName, String.toList_ofList, hback, htake, hdrop, hfront, hx]

/-- The halves of a name that has an extension. -/
theorem splitName_eq {name : String} (h : (splitName name).2 ≠ "") :
    ∃ x, '.' ∉ x ∧ (splitName name).2.toList = '.' :: x
      ∧ name.toList = (splitName name).1.toList ++ '.' :: x := by
  obtain ⟨front, x, _, _, hdot, hname, hsplit⟩ := splitName_cases h
  rw [hsplit, String.toList_ofList, String.toList_ofList]
  exact ⟨x, hdot, rfl, hname⟩

theorem toList_artifactName (stem extension : String) :
    (artifactName stem extension).toList
      = stem.toList ++ '.' :: 'd' :: (extension.toList ++ ['.', 't', 's']) := by
  simp [artifactName]

/-- **Names with extensions have declarations of different names.** -/
theorem artifactName_injective {a b : String} (ha : (splitName a).2 ≠ "")
    (hb : (splitName b).2 ≠ "")
    (h : artifactName (splitName a).1 (splitName a).2 = artifactName (splitName b).1 (splitName b).2) :
    a = b := by
  obtain ⟨x, hx, hax, hla⟩ := splitName_eq ha
  obtain ⟨y, hy, hby, hlb⟩ := splitName_eq hb
  have hlist := congrArg String.toList h
  rw [toList_artifactName, toList_artifactName, hax, hby] at hlist
  have hcut : ((splitName a).1.toList ++ ['.', 'd']) ++ '.' :: x
      = ((splitName b).1.toList ++ ['.', 'd']) ++ '.' :: y := by
    have hends : ((splitName a).1.toList ++ ['.', 'd']) ++ '.' :: x ++ ['.', 't', 's']
        = ((splitName b).1.toList ++ ['.', 'd']) ++ '.' :: y ++ ['.', 't', 's'] := by
      simpa using hlist
    exact List.append_cancel_right hends
  obtain ⟨hstem, rfl⟩ := append_cons_inj hx hy hcut
  have hstem' := List.append_cancel_right hstem
  refine String.toList_inj.mp ?_
  rw [hla, hlb, hstem']

/-- The name of a declaration is not two dots. -/
theorem artifactName_ne_dots (stem extension : String) : artifactName stem extension ≠ ".." := by
  intro h
  have hlist := congrArg (fun s => s.toList.getLast?) h
  simp only [toList_artifactName] at hlist
  have hlast : (stem.toList ++ '.' :: 'd' :: (extension.toList ++ ['.', 't', 's'])).getLast?
      = some 's' := by
    rw [List.getLast?_append]
    simp [List.getLast?_cons]
  rw [hlast] at hlist
  cases hlist

/-- A character that is neither in a name with an extension nor in what is added to it is not in the
    name of its declaration. -/
theorem not_mem_artifactName {c : Char} {name : String} (hname : c ∉ name.toList)
    (hc : c ∉ ['.', 'd', 't', 's']) (h : (splitName name).2 ≠ "") :
    c ∉ (artifactName (splitName name).1 (splitName name).2).toList := by
  obtain ⟨x, _, hx, hall⟩ := splitName_eq h
  rw [hall] at hname
  rw [toList_artifactName, hx]
  simp only [List.mem_append, List.mem_cons, List.not_mem_nil, or_false, not_or] at hname hc ⊢
  obtain ⟨hstem, _, hrest⟩ := hname
  obtain ⟨hdot, hd, ht, hs⟩ := hc
  exact ⟨hstem, hdot, hd, ⟨hdot, hrest⟩, hdot, ht, hs⟩

/-- The name of the declaration of a name with an extension is a name. -/
theorem isName_artifactName {name : String} (hname : '/' ∉ name.toList)
    (h : (splitName name).2 ≠ "") : IsName (artifactName (splitName name).1 (splitName name).2) := by
  refine ⟨?_, not_mem_artifactName hname (by decide) h⟩
  rw [toList_artifactName, isPart, Bool.and_eq_true, Bool.not_eq_true', bne_iff_ne]
  constructor
  · simp
  · intro heq
    have hlength := congrArg List.length heq
    simp only [List.length_append, List.length_cons, List.length_nil] at hlength
    omega

/-- No part of the path holds NUL. -/
theorem hasNul_eq_false_iff {p : Path} :
    p.hasNul = false ↔ ∀ n ∈ p.parts, '\x00' ∉ n.toList := by
  rw [hasNul, List.any_eq_false]
  simp only [List.contains_iff_mem]

/-! ## The root -/

theorem getLastD_mem {parts : List String} (h : parts ≠ []) : parts.getLastD "" ∈ parts := by
  rw [List.getLastD_eq_getLast?, List.getLast?_eq_some_getLast h]
  exact List.getLast_mem h

/-- **When a source has a declaration**, and where: the last part of the source is renamed, and the
    source is taken from the root. -/
theorem artifact_eq_ok_iff {cwd a : Path} {source root : String} :
    artifact cwd source root = .ok a ↔ (splitName (ofText source).name).2 ≠ ""
      ∧ (ofText source).isAbsolute = false
      ∧ a = ((ofText root).normalized.join ((ofText source).withName
          (artifactName (ofText source).stem (ofText source).extension))).normalized
      ∧ isUnderRoot (absolute cwd (ofText root).normalized) (absolute cwd a) = true := by
  constructor
  · intro h
    rw [artifact] at h
    split at h
    · cases h
    · rename_i hextension
      split at h
      · cases h
      · rename_i hrelative
        dsimp only at h
        split at h
        · rename_i hunder
          obtain rfl := Except.ok.inj h
          exact ⟨hextension, Bool.eq_false_iff.mpr hrelative, rfl, hunder⟩
        · cases h
  · rintro ⟨hextension, hrelative, rfl, hunder⟩
    have hextension' : ¬ (ofText source).extension = "" := hextension
    simp only [artifact, if_neg hextension', hrelative, Bool.false_eq_true, if_false, if_pos hunder]

/-- A path under a root lies below it, and neither begins with two slashes. -/
theorem isUnderRoot_iff {root p : Path} : isUnderRoot root p = true
    ↔ root.origin = .root ∧ ∃ name rest, p = root.join ⟨.here, name :: rest⟩ := by
  have horigin : (root.origin == Origin.root) = true ↔ root.origin = .root := by
    cases root.origin <;> decide
  rw [isUnderRoot, Bool.and_eq_true, horigin, isBelow]
  refine and_congr_right fun _ => ?_
  constructor
  · intro h
    split at h
    · rename_i name rest hinside
      rw [inside?] at hinside
      split at hinside
      · rename_i hsame
        refine ⟨name, rest, ?_⟩
        show p = ⟨root.origin, root.parts ++ name :: rest⟩
        rw [← dropFront?_eq_some_iff.mp hinside, hsame]
      · cases hinside
    · cases h
  · rintro ⟨name, rest, rfl⟩
    have hsame : root.origin = (root.join ⟨.here, name :: rest⟩).origin := rfl
    have hinside : root.inside? (root.join ⟨.here, name :: rest⟩) = some (name :: rest) := by
      rw [inside?, if_pos hsame, dropFront?_eq_some_iff]
      rfl
    rw [hinside]

/-- How a declaration is found below a root that is a place, if it is. -/
theorem artifact_cases {cwd root a : Path} (hr : root.IsPlace) {source : String}
    (h : artifact cwd source root.text = .ok a) :
    (splitName (ofText source).name).2 ≠ ""
      ∧ a = (⟨.root, root.parts ++ ((ofText source).parts.dropLast ++
          [artifactName (ofText source).stem (ofText source).extension])⟩ : Path).normalized
      ∧ isUnderRoot (absolute cwd root) (absolute cwd a) = true := by
  obtain ⟨hextension, hrelative, heq, hunder⟩ := artifact_eq_ok_iff.mp h
  rw [ofText_text hr.written, normalized_eq_self hr.noDots] at heq hunder
  have hwith : ((ofText source).withName
      (artifactName (ofText source).stem (ofText source).extension)).isAbsolute = false := hrelative
  refine ⟨hextension, heq.trans (congrArg normalized ?_), hunder⟩
  rw [join, hwith, ← hr.origin]
  rfl

/-- The names of a declaration come from the root and from the source, but for the last one. -/
theorem mem_artifact {cwd root a : Path} (hr : root.IsPlace) {source : String}
    (h : artifact cwd source root.text = .ok a) : ".." ∉ a.parts ∧ ∀ n ∈ a.parts,
      n ∈ root.parts ∨ n ∈ (ofText source).parts
        ∨ n = artifactName (ofText source).stem (ofText source).extension := by
  obtain ⟨_, rfl, _⟩ := artifact_cases hr h
  obtain ⟨hdots, hmem⟩ := mem_normalized (p := ⟨.root, root.parts ++ ((ofText source).parts.dropLast
    ++ [artifactName (ofText source).stem (ofText source).extension])⟩) rfl
  refine ⟨hdots, fun n hn => ?_⟩
  rcases List.mem_append.mp (hmem n hn) with hn | hn
  · exact Or.inl hn
  · rcases List.mem_append.mp hn with hn | hn
    · exact Or.inr (Or.inl (List.dropLast_subset _ hn))
    · exact Or.inr (Or.inr (List.mem_singleton.mp hn))

/-- The last part of a path with an extension. -/
theorem name_mem {p : Path} (h : (splitName p.name).2 ≠ "") : p.name ∈ p.parts := by
  refine getLastD_mem fun hnil => h ?_
  rw [name, hnil]
  rfl

theorem isPlace_artifact {cwd root a : Path} (hr : root.IsPlace) {source : String}
    (h : artifact cwd source root.text = .ok a) : a.IsPlace := by
  obtain ⟨hextension, heq, _⟩ := artifact_cases hr h
  obtain ⟨hdots, hmem⟩ := mem_artifact hr h
  refine ⟨heq ▸ rfl, hdots, fun n hn => ?_⟩
  rcases hmem n hn with hn | hn | rfl
  · exact hr.written n hn
  · exact isWritten_ofText source n hn
  · exact isName_artifactName (isWritten_ofText source _ (name_mem hextension)).2 hextension

/-- A declaration holds NUL only if the root or the source does. -/
theorem hasNul_artifact {cwd root a : Path} (hr : root.IsPlace) {source : String}
    (h : artifact cwd source root.text = .ok a) (hroot : root.hasNul = false)
    (hsource : (ofText source).hasNul = false) : a.hasNul = false := by
  obtain ⟨hextension, _, _⟩ := artifact_cases hr h
  refine hasNul_eq_false_iff.mpr fun n hn => ?_
  rw [hasNul_eq_false_iff] at hroot hsource
  rcases (mem_artifact hr h).2 n hn with hn | hn | rfl
  · exact hroot n hn
  · exact hsource n hn
  · exact not_mem_artifactName (hsource _ (name_mem hextension)) (by decide) hextension

/-- **A declaration never leaves the root of all declarations**, whatever text is given. -/
theorem artifact_within {cwd root a : Path} (hr : root.IsPlace) {source : String}
    (h : artifact cwd source root.text = .ok a) :
    ∃ name rest, a.parts = root.parts ++ name :: rest := by
  have hplace := isPlace_artifact hr h
  have hunder := (artifact_cases hr h).2.2
  rw [absolute_of_isPlace hr, absolute_of_isPlace hplace] at hunder
  obtain ⟨_, name, rest, heq⟩ := isUnderRoot_iff.mp hunder
  exact ⟨name, rest, congrArg Path.parts heq⟩

/-! ## The place -/

/-- The way down from the root of all declarations. -/
def artifactParts (parts : List String) : List String :=
  parts.dropLast ++ [artifactName (splitName (parts.getLastD "")).1 (splitName (parts.getLastD "")).2]

/-- **The declaration of a query file inside the base directory.** -/
theorem artifact_eq {cwd root a : Path} (hr : root.IsPlace) {parts : List String}
    (hw : ∀ n ∈ parts, IsName n) (hdots : ".." ∉ parts)
    (h : artifact cwd (text ⟨.here, parts⟩) root.text = .ok a) :
    a = ⟨.root, root.parts ++ artifactParts parts⟩ ∧ (splitName (parts.getLastD "")).2 ≠ "" := by
  rw [artifact, ofText_text (p := ⟨.here, parts⟩) hw, ofText_text hr.written,
    normalized_eq_self hr.noDots] at h
  split at h
  · cases h
  · rename_i hextension
    split at h
    · cases h
    · have hjoin : (root.join (withName ⟨.here, parts⟩
            (artifactName (stem ⟨.here, parts⟩) (extension ⟨.here, parts⟩)))).normalized
          = ⟨.root, root.parts ++ artifactParts parts⟩ := by
        have heq : root.join (withName ⟨.here, parts⟩
            (artifactName (stem ⟨.here, parts⟩) (extension ⟨.here, parts⟩)))
            = ⟨.root, root.parts ++ artifactParts parts⟩ := by
          conv_lhs => rw [hr.eq]
          rfl
        rw [heq]
        refine normalized_eq_self fun hmem => ?_
        rcases List.mem_append.mp hmem with hmem | hmem
        · exact hr.noDots hmem
        · rcases List.mem_append.mp hmem with hmem | hmem
          · exact hdots (List.dropLast_subset parts hmem)
          · exact artifactName_ne_dots _ _ (List.mem_singleton.mp hmem).symm
      simp only [hjoin] at h
      split at h
      · cases h
        exact ⟨rfl, hextension⟩
      · cases h

theorem dropLast_append_getLastD {parts : List String} (h : (splitName (parts.getLastD "")).2 ≠ "") :
    parts.dropLast ++ [parts.getLastD ""] = parts := by
  cases parts with
  | nil => exact absurd rfl h
  | cons a r =>
      rw [List.getLastD_cons, ← List.getLast_eq_getLastD (List.cons_ne_nil a r)]
      exact List.dropLast_append_getLast _

/-- **No two query files share a declaration.** -/
theorem artifactParts_injective {ps qs : List String} (hp : (splitName (ps.getLastD "")).2 ≠ "")
    (hq : (splitName (qs.getLastD "")).2 ≠ "") (h : artifactParts ps = artifactParts qs) :
    ps = qs := by
  obtain ⟨hfront, hname⟩ := List.append_inj' h rfl
  have hlast := artifactName_injective hp hq (List.cons.inj hname).1
  rw [← dropLast_append_getLastD hp, ← dropLast_append_getLastD hq, hfront, hlast]

end QueryTypings.Path
