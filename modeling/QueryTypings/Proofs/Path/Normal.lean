/-
  Paths, their texts and their normal forms.

  1. **Written paths** — a path is written if its parts are names that stand between slashes.  Every
     path that is read from a text is written, and a written path is read back from its text
     (`ofText_text`).

  2. **Normal forms** — an absolute path without two dots is its own normal form, and every absolute
     normal form is one (`IsPlace`).  Two dots take back the last part that is there.

  3. **Inside a directory** — a path inside a directory is the directory with more parts.
-/
import QueryTypings.Path.Artifact
import QueryTypings.Proofs.Text.Lines

namespace QueryTypings

open QueryTypings.Text

namespace Path

/-! ## Written paths -/

/-- The name stands between slashes and names something. -/
def IsName (name : String) : Prop := isPart name.toList ∧ '/' ∉ name.toList

/-- All parts are names. -/
def IsWritten (p : Path) : Prop := ∀ n ∈ p.parts, IsName n

instance (name : String) : Decidable (IsName name) :=
  inferInstanceAs (Decidable (_ ∧ _))

instance (p : Path) : Decidable p.IsWritten :=
  inferInstanceAs (Decidable (∀ n ∈ p.parts, IsName n))

theorem isWritten_ofText (s : String) : (ofText s).IsWritten := by
  intro n hn
  obtain ⟨cs, hcs, rfl⟩ := List.mem_map.mp hn
  obtain ⟨hmem, hpart⟩ := List.mem_filter.mp hcs
  rw [IsName, String.toList_ofList]
  exact ⟨hpart, not_mem_of_mem_splitAt cs hmem⟩

theorem IsName.ne_nil {name : String} (h : IsName name) : name.toList ≠ [] := by
  intro hnil
  have hpart := h.1
  simp [isPart, hnil] at hpart

/-- The parts are read from what stands behind the root. -/
theorem parts_ofChars {parts : List String} (h : ∀ n ∈ parts, IsName n) :
    ((splitAt '/' (intercal ['/'] (parts.map String.toList))).filter isPart).map String.ofList
      = parts := by
  cases parts with
  | nil => rfl
  | cons a r =>
      rw [splitAt_intercal (by simp) ?_]
      · rw [List.filter_eq_self.mpr ?_, List.map_map]
        · conv_rhs => rw [← List.map_id (a :: r)]
          exact List.map_congr_left fun n _ => String.ofList_toList
        · intro p hp
          obtain ⟨n, hn, rfl⟩ := List.mem_map.mp hp
          exact (h n hn).1
      · intro p hp
        obtain ⟨n, hn, rfl⟩ := List.mem_map.mp hp
        exact (h n hn).2

/-- What stands behind the root begins with no slash. -/
theorem head_intercal {parts : List String} (h : ∀ n ∈ parts, IsName n) (r : List Char) :
    intercal ['/'] (parts.map String.toList) ≠ '/' :: r := by
  cases parts with
  | nil => exact fun h => by cases h
  | cons a t =>
      obtain ⟨c, cs, hcs⟩ := List.exists_cons_of_ne_nil (h a List.mem_cons_self).ne_nil
      have hc : c ≠ '/' := fun hc => (h a List.mem_cons_self).2 (by
        rw [hcs, hc]
        exact List.mem_cons_self)
      intro heq
      cases t with
      | nil =>
          rw [List.map_cons, List.map_nil, intercal, hcs] at heq
          exact hc (List.cons.inj heq).1
      | cons b u =>
          rw [List.map_cons, List.map_cons, intercal, hcs] at heq
          exact hc (List.cons.inj heq).1

/-- The text of a path, but for the one that has no part at all. -/
theorem toList_text {p : Path} (h : p.origin ≠ .here ∨ p.parts ≠ []) :
    p.text.toList = p.origin.text.toList ++ intercal ['/'] (p.parts.map String.toList) := by
  have htext : p.text = p.origin.text ++ joinWith "/" p.parts := by
    obtain ⟨origin, parts⟩ := p
    cases origin with
    | here =>
        cases parts with
        | nil => simp at h
        | cons a r => rfl
    | root => rfl
    | doubleRoot => rfl
  rw [htext, String.toList_append, toList_joinWith]
  rfl

/-- Where a path begins is read from the slashes in front. -/
theorem ofChars_origin (o : Origin) {cs : List Char} (h : ∀ r, cs ≠ '/' :: r) :
    Origin.ofChars (o.text.toList ++ cs) = o := by
  cases cs with
  | nil => cases o <;> rfl
  | cons c r =>
      have hc : c ≠ '/' := fun hc => h r (hc ▸ rfl)
      cases o with
      | here =>
          show Origin.ofChars (c :: r) = .here
          simp [Origin.ofChars, hc]
      | root =>
          show Origin.ofChars ('/' :: c :: r) = .root
          simp [Origin.ofChars, hc]
      | doubleRoot =>
          show Origin.ofChars ('/' :: '/' :: c :: r) = .doubleRoot
          simp [Origin.ofChars]

/-- The slashes in front are no part. -/
theorem filter_splitAt_origin (o : Origin) (cs : List Char) :
    (splitAt '/' (o.text.toList ++ cs)).filter isPart = (splitAt '/' cs).filter isPart := by
  have hslash : ∀ cs : List Char,
      (splitAt '/' ('/' :: cs)).filter isPart = (splitAt '/' cs).filter isPart := fun cs => by
    rw [splitAt, if_pos rfl]
    rfl
  cases o with
  | here => rfl
  | root => exact hslash cs
  | doubleRoot => exact (hslash ('/' :: cs)).trans (hslash cs)

/-- **A written path is read back from its text.** -/
theorem ofText_text {p : Path} (h : p.IsWritten) : ofText p.text = p := by
  by_cases hp : p.origin ≠ .here ∨ p.parts ≠ []
  · rw [ofText, ofChars, toList_text hp, ofChars_origin p.origin (head_intercal h),
      filter_splitAt_origin, parts_ofChars h]
  · obtain ⟨origin, parts⟩ := p
    simp only [ne_eq, not_or, not_not] at hp
    obtain ⟨rfl, rfl⟩ := hp
    rfl

/-! ## Normal forms -/

/-- Without two dots nothing is taken back. -/
theorem foldl_resolvePart {absolute : Bool} {parts : List String} (h : ".." ∉ parts)
    (before : List String) : parts.foldl (resolvePart absolute) before = parts.reverse ++ before := by
  induction parts generalizing before with
  | nil => rfl
  | cons n r ih =>
      have hn : n ≠ ".." := fun hn => h (hn ▸ List.mem_cons_self)
      have hstep : resolvePart absolute before n = n :: before := by
        unfold resolvePart
        exact if_pos hn
      rw [List.foldl_cons, hstep, ih fun hr => h (List.mem_cons_of_mem _ hr)]
      simp

theorem normalized_eq_self {p : Path} (h : ".." ∉ p.parts) : p.normalized = p := by
  rw [normalized, foldl_resolvePart h, List.append_nil, List.reverse_reverse]

/-- At a root two dots never stay, and nothing is added. -/
theorem foldl_resolvePart_root {parts before : List String} (h : ".." ∉ before) :
    ".." ∉ parts.foldl (resolvePart true) before
      ∧ ∀ n ∈ parts.foldl (resolvePart true) before, n ∈ before ∨ n ∈ parts := by
  induction parts generalizing before with
  | nil => exact ⟨h, fun n hn => Or.inl hn⟩
  | cons p r ih =>
      have hstep : ".." ∉ resolvePart true before p
          ∧ ∀ n ∈ resolvePart true before p, n ∈ before ∨ n = p := by
        unfold resolvePart
        split
        · rename_i hp
          constructor
          · intro hmem
            rcases List.mem_cons.mp hmem with heq | hmem
            · exact hp heq.symm
            · exact h hmem
          · intro n hn
            rcases List.mem_cons.mp hn with rfl | hn
            · exact Or.inr rfl
            · exact Or.inl hn
        · cases before with
          | nil => exact ⟨h, fun n hn => Or.inl hn⟩
          | cons last rest =>
              have hlast : last ≠ ".." := fun hl => h (hl ▸ List.mem_cons_self)
              simp only [if_neg hlast]
              exact ⟨fun hmem => h (List.mem_cons_of_mem _ hmem),
                fun n hn => Or.inl (List.mem_cons_of_mem _ hn)⟩
      obtain ⟨hdots, hmem⟩ := ih hstep.1
      refine ⟨hdots, fun n hn => ?_⟩
      rcases hmem n hn with hn | hn
      · rcases hstep.2 n hn with hn | rfl
        · exact Or.inl hn
        · exact Or.inr List.mem_cons_self
      · exact Or.inr (List.mem_cons_of_mem _ hn)

/-- A path that denotes a place: it begins at the root and has no two dots. -/
structure IsPlace (p : Path) : Prop where
  origin : p.origin = .root
  noDots : ".." ∉ p.parts
  written : p.IsWritten

theorem IsPlace.eq {p : Path} (h : p.IsPlace) : p = ⟨.root, p.parts⟩ := by
  obtain ⟨origin, parts⟩ := p
  obtain rfl : origin = .root := h.origin
  rfl

theorem IsPlace.isAbsolute {p : Path} (h : p.IsPlace) : p.isAbsolute = true := by
  rw [Path.isAbsolute, h.origin]
  rfl

/-- A place is its own normal form, wherever it is seen from. -/
theorem absolute_of_isPlace {cwd p : Path} (h : p.IsPlace) : absolute cwd p = p := by
  rw [absolute, join, if_pos h.isAbsolute, normalized_eq_self h.noDots]

theorem resolved_of_isPlace {cwd p : Path} (h : p.IsPlace) : resolved cwd p = p := by
  rw [resolved, absolute_of_isPlace h, ← h.origin]

theorem mem_normalized {p : Path} (ha : p.isAbsolute = true) :
    ".." ∉ p.normalized.parts ∧ ∀ n ∈ p.normalized.parts, n ∈ p.parts := by
  have h := @foldl_resolvePart_root p.parts [] List.not_mem_nil
  rw [normalized, ha]
  refine ⟨fun hmem => h.1 (List.mem_reverse.mp hmem), fun n hn => ?_⟩
  rcases h.2 n (List.mem_reverse.mp hn) with hn | hn
  · cases hn
  · exact hn

/-- What is taken from an absolute directory is absolute. -/
theorem isAbsolute_join {cwd p : Path} (hc : cwd.isAbsolute = true) :
    (cwd.join p).isAbsolute = true := by
  rw [join]
  split
  · assumption
  · exact hc

/-- Seen from an absolute directory, what a path denotes has no two dots. -/
theorem resolved_noDots {cwd p : Path} (hc : cwd.isAbsolute = true) :
    ".." ∉ (resolved cwd p).parts :=
  (mem_normalized (isAbsolute_join hc)).1

/-- What is taken from a written directory is written. -/
theorem IsWritten.join {directory p : Path} (hd : directory.IsWritten) (hp : p.IsWritten) :
    (directory.join p).IsWritten := by
  rw [Path.join]
  split
  · exact hp
  · intro n hn
    rcases List.mem_append.mp hn with hn | hn
    · exact hd n hn
    · exact hp n hn

/-- **What a path denotes is a place.** -/
theorem isPlace_resolved {cwd p : Path} (hc : cwd.isAbsolute = true) (hcw : cwd.IsWritten)
    (hp : p.IsWritten) : (resolved cwd p).IsPlace := by
  have hmem := (mem_normalized (@isAbsolute_join cwd p hc)).2
  exact ⟨rfl, resolved_noDots hc, fun n hn => hcw.join hp n (hmem n hn)⟩

/-! ## Inside a directory -/

theorem dropFront?_eq_some_iff {a b r : List String} : dropFront? a b = some r ↔ b = a ++ r := by
  induction a generalizing b with
  | nil =>
      rw [dropFront?, List.nil_append]
      exact ⟨fun h => by injection h, fun h => by rw [h]⟩
  | cons n t ih =>
      cases b with
      | nil => simp [dropFront?]
      | cons m u =>
          rw [dropFront?]
          by_cases hnm : n = m
          · subst hnm
            rw [if_pos rfl, ih, List.cons_append]
            exact ⟨fun h => by rw [h], fun h => (List.cons.inj h).2⟩
          · rw [if_neg hnm, List.cons_append]
            exact ⟨fun h => (by cases h), fun h => absurd (List.cons.inj h).1.symm hnm⟩

/-- The way from a directory down to a place inside it. -/
theorem inside?_eq_some_iff {directory p : Path} (hd : directory.IsPlace) (hp : p.IsPlace)
    {r : List String} : directory.inside? p = some r ↔ p.parts = directory.parts ++ r := by
  rw [inside?, if_pos (hd.origin.trans hp.origin.symm), dropFront?_eq_some_iff]

/-- What lies inside a directory is a place if no part of the way is two dots. -/
theorem IsPlace.join {directory : Path} (hd : directory.IsPlace) {parts : List String}
    (hdots : ".." ∉ parts) (hw : ∀ n ∈ parts, IsName n) :
    (directory.join ⟨.here, parts⟩).IsPlace where
  origin := hd.origin
  noDots := fun hmem => by
    rcases List.mem_append.mp hmem with hmem | hmem
    · exact hd.noDots hmem
    · exact hdots hmem
  written := fun n hn => by
    rcases List.mem_append.mp hn with hn | hn
    · exact hd.written n hn
    · exact hw n hn

end Path

end QueryTypings
