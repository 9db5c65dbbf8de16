/-
  Paths that climb out of the directory where they begin.

  1. **Shape** — the normal form of a relative path climbs first and goes down then: some two dots,
     and behind them none (`parts_normalized`).

  2. **From a directory** — so what the path denotes is the directory without as many of its last
     names, and then the way down (`absolute_join_relative`).

  3. **Declarations** — seen from the root of all declarations, a query file and its declaration lie
     beside each other (`artifact_beside`).  So two query files have one declaration if and only if
     they lead to one place from there (`artifact_eq_iff`); from anywhere else they may lead to two.
-/
import QueryTypings.Proofs.Path.Inverse
import Mathlib.Data.List.DropRight

namespace QueryTypings.Path

/-! ## Shape -/

/-- How many directories a relative path climbs before it goes down. -/
def climb (p : Path) : Nat := (p.normalized.parts.takeWhile (· == "..")).length

/-- The way down behind the climb. -/
def descent (p : Path) : List String := p.normalized.parts.dropWhile (· == "..")

/-- The parts before some part, the last one first: those that go down, and below them two dots. -/
def Piled (before : List String) : Prop :=
  ∃ way k, before = way ++ List.replicate k ".." ∧ ".." ∉ way

theorem Piled.resolvePart {before : List String} (h : Piled before) (part : String) :
    Piled (resolvePart false before part) := by
  obtain ⟨way, k, rfl, hway⟩ := h
  by_cases hpart : part = ".."
  · subst hpart
    cases way with
    | nil =>
        -- another climb
        refine ⟨[], k + 1, ?_, List.not_mem_nil⟩
        cases k with
        | zero => rfl
        | succ k => simp [Path.resolvePart, List.replicate_succ]
    | cons last rest =>
        have hlast : last ≠ ".." := fun heq => hway (heq ▸ List.mem_cons_self)
        refine ⟨rest, k, ?_, fun hmem => hway (List.mem_cons_of_mem _ hmem)⟩
        rw [List.cons_append, resolvePart_dots_cons hlast]
  · refine ⟨part :: way, k, ?_, fun hmem => ?_⟩
    · rw [resolvePart_of_ne hpart, List.cons_append]
    · rcases List.mem_cons.mp hmem with heq | hmem
      · exact hpart heq.symm
      · exact hway hmem

theorem piled_foldl {before : List String} (h : Piled before) (parts : List String) :
    Piled (parts.foldl (Path.resolvePart false) before) := by
  induction parts generalizing before with
  | nil => exact h
  | cons p r ih => exact ih (h.resolvePart p)

/-- **The shape of a relative normal form.** -/
theorem parts_normalized {p : Path} (h : p.isAbsolute = false) :
    p.normalized.parts = List.replicate p.climb ".." ++ p.descent ∧ ".." ∉ p.descent := by
  have hpiled : Piled (p.parts.foldl (Path.resolvePart false) []) :=
    piled_foldl ⟨[], 0, rfl, List.not_mem_nil⟩ p.parts
  obtain ⟨way, k, hfold, hway⟩ := hpiled
  have hnormal : p.normalized.parts = List.replicate k ".." ++ way.reverse := by
    rw [normalized, h, hfold, List.reverse_append, List.reverse_replicate]
  have hall : ∀ n ∈ List.replicate k "..", (n == "..") = true := fun n hn => by
    rw [(List.mem_replicate.mp hn).2]
    rfl
  have hdrop : way.reverse.dropWhile (· == "..") = way.reverse := by
    rw [List.dropWhile_eq_self_iff]
    intro hlen hhead
    exact hway (List.mem_reverse.mp (eq_of_beq hhead ▸ List.getElem_mem hlen))
  have htake : way.reverse.takeWhile (· == "..") = [] := by
    have hsplit := List.takeWhile_append_dropWhile (p := (· == "..")) (l := way.reverse)
    rw [hdrop] at hsplit
    exact List.append_cancel_right (hsplit.trans (List.nil_append _).symm)
  have hclimb : p.climb = k := by
    rw [climb, hnormal, List.takeWhile_append_of_pos hall, htake, List.append_nil,
      List.length_replicate]
  have hdescent : p.descent = way.reverse := by
    rw [descent, hnormal, List.dropWhile_append_of_pos hall, hdrop]
  rw [hclimb, hdescent]
  exact ⟨hnormal, fun hmem => hway (List.mem_reverse.mp hmem)⟩

/-- A path without two dots does not climb. -/
theorem climb_of_noDots {p : Path} (h : ".." ∉ p.parts) : p.climb = 0 ∧ p.descent = p.parts := by
  have hnone : ∀ n ∈ p.parts, (n == "..") = false := fun n hn =>
    beq_false_of_ne fun heq => h (heq ▸ hn)
  rw [climb, descent, normalized_eq_self h]
  cases hp : p.parts with
  | nil => exact ⟨rfl, rfl⟩
  | cons n r =>
      have hn := hnone n (hp ▸ List.mem_cons_self)
      rw [List.takeWhile_cons_of_neg (by simp [hn]), List.dropWhile_cons_of_neg (by simp [hn])]
      exact ⟨rfl, rfl⟩

/-! ## From a directory -/

/-- At a root some two dots take back as many parts, or all there are. -/
theorem foldl_resolvePart_replicate {before : List String} (h : ".." ∉ before) (k : Nat) :
    (List.replicate k "..").foldl (Path.resolvePart true) before = before.drop k := by
  induction k generalizing before with
  | zero => rfl
  | succ k ih =>
      rw [List.replicate_succ, List.foldl_cons]
      cases before with
      | nil =>
          have hnil : Path.resolvePart true [] ".." = [] := rfl
          rw [hnil, ih List.not_mem_nil, List.drop_nil, List.drop_nil]
      | cons last rest =>
          have hlast : last ≠ ".." := fun heq => h (heq ▸ List.mem_cons_self)
          rw [resolvePart_dots_cons hlast, ih fun hmem => h (List.mem_cons_of_mem _ hmem),
            List.drop_succ_cons]

/-- **What a relative path denotes**, seen from a place: so many names less, and then the way
    down. -/
theorem absolute_join_relative {cwd directory p : Path} (hd : directory.IsPlace)
    (hp : p.isAbsolute = false) :
    absolute cwd (directory.join p) = ⟨.root, directory.parts.rdrop p.climb ++ p.descent⟩ := by
  obtain ⟨hparts, hdots⟩ := parts_normalized hp
  have hfold : (directory.parts ++ p.normalized.parts).foldl (Path.resolvePart true) []
      = p.descent.reverse ++ directory.parts.reverse.drop p.climb := by
    rw [List.foldl_append, foldl_resolvePart hd.noDots, List.append_nil, hparts, List.foldl_append,
      foldl_resolvePart_replicate fun hmem => hd.noDots (List.mem_reverse.mp hmem),
      foldl_resolvePart hdots]
  have hnormal : p.normalized.isAbsolute = false := hp
  rw [absolute_join, absolute_of_isPlace hd, ← absolute_normalized, absolute, join, hnormal,
    normalized, List.rdrop_eq_reverse_drop_reverse]
  show Path.mk directory.origin
    ((directory.parts ++ p.normalized.parts).foldl (Path.resolvePart directory.isAbsolute) []).reverse
      = _
  rw [hd.isAbsolute, hfold, hd.origin, List.reverse_append, List.reverse_reverse]

/-! ## Declarations -/

variable {cwd root a a' : Path} {source source' : String}

/-- **A query file and its declaration**, both taken from the root of all declarations, lie in one
    directory. -/
theorem artifact_beside (hr : root.IsPlace) (h : artifact cwd source root.text = .ok a) :
    ∃ way, a = root.join ⟨.here, way ++
        [artifactName (ofText source).stem (ofText source).extension]⟩
      ∧ absolute cwd (root.join (ofText source))
        = root.join ⟨.here, way ++ [(ofText source).name]⟩ := by
  obtain ⟨hextension, hrelative, _, _⟩ := artifact_eq_ok_iff.mp h
  obtain ⟨way, hfront, ha⟩ := absolute_artifact h
  rw [ofText_text hr.written, absolute_of_isPlace hr] at hfront ha
  rw [absolute_of_isPlace (isPlace_artifact hr h)] at ha
  refine ⟨way, ha, ?_⟩
  rw [absolute_join, absolute_of_isPlace hr]
  conv_lhs => rw [eq_of_extension hrelative hextension]
  rw [absolute_concat _ (name_ne_dots hextension), hfront, join_join]

/-- **Two query files have one declaration** if and only if they lead to one place from the root of
    all declarations. -/
theorem artifact_eq_iff (hr : root.IsPlace) (h : artifact cwd source root.text = .ok a)
    (h' : artifact cwd source' root.text = .ok a') :
    a = a' ↔ absolute cwd (root.join (ofText source)) = absolute cwd (root.join (ofText source')) := by
  obtain ⟨way, rfl, hplace⟩ := artifact_beside hr h
  obtain ⟨way', rfl, hplace'⟩ := artifact_beside hr h'
  have hextension := (artifact_eq_ok_iff.mp h).1
  have hextension' := (artifact_eq_ok_iff.mp h').1
  rw [hplace, hplace']
  constructor
  · intro heq
    have hways := join_injective root heq
    obtain ⟨hway, hlast⟩ := List.append_inj' hways (by simp only [List.length_singleton])
    have hname : (ofText source).name = (ofText source').name :=
      artifactName_injective hextension hextension' (List.cons.inj hlast).1
    rw [hway, hname]
  · intro heq
    have hways := join_injective root heq
    obtain ⟨hway, hlast⟩ := List.append_inj' hways (by simp only [List.length_singleton])
    rw [hway, stem, stem, extension, extension, (List.cons.inj hlast).1]

end QueryTypings.Path
