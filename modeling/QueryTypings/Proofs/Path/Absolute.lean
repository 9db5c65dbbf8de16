/-
  Normal forms of paths that are taken from a directory.

  1. **Steps** — a part that is not two dots is added, whatever stands before it.  At the beginning
     of a relative path two dots may stay, so a normal form holds two dots only if it begins with
     them (`noDots_of_head?_normalized`).

  2. **Twice** — what two dots take back in a relative path they also take back where the path is
     taken from a directory (`foldl_resolvePart_normal`).  So the directory, the path or both may
     be brought to their normal forms beforehand, and the absolute form is the same
     (`absolute_normalized`, `absolute_join`).

  3. **Going down** — the way from a directory to a path inside it is what the path has more
     (`relativeTo_of_join`).
-/
import QueryTypings.Proofs.Path.Normal
import Mathlib.Data.List.Induction

namespace QueryTypings.Path

/-! ## Steps -/

/-- A part that is not two dots is added. -/
theorem resolvePart_of_ne {absolute : Bool} {before : List String} {part : String}
    (h : part ≠ "..") : resolvePart absolute before part = part :: before := by
  unfold resolvePart
  exact if_pos h

/-- Two dots take back a part that is not two dots. -/
theorem resolvePart_dots_cons {absolute : Bool} {rest : List String} {last : String}
    (h : last ≠ "..") : resolvePart absolute (last :: rest) ".." = rest := by
  simp [resolvePart, h]

/-- Every part of a normal form was there before. -/
theorem mem_of_mem_resolvePart {absolute : Bool} {before : List String} {part n : String}
    (h : n ∈ resolvePart absolute before part) : n ∈ before ∨ n = part := by
  by_cases hpart : part = ".."
  · subst hpart
    cases before with
    | nil =>
        cases absolute with
        | true => cases h
        | false => exact Or.inr (List.mem_singleton.mp h)
    | cons last rest =>
        by_cases hlast : last = ".."
        · subst hlast
          exact Or.inl (by simpa [resolvePart] using h)
        · rw [resolvePart_dots_cons hlast] at h
          exact Or.inl (List.mem_cons_of_mem _ h)
  · rw [resolvePart_of_ne hpart] at h
    exact (List.mem_cons.mp h).symm

theorem mem_of_mem_foldl_resolvePart {absolute : Bool} {parts before : List String} {n : String}
    (h : n ∈ parts.foldl (resolvePart absolute) before) : n ∈ before ∨ n ∈ parts := by
  induction parts generalizing before with
  | nil => exact Or.inl h
  | cons p r ih =>
      rcases ih h with h | h
      · rcases mem_of_mem_resolvePart h with h | rfl
        · exact Or.inl h
        · exact Or.inr List.mem_cons_self
      · exact Or.inr (List.mem_cons_of_mem _ h)

/-- The normal form of a written path is written. -/
theorem IsWritten.normalized {p : Path} (h : p.IsWritten) : p.normalized.IsWritten := by
  intro n hn
  rcases mem_of_mem_foldl_resolvePart (List.mem_reverse.mp hn) with hn | hn
  · cases hn
  · exact h n hn

/-- A last part that is not two dots stays the last part. -/
theorem normalized_concat (p : Path) {name : String} (h : name ≠ "..") :
    (p.join ⟨.here, [name]⟩).normalized = p.normalized.join ⟨.here, [name]⟩ := by
  have hfold : ((p.parts ++ [name]).foldl (resolvePart p.isAbsolute) []).reverse
      = (p.parts.foldl (resolvePart p.isAbsolute) []).reverse ++ [name] := by
    rw [List.foldl_append, List.foldl_cons, List.foldl_nil, resolvePart_of_ne h, List.reverse_cons]
  exact congrArg (Path.mk p.origin) hfold

/-- Two dots are at the bottom if they are anywhere. -/
theorem getLast?_foldl_resolvePart {absolute : Bool} {parts before : List String}
    (hbefore : ".." ∈ before → before.getLast? = some "..")
    (h : ".." ∈ parts.foldl (resolvePart absolute) before) :
    (parts.foldl (resolvePart absolute) before).getLast? = some ".." := by
  induction parts generalizing before with
  | nil => exact hbefore h
  | cons p r ih =>
      refine ih (fun hmem => ?_) h
      -- the bottom changes only where nothing was
      by_cases hp : p = ".."
      · subst hp
        cases before with
        | nil =>
            cases absolute with
            | true => cases hmem
            | false => rfl
        | cons last rest =>
            by_cases hlast : last = ".."
            · subst hlast
              have hkept := hbefore List.mem_cons_self
              simpa [resolvePart] using hkept
            · rw [resolvePart_dots_cons hlast] at hmem ⊢
              have hkept := hbefore (List.mem_cons_of_mem _ hmem)
              rwa [List.getLast?_cons_of_ne_nil (List.ne_nil_of_mem hmem)] at hkept
      · rw [resolvePart_of_ne hp] at hmem ⊢
        have hmem := (List.mem_cons.mp hmem).resolve_left (Ne.symm hp)
        rw [List.getLast?_cons_of_ne_nil (List.ne_nil_of_mem hmem)]
        exact hbefore hmem

/-- A normal form that does not begin with two dots has none. -/
theorem noDots_of_head?_normalized {p : Path} (h : p.normalized.parts.head? ≠ some "..") :
    ".." ∉ p.normalized.parts := by
  intro hmem
  refine h ?_
  rw [normalized, List.head?_reverse]
  exact getLast?_foldl_resolvePart (fun h => (by cases h)) (List.mem_reverse.mp hmem)

/-! ## Twice -/

/-- **What two dots take back in a relative path they also take back elsewhere.**  The induction
    adds the last part; only two dots behind two dots stay in the relative path. -/
theorem foldl_resolvePart_normal (absolute : Bool) (before parts : List String) :
    (parts.foldl (resolvePart false) []).reverse.foldl (resolvePart absolute) before
      = parts.foldl (resolvePart absolute) before := by
  induction parts using List.reverseRecOn with
  | nil => rfl
  | append_singleton parts p ih =>
      rw [List.foldl_append, List.foldl_append, ← ih]
      generalize parts.foldl (resolvePart false) [] = normal
      -- to add a part behind is to take one step more
      have hadd : ∀ q, (q :: normal).reverse.foldl (resolvePart absolute) before
          = resolvePart absolute (normal.reverse.foldl (resolvePart absolute) before) q := by
        intro q
        rw [List.reverse_cons, List.foldl_append]
        rfl
      show (resolvePart false normal p).reverse.foldl (resolvePart absolute) before
        = resolvePart absolute (normal.reverse.foldl (resolvePart absolute) before) p
      by_cases hp : p = ".."
      · subst hp
        cases normal with
        | nil => rfl
        | cons last rest =>
            by_cases hlast : last = ".."
            · rw [← hadd]
              simp [resolvePart, hlast]
            · rw [resolvePart_dots_cons hlast, List.reverse_cons, List.foldl_append]
              show _ = resolvePart absolute (resolvePart absolute _ last) ".."
              rw [resolvePart_of_ne hlast, resolvePart_dots_cons hlast]
      · rw [resolvePart_of_ne hp, hadd]

/-- A normal form is its own normal form. -/
theorem normalized_normalized (p : Path) : p.normalized.normalized = p.normalized := by
  cases ha : p.isAbsolute with
  | true => exact normalized_eq_self (mem_normalized ha).1
  | false =>
      have hfold := foldl_resolvePart_normal false [] p.parts
      simp only [normalized, isAbsolute] at ha ⊢
      rw [ha, hfold]

/-- A directory may be brought to its normal form before a path is taken from it. -/
theorem normalized_join (d p : Path) :
    (d.normalized.join p).normalized = (d.join p).normalized := by
  cases hp : p.isAbsolute with
  | true => rw [join, join, if_pos hp, if_pos hp]
  | false =>
      have hparts : ∀ d : Path, (d.join p).normalized
          = ⟨d.origin, (p.parts.foldl (resolvePart d.isAbsolute)
              (d.parts.foldl (resolvePart d.isAbsolute) [])).reverse⟩ := by
        intro d
        rw [join, hp, ← List.foldl_append]
        rfl
      have hnormal := congrArg Path.parts (normalized_normalized d)
      rw [hparts, hparts]
      have hdots := List.reverse_injective hnormal
      show Path.mk d.origin (p.parts.foldl (resolvePart d.isAbsolute)
        (d.normalized.parts.foldl (resolvePart d.isAbsolute) [])).reverse = _
      exact congrArg (fun before =>
        Path.mk d.origin (p.parts.foldl (resolvePart d.isAbsolute) before).reverse) hdots

/-- So may a path. -/
theorem absolute_normalized (cwd p : Path) : absolute cwd p.normalized = absolute cwd p := by
  cases hp : p.isAbsolute with
  | true =>
      have hn : p.normalized.isAbsolute = true := hp
      rw [absolute, absolute, join, join, if_pos hn, if_pos hp, normalized_normalized]
  | false =>
      have hn : p.normalized.isAbsolute = false := hp
      have hfold : (cwd.parts ++ p.normalized.parts).foldl (resolvePart cwd.isAbsolute) []
          = (cwd.parts ++ p.parts).foldl (resolvePart cwd.isAbsolute) [] := by
        rw [List.foldl_append, List.foldl_append, normalized, hp, foldl_resolvePart_normal]
      rw [absolute, absolute, join, join, hn, hp]
      exact congrArg (fun parts => Path.mk cwd.origin parts.reverse) hfold

theorem join_assoc (cwd d p : Path) : (cwd.join d).join p = cwd.join (d.join p) := by
  cases hp : p.isAbsolute with
  | true => simp [join, hp]
  | false =>
      cases hd : d.isAbsolute with
      | true =>
          have hdp : ({ d with parts := d.parts ++ p.parts } : Path).isAbsolute = true := hd
          simp [join, hp, hd, hdp]
      | false =>
          have hdp : ({ d with parts := d.parts ++ p.parts } : Path).isAbsolute = false := hd
          simp [join, hp, hd, hdp]

/-- **What is taken from a directory may be taken from its absolute form.** -/
theorem absolute_join (cwd d p : Path) :
    absolute cwd (d.join p) = absolute (absolute cwd d) p := by
  rw [absolute, absolute, absolute, normalized_join, join_assoc]

/-- A last part that is not two dots is the last part of the absolute form. -/
theorem absolute_concat (cwd : Path) {front : List String} {name : String} (h : name ≠ "..") :
    absolute cwd ⟨.here, front ++ [name]⟩
      = (absolute cwd ⟨.here, front⟩).join ⟨.here, [name]⟩ := by
  rw [absolute, absolute, ← normalized_concat _ h, join_assoc]
  rfl

/-- Without two dots nothing is taken back. -/
theorem absolute_of_noDots {cwd : Path} {parts : List String} (hcwd : ".." ∉ cwd.parts)
    (h : ".." ∉ parts) : absolute cwd ⟨.here, parts⟩ = cwd.join ⟨.here, parts⟩ := by
  refine normalized_eq_self fun hmem => ?_
  rcases List.mem_append.mp hmem with hmem | hmem
  · exact hcwd hmem
  · exact h hmem

theorem noDots_absolute {cwd p : Path} (h : (absolute cwd p).isAbsolute = true) :
    ".." ∉ (absolute cwd p).parts :=
  (@mem_normalized (cwd.join p) h).1

/-! ## Going down -/

theorem dropCommon_append (a b : List String) : dropCommon a (a ++ b) = ([], b) := by
  induction a with
  | nil => cases b <;> rfl
  | cons n r ih =>
      show dropCommon (n :: r) (n :: (r ++ b)) = _
      rw [dropCommon, if_pos rfl, ih]

/-- One way after another. -/
theorem join_join (d : Path) (a b : List String) :
    (d.join ⟨.here, a⟩).join ⟨.here, b⟩ = d.join ⟨.here, a ++ b⟩ :=
  join_assoc d ⟨.here, a⟩ ⟨.here, b⟩

/-- Ways that lead from one directory to one path are the same. -/
theorem join_injective (d : Path) {a b : List String}
    (h : d.join ⟨.here, a⟩ = d.join ⟨.here, b⟩) : a = b :=
  List.append_cancel_left (congrArg Path.parts h)

/-- **The way down** from a directory to a path inside it. -/
theorem relativeTo_of_join {cwd p directory : Path} {way : List String}
    (h : absolute cwd p = (absolute cwd directory).join ⟨.here, way⟩) :
    relativeTo cwd p directory = ⟨.here, way⟩ := by
  have hparts : (absolute cwd p).parts = (absolute cwd directory).parts ++ way :=
    congrArg Path.parts h
  rw [relativeTo, hparts, dropCommon_append]
  rfl

end QueryTypings.Path
