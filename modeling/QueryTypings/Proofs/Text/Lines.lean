/-
  What comes of a text that was cut, at a separator or at any line break.

  1. **Cutting a text of two parts** — a separator between the parts keeps their pieces apart
     (`splitAt_append`).  Without one, the last piece of the front and the first of the back grow
     together (`splitAt_append_of_not_mem`, `splitAt_append_last`).

  2. **Joining** — pieces without the separator are found again (`splitAt_intercal`), and each
     stands between separators (`exists_of_mem_intercal`).

  3. **Cutting at line breaks** — a character that is no line break belongs to the first line, and
     the later lines are as they were (`lines_of_not_break`, `tail_lines_of_not_break`); a carriage
     return and a line feed are one break (`lines_of_break`).

  4. **Lines** — a line is a part of the text and holds no line break (`infix_of_mem_lines`,
     `unbroken_of_mem_lines`).

  5. **Putting together** — pieces without line breaks, each in a line of its own, are the lines of
     the text that they make (`lines_append_break`, `lines_intercal`).
-/
import QueryTypings.Text.Lines
import Mathlib.Data.List.Basic
import Mathlib.Data.List.Infix
import Mathlib.Data.List.TakeWhile

namespace QueryTypings.Text

/-! ## Cutting a text of two parts -/

theorem splitAt_append (sep : Char) (a b : List Char) :
    splitAt sep (a ++ sep :: b) = splitAt sep a ++ splitAt sep b := by
  induction a with
  | nil => simp [splitAt]
  | cons c r ih =>
      rw [List.cons_append, splitAt, splitAt, ih]
      split
      · rfl
      · cases hr : splitAt sep r with
        | nil => exact absurd hr (splitAt_ne_nil sep r)
        | cons l ls => rfl

/-- A piece without the separator goes before the first piece. -/
theorem splitAt_append_of_not_mem {sep : Char} {a : List Char} (ha : sep ∉ a) (b : List Char) :
    splitAt sep (a ++ b) = (a ++ (splitAt sep b).headD []) :: (splitAt sep b).tail := by
  induction a with
  | nil =>
      cases hb : splitAt sep b with
      | nil => exact absurd hb (splitAt_ne_nil sep b)
      | cons l ls => simp [hb]
  | cons c r ih =>
      obtain ⟨hc, hr⟩ := List.ne_and_not_mem_of_not_mem_cons ha
      rw [List.cons_append, splitAt, if_neg (Ne.symm hc), ih hr]
      rfl

/-- A piece without the separator goes behind the last piece. -/
theorem splitAt_append_last {sep : Char} {b : List Char} (hb : sep ∉ b) (a : List Char) :
    splitAt sep (a ++ b)
      = (splitAt sep a).dropLast ++ [(splitAt sep a).getLast (splitAt_ne_nil sep a) ++ b] := by
  -- what is behind reaches the last piece only
  induction a with
  | nil => simpa [splitAt] using splitAt_append_of_not_mem hb []
  | cons c r ih =>
      have hne := splitAt_ne_nil sep r
      by_cases hc : c = sep
      · simp [splitAt, hc, ih, List.dropLast_cons_of_ne_nil hne, List.getLast_cons hne]
      · cases hr : splitAt sep r with
        | nil => exact absurd hr hne
        | cons l ls =>
            simp only [hr] at ih
            cases ls with
            | nil => simp [splitAt, hc, ih, hr, consFirst]
            | cons m ms => simp [splitAt, hc, ih, hr, consFirst]

theorem splitAt_of_not_mem {sep : Char} {a : List Char} (ha : sep ∉ a) : splitAt sep a = [a] := by
  simpa [splitAt] using splitAt_append_of_not_mem ha []

theorem splitAt_append_cons {sep : Char} {cs : List Char} (h : sep ∉ cs) (r : List Char) :
    splitAt sep (cs ++ sep :: r) = cs :: splitAt sep r := by
  rw [splitAt_append, splitAt_of_not_mem h, List.singleton_append]

/-! ## Joining -/

/-- Joining loses nothing, if no piece holds the separator. -/
theorem splitAt_intercal {sep : Char} {pieces : List (List Char)} (hne : pieces ≠ [])
    (h : ∀ p ∈ pieces, sep ∉ p) : splitAt sep (intercal [sep] pieces) = pieces := by
  induction pieces with
  | nil => exact absurd rfl hne
  | cons a r ih =>
      cases r with
      | nil => exact splitAt_of_not_mem (h a List.mem_cons_self)
      | cons b t =>
          have hrest := ih (List.cons_ne_nil b t) fun p hp => h p (List.mem_cons_of_mem _ hp)
          rw [intercal, List.append_assoc, List.singleton_append,
            splitAt_append_cons (h a List.mem_cons_self), hrest]

theorem not_mem_of_mem_splitAt {sep : Char} {cs : List Char} :
    ∀ p ∈ splitAt sep cs, sep ∉ p := by
  induction cs with
  | nil => simp [splitAt]
  | cons c r ih =>
      rw [splitAt]
      split
      · intro p hp
        rcases List.mem_cons.mp hp with rfl | hp
        · exact List.not_mem_nil
        · exact ih p hp
      · rename_i hc
        cases hs : splitAt sep r with
        | nil => exact absurd hs (splitAt_ne_nil sep r)
        | cons l ls =>
            rw [hs] at ih
            intro p hp
            rcases List.mem_cons.mp hp with rfl | hp
            · intro hmem
              rcases List.mem_cons.mp hmem with rfl | hmem
              · exact hc rfl
              · exact ih l List.mem_cons_self hmem
            · exact ih p (List.mem_cons_of_mem _ hp)

/-- What is in a piece is in the text. -/
theorem mem_of_mem_splitAt {sep c : Char} {piece cs : List Char} (h : piece ∈ splitAt sep cs)
    (hc : c ∈ piece) : c ∈ cs := by
  induction cs generalizing piece with
  | nil =>
      rw [splitAt, List.mem_singleton] at h
      rwa [h] at hc
  | cons d r ih =>
      rw [splitAt] at h
      split at h
      · rcases List.mem_cons.mp h with rfl | h
        · cases hc
        · exact List.mem_cons_of_mem d (ih h hc)
      · cases hs : splitAt sep r with
        | nil => exact absurd hs (splitAt_ne_nil sep r)
        | cons l ls =>
            rw [hs] at h ih
            rcases List.mem_cons.mp h with rfl | h
            · rcases List.mem_cons.mp hc with rfl | hc
              · exact List.mem_cons_self
              · exact List.mem_cons_of_mem d (ih List.mem_cons_self hc)
            · exact List.mem_cons_of_mem d (ih (List.mem_cons_of_mem l h) hc)

/-- What is in no piece and not in the separator is nowhere. -/
theorem not_mem_intercal {c : Char} {sep : List Char} {pieces : List (List Char)} (hsep : c ∉ sep)
    (h : ∀ p ∈ pieces, c ∉ p) : c ∉ intercal sep pieces := by
  induction pieces with
  | nil => exact List.not_mem_nil
  | cons p r ih =>
      obtain ⟨hp, hr⟩ := List.forall_mem_cons.mp h
      cases r with
      | nil => exact hp
      | cons q t =>
          rw [intercal, List.mem_append, List.mem_append, not_or, not_or]
          exact ⟨⟨hp, hsep⟩, ih hr⟩

/-- A piece stands between two separators, or at an end of the text. -/
theorem exists_of_mem_intercal {sep : Char} {piece : List Char} {pieces : List (List Char)}
    (h : piece ∈ pieces) :
    ∃ front back, intercal [sep] pieces = front ++ piece ++ back
      ∧ (front = [] ∨ front.getLast? = some sep) ∧ (back = [] ∨ back.head? = some sep) := by
  induction pieces with
  | nil => cases h
  | cons p r ih =>
      by_cases hr : r = []
      · subst hr
        rw [List.mem_singleton.mp h]
        exact ⟨[], [], (List.append_nil p).symm, Or.inl rfl, Or.inl rfl⟩
      · have hcut : intercal [sep] (p :: r) = p ++ [sep] ++ intercal [sep] r := by
          cases r with
          | nil => exact absurd rfl hr
          | cons q t => rfl
        rcases List.mem_cons.mp h with rfl | h
        · exact ⟨[], [sep] ++ intercal [sep] r, by rw [hcut]; simp, Or.inl rfl, Or.inr rfl⟩
        · obtain ⟨front, back, heq, hfront, hback⟩ := ih h
          refine ⟨p ++ [sep] ++ front, back, by rw [hcut, heq]; simp, Or.inr ?_, hback⟩
          rcases hfront with rfl | hfront
          · rw [List.append_nil, List.getLast?_concat]
          · rw [List.getLast?_append, hfront]
            rfl

variable {c : Char} {a b cs l r : List Char}

/-! ## Cutting at line breaks -/

theorem lines_of_not_break (hc : isLineBreak c = false) :
    lines (c :: r) = consFirst c (lines r) := by
  rw [lines, hc]
  · rfl
  · rintro t rfl rfl
    exact absurd hc (by decide)

theorem tail_lines_of_not_break (hc : isLineBreak c = false) :
    (lines (c :: r)).tail = (lines r).tail := by
  rw [lines_of_not_break hc]
  cases lines r <;> rfl

/-- A carriage return and a line feed are one break. -/
theorem lines_of_break (hc : isLineBreak c = true) :
    lines (c :: r) = [] :: lines r ∨ ∃ t, c = '\r' ∧ r = '\n' :: t ∧ lines (c :: r) = lines r := by
  by_cases hpair : ∃ t, c = '\r' ∧ r = '\n' :: t
  · obtain ⟨t, rfl, rfl⟩ := hpair
    exact Or.inr ⟨t, rfl, rfl, rfl⟩
  · left
    rw [lines, hc]
    · rfl
    · intro t hcr hr
      exact hpair ⟨t, hcr, hr⟩

/-- The first line is what stands before the first line break. -/
theorem lines_eq_takeWhile (h : cs ≠ []) :
    lines cs = (cs.takeWhile fun c => !isLineBreak c) :: (lines cs).tail := by
  induction cs with
  | nil => exact absurd rfl h
  | cons c r ih =>
      by_cases hc : isLineBreak c = true
      · rw [List.takeWhile_cons_of_neg (by simp [hc])]
        rcases lines_of_break (r := r) hc with heq | ⟨t, rfl, rfl, -⟩
        · rw [heq]
          rfl
        · rfl
      · have hc' : isLineBreak c = false := Bool.eq_false_iff.mpr hc
        rw [List.takeWhile_cons_of_pos (by simp [hc']), lines_of_not_break hc']
        cases r with
        | nil => rfl
        | cons d t =>
            rw [ih (List.cons_ne_nil d t)]
            rfl

/-! ## Lines -/

/-- No character of the text breaks a line. -/
def Unbroken (cs : List Char) : Prop := ∀ c ∈ cs, isLineBreak c = false

instance (cs : List Char) : Decidable (Unbroken cs) :=
  decidable_of_iff (cs.all fun c => !isLineBreak c) (by simp [Unbroken])

theorem Unbroken.append (ha : Unbroken a) (hb : Unbroken b) : Unbroken (a ++ b) :=
  List.forall_mem_append.mpr ⟨ha, hb⟩

/-- A line of a text is the first one, or one of what stands behind the first character. -/
theorem mem_lines_cons (h : l ∈ lines (c :: r)) :
    l = (c :: r).takeWhile (fun c => !isLineBreak c) ∨ l ∈ lines r := by
  rw [lines_eq_takeWhile (List.cons_ne_nil c r)] at h
  rcases List.mem_cons.mp h with hfirst | hlater
  · exact Or.inl hfirst
  · right
    by_cases hc : isLineBreak c = true
    · rcases lines_of_break (r := r) hc with heq | ⟨t, -, -, heq⟩
      · rwa [heq] at hlater
      · rw [heq] at hlater
        exact List.mem_of_mem_tail hlater
    · rw [tail_lines_of_not_break (Bool.eq_false_iff.mpr hc)] at hlater
      exact List.mem_of_mem_tail hlater

/-- **A line is a part of the text.** -/
theorem infix_of_mem_lines (h : l ∈ lines cs) : l <:+: cs := by
  induction cs with
  | nil => cases h
  | cons c r ih =>
      rcases mem_lines_cons h with rfl | h
      · exact (List.takeWhile_prefix _).isInfix
      · exact List.infix_cons (ih h)

/-- **A line holds no line break.** -/
theorem unbroken_of_mem_lines (h : l ∈ lines cs) : Unbroken l := by
  induction cs with
  | nil => cases h
  | cons c r ih =>
      rcases mem_lines_cons h with rfl | h
      · intro d hd
        simpa using List.mem_takeWhile_imp hd
      · exact ih h

/-! ## Putting together -/

/-- What stands in front of the first break is the first line. -/
theorem lines_append_break (ha : Unbroken a) (r : List Char) :
    lines (a ++ '\n' :: r) = a :: lines r := by
  induction a with
  | nil => rfl
  | cons c t ih =>
      obtain ⟨hc, ht⟩ := List.forall_mem_cons.mp ha
      rw [List.cons_append, lines_of_not_break hc, ih ht]
      rfl

/-- What is put in front of the first line changes no later line. -/
theorem tail_lines_append (ha : Unbroken a) (r : List Char) :
    (lines (a ++ r)).tail = (lines r).tail := by
  induction a with
  | nil => rfl
  | cons c t ih =>
      obtain ⟨hc, ht⟩ := List.forall_mem_cons.mp ha
      rw [List.cons_append, tail_lines_of_not_break hc, ih ht]

/-- **Pieces in lines of their own** are lines. -/
theorem lines_intercal {pieces : List (List Char)} (hne : pieces ≠ [])
    (h : ∀ p ∈ pieces, Unbroken p) (r : List Char) :
    lines (intercal ['\n'] pieces ++ '\n' :: r) = pieces ++ lines r := by
  induction pieces with
  | nil => exact absurd rfl hne
  | cons p ps ih =>
      obtain ⟨hp, hps⟩ := List.forall_mem_cons.mp h
      cases ps with
      | nil => exact lines_append_break hp r
      | cons q t =>
          have hstep : intercal ['\n'] (p :: q :: t) ++ '\n' :: r
              = p ++ '\n' :: (intercal ['\n'] (q :: t) ++ '\n' :: r) := by
            rw [intercal, List.append_assoc, List.append_assoc]
            rfl
          rw [hstep, lines_append_break hp, ih (List.cons_ne_nil q t) hps]
          rfl

end QueryTypings.Text
