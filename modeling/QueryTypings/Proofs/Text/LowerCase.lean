/-
  Lower-casing comes to rest at once, and makes no blanks.

  1. **Runs** — where the table moves a code point, no run begins again, and neither is there a blank,
     a capital or a surrogate.  A run is compared with another one as a whole: either it leads past
     it, or both go in steps of two and miss each other (`isClear`, `isApart_of_mem`).

  2. **Characters** — so the lower-case form of a character stays as it is (`isSettled_lowerChar`).

  3. **Texts** — every character of a text in lower case does (`isSettled_of_mem_lower`), so
     lower-casing a text again changes nothing (`lower_lower`).

  4. **Ends** — and a text that neither begins nor ends with a blank still does not
     (`IsTrimmed.lower`).
-/
import QueryTypings.Proofs.Text.Utf8
import QueryTypings.Text.Blank
import QueryTypings.Text.LowerCase
import Mathlib.Data.List.Basic

namespace QueryTypings.Text

/-! ## Runs -/

/-- A run of the table holds a code point. -/
def Covers (r : Nat × Nat × Nat × Int) (n : Nat) : Prop :=
  r.1 ≤ n ∧ n ≤ r.2.1 ∧ (n - r.1) % r.2.2.1 = 0

instance (r : Nat × Nat × Nat × Int) (n : Nat) : Decidable (Covers r n) :=
  inferInstanceAs (Decidable (_ ∧ _))

/-- The code point to which a run moves another one. -/
def movedBy (r : Nat × Nat × Nat × Int) (n : Nat) : Nat := ((n : Int) + r.2.2.2).toNat

/-- Code points that are in no run and to which no run leads: what is left of the first characters
    when the small letters are taken out, the dotted capital I, blanks and surrogates. -/
def setApart : List (Nat × Nat × Nat × Int) := [
  (0, 0x60, 1, 0), (0x7b, 0xde, 1, 0), (0x130, 0x130, 1, 0), (0x1680, 0x1680, 1, 0),
  (0x2000, 0x206f, 1, 0), (0x3000, 0x3000, 1, 0), (0xd800, 0xdfff, 1, 0)]

/-- What a run leads to, from `first` to `last` in steps, is not in the run `s`. -/
def isClear (first last step : Nat) (s : Nat × Nat × Nat × Int) : Bool :=
  Nat.blt last s.1 || Nat.blt s.2.1 first
    || (s.2.2.1 == 2 && (step == 2 || first == last) && (first + s.1) % 2 == 1)

/-- What a run leads to is in no run, is not set apart and is no greater than a code point can be. -/
def isApart (r : Nat × Nat × Nat × Int) : Bool :=
  (lowerRuns ++ setApart).all (isClear (movedBy r r.1) (movedBy r r.2.1) r.2.2.1)
    && Nat.blt (movedBy r r.2.1) 0x110000

set_option maxRecDepth 4000 in
theorem isApart_of_mem : ∀ r ∈ lowerRuns, isApart r = true :=
  List.all_eq_true.mp (by decide +kernel : lowerRuns.all isApart = true)

/-- **Where a run leads**, no run begins again. -/
theorem movedBy_apart {r : Nat × Nat × Nat × Int} (hr : r ∈ lowerRuns) {n : Nat}
    (hn : Covers r n) :
    (∀ s ∈ lowerRuns ++ setApart, ¬ Covers s (movedBy r n)) ∧ movedBy r n < 0x110000 := by
  have hapart := isApart_of_mem r hr
  rw [isApart, Bool.and_eq_true, List.all_eq_true] at hapart
  obtain ⟨hclear, hlast⟩ := hapart
  obtain ⟨hfirst, hend, hstep⟩ := hn
  -- the run leads past the first characters, so no code point is moved below zero
  have hlow := hclear (0, 0x60, 1, 0) (by simp [setApart])
  simp only [isClear, Nat.blt_eq, movedBy, Bool.or_eq_true, Bool.and_eq_true, beq_iff_eq] at hlow
  rw [Nat.blt_eq, movedBy] at hlast
  refine ⟨fun s hs hcovers => ?_, by rw [movedBy]; omega⟩
  have hfree := hclear s hs
  simp only [isClear, Nat.blt_eq, movedBy, Bool.or_eq_true, Bool.and_eq_true,
    beq_iff_eq] at hfree
  obtain ⟨hbegin, hstop, hmultiple⟩ := hcovers
  rw [movedBy] at hbegin hstop hmultiple
  rcases hfree with (hbefore | hbehind) | ⟨⟨htwo, hone⟩, hodd⟩
  · omega
  · omega
  · rw [htwo] at hmultiple
    rcases hone with hboth | hsingle
    · rw [hboth] at hstep
      omega
    · omega

/-! ## Characters -/

/-- Lower-casing leaves the character as it is, wherever it stands. -/
def IsSettled (c : Char) : Prop := c ≠ '\u03a3' ∧ c ≠ '\u0130' ∧ lowerChar c = c

instance (c : Char) : Decidable (IsSettled c) := inferInstanceAs (Decidable (_ ∧ _))

/-- The condition under which the table moves a code point. -/
theorem covers_iff {r : Nat × Nat × Nat × Int} {n : Nat} :
    (Nat.ble r.1 n && Nat.ble n r.2.1 && (n - r.1) % r.2.2.1 == 0) = true ↔ Covers r n := by
  rw [Bool.and_eq_true, Bool.and_eq_true, Nat.ble_eq, Nat.ble_eq, beq_iff_eq, Covers, and_assoc]

/-- A character that is no capital and in no run is in lower case. -/
theorem lowerChar_of_not_covers {c : Char} (hcapital : ¬ (65 ≤ c.toNat ∧ c.toNat ≤ 90))
    (hruns : 128 ≤ c.toNat → ∀ r ∈ lowerRuns, ¬ Covers r c.toNat) : lowerChar c = c := by
  rw [lowerChar]
  split
  · refine if_neg fun h => hcapital ?_
    rw [Bool.and_eq_true, decide_eq_true_iff, decide_eq_true_iff, Char.le_def, Char.le_def,
      UInt32.le_iff_toNat_le, UInt32.le_iff_toNat_le] at h
    exact h
  · rename_i hlarge
    have hnone : lowerRuns.find? (fun r => Nat.ble r.1 c.toNat && Nat.ble c.toNat r.2.1
        && (c.toNat - r.1) % r.2.2.1 == 0) = none :=
      List.find?_eq_none.mpr fun r hr h => hruns (by omega) r hr (covers_iff.mp h)
    rw [hnone]

/-- What lower-casing does to a character: nothing, the move of a capital among the first 128, or
    the move of a run. -/
theorem lowerChar_cases (c : Char) : lowerChar c = c
    ∨ (∃ k : Fin 26, c = Char.ofNat (65 + k))
    ∨ ∃ r ∈ lowerRuns, Covers r c.toNat ∧ (lowerChar c).toNat = movedBy r c.toNat := by
  by_cases hcapital : 65 ≤ c.toNat ∧ c.toNat ≤ 90
  · refine Or.inr (Or.inl ⟨⟨c.toNat - 65, by omega⟩, ?_⟩)
    have hsum : 65 + (c.toNat - 65) = c.toNat := by omega
    rw [hsum, Char.ofNat_toNat]
  · by_cases hruns : 128 ≤ c.toNat ∧ ∃ r ∈ lowerRuns, Covers r c.toNat
    · obtain ⟨hlarge, r₀, hr₀, hcovers₀⟩ := hruns
      rw [lowerChar, if_neg (by omega)]
      split
      · rename_i r hfind
        have hcovers : Covers r c.toNat := covers_iff.mp (by simpa using List.find?_some hfind)
        have hr := List.mem_of_find?_eq_some hfind
        obtain ⟨hfree, hsmall⟩ := movedBy_apart hr hcovers
        have hsurrogate := hfree (0xd800, 0xdfff, 1, 0) (by simp [setApart])
        refine Or.inr (Or.inr ⟨r, hr, hcovers, toNat_ofNat ?_⟩)
        simp only [Covers, Nat.mod_one, and_true] at hsurrogate
        show Nat.isValidChar (movedBy r c.toNat)
        rw [Nat.isValidChar]
        omega
      · rename_i hnone
        exact absurd (covers_iff.mpr hcovers₀) (List.find?_eq_none.mp hnone r₀ hr₀)
    · exact Or.inl (lowerChar_of_not_covers hcapital fun hlarge r hr hcovers =>
        hruns ⟨hlarge, r, hr, hcovers⟩)

/-- A code point that is not set apart is beyond the first characters or a small letter. -/
theorem small_of_not_setApart {n : Nat} (h : ∀ s ∈ lowerRuns ++ setApart, ¬ Covers s n) :
    (97 ≤ n ∧ n ≤ 122) ∨ 0xde < n := by
  have hfirst := h (0, 0x60, 1, 0) (by simp [setApart])
  have hsecond := h (0x7b, 0xde, 1, 0) (by simp [setApart])
  simp only [Covers, Nat.mod_one, and_true] at hfirst hsecond
  omega

/-- **The lower-case form of a character stays as it is.** -/
theorem isSettled_lowerChar {c : Char} (hsigma : c ≠ '\u03a3') (hdotted : c ≠ '\u0130') :
    IsSettled (lowerChar c) := by
  rcases lowerChar_cases c with hsame | ⟨k, rfl⟩ | ⟨r, hr, hcovers, hmoved⟩
  · rw [hsame]
    exact ⟨hsigma, hdotted, hsame⟩
  · revert k
    decide
  · obtain ⟨hfree, -⟩ := movedBy_apart hr hcovers
    rw [← hmoved] at hfree
    have hsmall := small_of_not_setApart hfree
    refine ⟨fun h => hfree (0x3a3, 0x3ab, 1, 32) (by decide +kernel) ?_,
      fun h => hfree (0x130, 0x130, 1, 0) (by simp [setApart]) ?_,
      lowerChar_of_not_covers (by omega) fun _ s hs => hfree s (List.mem_append_left _ hs)⟩
    · rw [h]
      decide
    · rw [h]
      decide

/-- A character that is not blank has no blank for its lower-case form. -/
theorem isBlank_lowerChar {c : Char} (h : isBlank c = false) : isBlank (lowerChar c) = false := by
  rcases lowerChar_cases c with hsame | ⟨k, rfl⟩ | ⟨r, hr, hcovers, hmoved⟩
  · rw [hsame, h]
  · revert k
    decide
  · obtain ⟨hfree, -⟩ := movedBy_apart hr hcovers
    rw [← hmoved] at hfree
    have hsmall := small_of_not_setApart hfree
    have hogham := hfree (0x1680, 0x1680, 1, 0) (by simp [setApart])
    have hgeneral := hfree (0x2000, 0x206f, 1, 0) (by simp [setApart])
    have hwide := hfree (0x3000, 0x3000, 1, 0) (by simp [setApart])
    simp only [Covers, Nat.mod_one, and_true] at hogham hgeneral hwide
    simp only [isBlank, Bool.or_eq_false_iff, Bool.and_eq_false_iff, decide_eq_false_iff_not,
      beq_eq_false_iff_ne]
    omega

theorem isSettled_dot : IsSettled '.' := by decide +kernel

/-- Only a dot has a dot for its lower-case form. -/
theorem eq_dot_of_lowerChar {c : Char} (h : lowerChar c = '.') : c = '.' := by
  rcases lowerChar_cases c with hsame | ⟨k, rfl⟩ | ⟨r, hr, hcovers, hmoved⟩
  · rw [← hsame, h]
  · revert k
    decide
  · obtain ⟨hfree, -⟩ := movedBy_apart hr hcovers
    rw [← hmoved, h] at hfree
    exact absurd (by decide) (hfree (0, 0x60, 1, 0) (by simp [setApart]))

/-! ## Texts -/

/-- The lower-case form of a character between others, those before it in reverse. -/
def lowered (before : List Char) (c : Char) (rest : List Char) : List Char :=
  if c = '\u03a3' then [if casedFirst before && !casedFirst rest then '\u03c2' else '\u03c3']
  else if c = '\u0130' then ['i', '\u0307']
  else [lowerChar c]

theorem lowerFrom_cons (before : List Char) (c : Char) (rest : List Char) :
    lowerFrom before (c :: rest) = lowered before c rest ++ lowerFrom (c :: before) rest := rfl

section Texts

variable {before cs rest : List Char} {c d : Char}

theorem lowered_ne_nil : lowered before c rest ≠ [] := by
  unfold lowered
  split
  · exact List.cons_ne_nil _ _
  · split <;> exact List.cons_ne_nil _ _

/-- What is true of the lower-case form of each character, and of the few that stand for the two
    exceptions, is true of all that lower-casing makes of one. -/
theorem forall_mem_lowered {P : Char → Prop} (hsigma : P '\u03c2' ∧ P '\u03c3')
    (hdotted : P 'i' ∧ P '\u0307')
    (hother : c ≠ '\u03a3' → c ≠ '\u0130' → P (lowerChar c)) : ∀ d ∈ lowered before c rest, P d := by
  unfold lowered
  split
  · split <;> simp [hsigma]
  · rename_i hs
    split
    · simp [hdotted]
    · rename_i hd
      simpa using hother hs hd

theorem isSettled_of_mem_lowerFrom (h : d ∈ lowerFrom before cs) : IsSettled d := by
  induction cs generalizing before with
  | nil => cases h
  | cons c r ih =>
      rw [lowerFrom_cons, List.mem_append] at h
      rcases h with h | h
      · exact forall_mem_lowered (P := IsSettled) (by decide +kernel) (by decide +kernel)
          isSettled_lowerChar d h
      · exact ih h

/-- Settled characters stay as they are. -/
theorem lowerFrom_of_isSettled (h : ∀ c ∈ cs, IsSettled c) : lowerFrom before cs = cs := by
  induction cs generalizing before with
  | nil => rfl
  | cons c r ih =>
      obtain ⟨⟨hsigma, hdotted, hsame⟩, hr⟩ := List.forall_mem_cons.mp h
      rw [lowerFrom_cons, lowered, if_neg hsigma, if_neg hdotted, hsame, ih hr, List.singleton_append]

/-- **Every character of a text in lower case stays as it is.** -/
theorem isSettled_of_mem_lower (h : c ∈ lower cs) : IsSettled c := isSettled_of_mem_lowerFrom h

theorem lower_of_isSettled (h : ∀ c ∈ cs, IsSettled c) : lower cs = cs := lowerFrom_of_isSettled h

/-- **Lower-casing a text again changes nothing.** -/
theorem lower_lower (cs : List Char) : lower (lower cs) = lower cs :=
  lower_of_isSettled fun _ => isSettled_of_mem_lower

theorem lower_eq_nil_iff : lower cs = [] ↔ cs = [] := by
  cases cs with
  | nil => exact iff_of_true rfl rfl
  | cons c r =>
      refine iff_of_false (fun h => ?_) (List.cons_ne_nil c r)
      exact lowered_ne_nil (List.append_eq_nil_iff.mp h).1

/-- Only a dot becomes a dot. -/
theorem eq_dot_of_lower (h : lower cs = ['.']) : cs = ['.'] := by
  cases cs with
  | nil => cases h
  | cons c r =>
      rw [lower, lowerFrom_cons] at h
      rcases List.append_eq_singleton_iff.mp h with ⟨hnil, -⟩ | ⟨hone, hnil⟩
      · exact absurd hnil lowered_ne_nil
      · have hr : r = [] := by
          cases r with
          | nil => rfl
          | cons d t => exact absurd (List.append_eq_nil_iff.mp hnil).1 lowered_ne_nil
        unfold lowered at hone
        split at hone
        · split at hone <;> simp at hone
        · split at hone
          · simp at hone
          · rw [hr, eq_dot_of_lowerChar (List.singleton_inj.mp hone)]

/-! ## Ends -/

theorem isBlank_of_mem_lowered (h : isBlank c = false) :
    ∀ d ∈ lowered before c rest, isBlank d = false :=
  forall_mem_lowered (P := (isBlank · = false)) (by decide) (by decide)
    fun _ _ => isBlank_lowerChar h

/-- The text neither begins nor ends with a blank. -/
def IsTrimmed (cs : List Char) : Prop :=
  (∀ c ∈ cs.head?, isBlank c = false) ∧ ∀ c ∈ cs.getLast?, isBlank c = false

/-- A text in lower case ends with a blank only if the text does. -/
theorem getLast?_lowerFrom (h : ∀ c ∈ cs.getLast?, isBlank c = false) :
    ∀ d ∈ (lowerFrom before cs).getLast?, isBlank d = false := by
  induction cs generalizing before with
  | nil => simp [lowerFrom]
  | cons c r ih =>
      rw [lowerFrom_cons]
      intro d hd
      cases r with
      | nil =>
          rw [lowerFrom, List.append_nil] at hd
          exact isBlank_of_mem_lowered (h c rfl) d (List.mem_of_getLast? hd)
      | cons e t =>
          have hne : lowerFrom (c :: before) (e :: t) ≠ [] := fun hnil =>
            lowered_ne_nil (List.append_eq_nil_iff.mp hnil).1
          rw [List.getLast?_append_of_ne_nil _ hne] at hd
          exact ih (by simpa using h) d hd

/-- **Lower-casing makes no blanks at the ends.** -/
theorem IsTrimmed.lower (h : IsTrimmed cs) : IsTrimmed (lower cs) := by
  refine ⟨fun d hd => ?_, getLast?_lowerFrom h.2⟩
  cases cs with
  | nil => cases hd
  | cons c r =>
      have hfirst : ∀ d ∈ lowered [] c r, isBlank d = false := isBlank_of_mem_lowered (h.1 c rfl)
      refine hfirst d ?_
      rw [Text.lower, lowerFrom_cons, List.head?_append_of_ne_nil _ lowered_ne_nil] at hd
      exact List.mem_of_head? hd

theorem getLast?_dropEndWhile (p : Char → Bool) (cs : List Char) :
    ∀ c ∈ (dropEndWhile p cs).getLast?, p c = false := by
  induction cs with
  | nil => simp [dropEndWhile]
  | cons c r ih =>
      rw [dropEndWhile]
      split
      · split
        · simp
        · rename_i hc
          simpa using hc
      · rename_i l hl
        rw [List.getLast?_cons_of_ne_nil hl]
        exact ih

/-- Trimming leaves the beginning of what it leaves. -/
theorem head?_dropEndWhile {p : Char → Bool} (h : dropEndWhile p cs ≠ []) :
    (dropEndWhile p cs).head? = cs.head? := by
  obtain ⟨tail, htail⟩ := eq_dropEndWhile_append p cs
  conv_rhs => rw [htail]
  exact (List.head?_append_of_ne_nil _ h).symm

theorem isTrimmed_trim (cs : List Char) : IsTrimmed (trim cs) := by
  refine ⟨fun c hc => ?_, getLast?_dropEndWhile _ _⟩
  have hne : dropEndWhile isBlank (trimStart cs) ≠ [] := by
    rintro hnil
    rw [trim, trimEnd, hnil] at hc
    cases hc
  rw [trim, trimEnd, head?_dropEndWhile hne, trimStart] at hc
  have hnot := List.head?_dropWhile_not isBlank cs
  rw [Option.mem_def.mp hc] at hnot
  simpa using hnot

theorem dropEndWhile_eq_self {p : Char → Bool} (h : ∀ c ∈ cs.getLast?, p c = false) :
    dropEndWhile p cs = cs := by
  induction cs with
  | nil => rfl
  | cons c r ih =>
      cases r with
      | nil => simp [dropEndWhile, h c rfl]
      | cons d t => rw [dropEndWhile, ih (by simpa using h)]

/-- Trimming changes nothing where no blank stands at an end. -/
theorem trim_of_isTrimmed (h : IsTrimmed cs) : trim cs = cs := by
  have hstart : trimStart cs = cs := by
    cases cs with
    | nil => rfl
    | cons c r => exact List.dropWhile_cons_of_neg (by simp [h.1 c rfl])
  rw [trim, hstart]
  exact dropEndWhile_eq_self h.2

end Texts

end QueryTypings.Text
