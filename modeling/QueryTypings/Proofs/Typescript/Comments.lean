/-
  No description leaves its comment.

  1. **End marks** — a text without an end mark stays so when it is put between others, if what meets
     at the seam is neither a star nor a slash (`Unclosed.seam`).  Breaking up the end marks leaves
     none (`unclosed_breakEndMarks`), and cutting into lines and trimming bring none back, since they
     only take parts (`Unclosed.part`).

  2. **Reading** — a reader of TypeScript drops what stands up to the first end mark
     (`behindComment`).  It finds the one that was written if none stands before it
     (`behindEndMark_append`, `end_of_unclosed`).

  3. **Insides** — what a comment holds between its marks, in one line or in several, has no end
     mark, breaks its lines with line feeds only, and begins each of them with a star
     (`inside_line`, `inside_rows`).

  4. **Comments** — so a comment is closed where it ends and nowhere else, and all of it is dropped
     (`comment_sealed`).
-/
import QueryTypings.Proofs.Typescript.Exports

namespace QueryTypings.Typescript

open QueryTypings.Text

variable {c : Char} {a b r indent line inner : List Char}

/-! ## End marks -/

/-- No star stands right before a slash. -/
def Unclosed (cs : List Char) : Prop := ¬ ['*', '/'] <:+: cs

theorem unclosed_nil : Unclosed [] := by
  intro h
  exact absurd (List.infix_nil.mp h) (by decide)

theorem unclosed_cons : Unclosed (c :: r) ↔ ¬ (c = '*' ∧ r.head? = some '/') ∧ Unclosed r := by
  have hfront : ['*', '/'] <+: c :: r ↔ c = '*' ∧ r.head? = some '/' := by
    rw [List.cons_prefix_cons]
    cases r with
    | nil => simp
    | cons d t => simp [List.cons_prefix_cons, eq_comm]
  rw [Unclosed, List.infix_cons_iff, hfront, not_or]
  exact Iff.rfl

theorem unclosed_singleton (c : Char) : Unclosed [c] :=
  unclosed_cons.mpr ⟨by simp, unclosed_nil⟩

theorem Unclosed.part (hb : Unclosed b) (h : a <:+: b) : Unclosed a :=
  fun hmark => hb (hmark.trans h)

/-- **No end mark comes about at a seam** at which neither a star nor a slash stands. -/
theorem Unclosed.seam (ha : Unclosed a) (hb : Unclosed b) (hstar : c ≠ '*') (hslash : c ≠ '/') :
    Unclosed (a ++ c :: b) := by
  induction a with
  | nil => exact unclosed_cons.mpr ⟨fun h => hstar h.1, hb⟩
  | cons d t ih =>
      obtain ⟨hd, ht⟩ := unclosed_cons.mp ha
      refine unclosed_cons.mpr ⟨?_, ih ht⟩
      rintro ⟨rfl, hhead⟩
      cases t with
      | nil => exact hslash (Option.some.inj hhead)
      | cons e u => exact hd ⟨rfl, hhead⟩

/-- The text is made of spaces. -/
def Spaces (cs : List Char) : Prop := ∀ c ∈ cs, c = ' '

instance (cs : List Char) : Decidable (Spaces cs) :=
  decidable_of_iff (cs.all fun c => c == ' ') (by simp [Spaces])

theorem Spaces.unbroken (h : Spaces a) : Unbroken a := by
  intro c hc
  rw [h c hc]
  decide

/-- Spaces in front make no end mark. -/
theorem Unclosed.behind_spaces (hb : Unclosed b) (ha : Spaces a) : Unclosed (a ++ b) := by
  induction a with
  | nil => exact hb
  | cons c r ih =>
      obtain ⟨hc, hr⟩ := List.forall_mem_cons.mp ha
      refine unclosed_cons.mpr ⟨?_, ih hr⟩
      rintro ⟨hstar, -⟩
      rw [hstar] at hc
      exact absurd hc (by decide)

theorem unclosed_intercal {rows : List (List Char)} (h : ∀ row ∈ rows, Unclosed row) :
    Unclosed (intercal ['\n'] rows) := by
  induction rows with
  | nil => exact unclosed_nil
  | cons row rest ih =>
      obtain ⟨hrow, hrest⟩ := List.forall_mem_cons.mp h
      cases rest with
      | nil => exact hrow
      | cons next later =>
          rw [intercal, List.append_assoc]
          exact hrow.seam (ih hrest) (by decide) (by decide)

theorem head?_breakEndMarks (cs : List Char) : (breakEndMarks cs).head? = cs.head? := by
  fun_cases breakEndMarks cs <;> rfl

/-- **No end mark is left.** -/
theorem unclosed_breakEndMarks (cs : List Char) : Unclosed (breakEndMarks cs) := by
  fun_induction breakEndMarks cs with
  | case1 r ih =>
      -- between the star and the slash stands a backslash now
      have hslash : Unclosed ('/' :: breakEndMarks r) := unclosed_cons.mpr ⟨by simp, ih⟩
      exact (unclosed_singleton '*').seam hslash (by decide) (by decide)
  | case2 c r hpair ih =>
      refine unclosed_cons.mpr ⟨?_, ih⟩
      rintro ⟨rfl, hhead⟩
      rw [head?_breakEndMarks] at hhead
      cases r with
      | nil => cases hhead
      | cons d t =>
          obtain rfl := Option.some.inj hhead
          exact hpair t rfl rfl
  | case3 => exact unclosed_nil

theorem unclosed_of_mem_commentLines {d : String} (h : line ∈ commentLines d) : Unclosed line :=
  (unclosed_breakEndMarks _).part (infix_of_mem_lines h)

/-! ## Reading -/

/-- What follows the first end mark. -/
def behindEndMark : List Char → Option (List Char)
  | '*' :: '/' :: r => some r
  | _ :: r => behindEndMark r
  | [] => none

/-- What a reader of TypeScript finds behind a comment with which the text begins. -/
def behindComment (cs : List Char) : Option (List Char) :=
  match cs.dropWhile (· == ' ') with
  | '/' :: '*' :: r => behindEndMark r
  | _ => none

theorem behindEndMark_cons (h : ¬ (c = '*' ∧ r.head? = some '/')) :
    behindEndMark (c :: r) = behindEndMark r := by
  rw [behindEndMark]
  rintro t rfl rfl
  exact h ⟨rfl, rfl⟩

/-- **The end mark behind a text without one is the first.** -/
theorem behindEndMark_append (h : Unclosed a) (r : List Char) :
    behindEndMark (a ++ '*' :: '/' :: r) = some r := by
  induction a with
  | nil => rfl
  | cons c t ih =>
      obtain ⟨hc, ht⟩ := unclosed_cons.mp h
      rw [List.cons_append, behindEndMark_cons, ih ht]
      rintro ⟨rfl, hhead⟩
      cases t with
      | nil => cases hhead
      | cons d u => exact hc ⟨rfl, hhead⟩

/-- **It is the only one**, if what follows it has none. -/
theorem end_of_unclosed (h : Unclosed a) (hr : Unclosed ('/' :: r)) {front back : List Char}
    (heq : a ++ '*' :: '/' :: r = front ++ '*' :: '/' :: back) : back = r := by
  induction a generalizing front with
  | nil =>
      cases front with
      | nil => simpa using heq.symm
      | cons c t =>
          obtain ⟨-, htail⟩ := List.cons.inj heq
          exact absurd ⟨t, back, htail.symm ▸ by simp⟩ hr
  | cons c t ih =>
      obtain ⟨hc, ht⟩ := unclosed_cons.mp h
      cases front with
      | cons d u => exact ih ht (List.cons.inj heq).2
      | nil =>
          obtain ⟨rfl, htail⟩ := List.cons.inj heq
          cases t with
          | nil => exact absurd (List.cons.inj htail).1 (by decide)
          | cons d u => exact absurd ⟨rfl, congrArg some (List.cons.inj htail).1⟩ hc

/-! ## Insides -/

/-- The lines of the text end with line feeds only. -/
def FeedsOnly (cs : List Char) : Prop := ∀ c ∈ cs, isLineBreak c = true → c = '\n'

instance (cs : List Char) : Decidable (FeedsOnly cs) :=
  decidable_of_iff (cs.all fun c => !isLineBreak c || c == '\n') (by
    simp [FeedsOnly, imp_iff_not_or])

theorem FeedsOnly.append (ha : FeedsOnly a) (hb : FeedsOnly b) : FeedsOnly (a ++ b) :=
  List.forall_mem_append.mpr ⟨ha, hb⟩

theorem feedsOnly_of_unbroken (h : Unbroken a) : FeedsOnly a := by
  intro c hc hbreak
  rw [h c hc] at hbreak
  cases hbreak

theorem feedsOnly_intercal {rows : List (List Char)} (h : ∀ row ∈ rows, Unbroken row) :
    FeedsOnly (intercal ['\n'] rows) := by
  intro c hc hbreak
  by_contra hne
  refine not_mem_intercal (by simpa using hne) (fun row hrow hmem => ?_) hc
  rw [h row hrow c hmem] at hbreak
  cases hbreak

/-- Between the marks of a comment, the first of which is behind an indentation: no end mark, even
    behind the last star of the first mark, and each line behind the first begins with a star. -/
structure Inside (indent inner : List Char) : Prop where
  unclosed : Unclosed ('*' :: inner)
  breaks : FeedsOnly inner
  rows : ∀ l ∈ (lines (inner ++ ['*', '/', '\n'])).tail, l ≠ [] → indent ++ [' ', '*'] <+: l

/-- **A comment of one line.** -/
theorem inside_line (hline : Unclosed line) (hbreak : Unbroken line) :
    Inside indent (' ' :: line ++ [' ']) where
  unclosed := by
    have hback : Unclosed (line ++ [' ']) := hline.seam unclosed_nil (by decide) (by decide)
    exact (unclosed_singleton '*').seam hback (by decide) (by decide)
  breaks := by
    have hspace : Unbroken [' '] := by decide
    exact feedsOnly_of_unbroken ((hspace.append hbreak).append hspace)
  rows := by
    have htext : ' ' :: line ++ [' '] ++ ['*', '/', '\n']
        = ([' '] ++ line ++ [' ', '*', '/']) ++ '\n' :: [] := by simp
    have hspace : Unbroken [' '] := by decide
    have hunbroken : Unbroken ([' '] ++ line ++ [' ', '*', '/']) :=
      (hspace.append hbreak).append (by decide)
    rw [htext, lines_append_break hunbroken]
    intro l hl
    cases hl

/-- A line between the first and the last of a comment, as far as a reader of it can tell. -/
structure IsRow (indent row : List Char) : Prop where
  unclosed : Unclosed row
  unbroken : Unbroken row
  starred : indent ++ [' ', '*'] <+: row

/-- A space that opens the trimmed part of a line is all that can follow the star. -/
theorem commentRow_eq (indent line : List Char) :
    commentRow indent line = indent ++ ' ' :: '*' :: trimEnd (' ' :: line) := by
  have hkept : trimEnd ('*' :: ' ' :: line) = '*' :: trimEnd (' ' :: line) := by
    rw [trimEnd, dropEndWhile]
    cases dropEndWhile isBlank (' ' :: line) <;> rfl
  have hrow : indent ++ [' ', '*', ' '] ++ line = (indent ++ [' ']) ++ '*' :: ' ' :: line := by simp
  rw [commentRow, hrow, trimEnd, dropEndWhile_append (by rw [← trimEnd, hkept]; simp), ← trimEnd,
    hkept]
  simp

theorem isRow_commentRow (hindent : Spaces indent) (hline : Unclosed line)
    (hbreak : Unbroken line) : IsRow indent (commentRow indent line) := by
  obtain ⟨tail, htail⟩ := eq_dropEndWhile_append isBlank (' ' :: line)
  have hkept : trimEnd (' ' :: line) <+: ' ' :: line := ⟨tail, htail.symm⟩
  have hspaced : Unclosed (' ' :: line) := unclosed_cons.mpr ⟨by simp, hline⟩
  rw [commentRow_eq]
  constructor
  case unclosed =>
    refine Unclosed.behind_spaces ?_ hindent
    refine unclosed_cons.mpr ⟨by simp, unclosed_cons.mpr ⟨?_, hspaced.part hkept.isInfix⟩⟩
    rintro ⟨-, hhead⟩
    have hfirst : (' ' :: line).head? = some '/' := by
      rw [htail, List.head?_append, ← trimEnd, hhead]
      rfl
    exact absurd (Option.some.inj hfirst) (by decide)
  case unbroken =>
    have hstar : Unbroken [' ', '*'] := by decide
    have hspace : Unbroken [' '] := by decide
    have htail : Unbroken (trimEnd (' ' :: line)) :=
      fun c hc => (hspace.append hbreak) c (hkept.subset hc)
    exact hindent.unbroken.append (hstar.append htail)
  case starred => exact ⟨trimEnd (' ' :: line), by simp⟩

/-- A line of a text of rows is one of the rows, is empty, or stands behind them. -/
theorem mem_lines_rows {rows : List (List Char)}
    (h : ∀ row ∈ rows, Unbroken row)
    (hline : line ∈ lines (intercal ['\n'] rows ++ '\n' :: r)) :
    line ∈ rows ∨ line = [] ∨ line ∈ lines r := by
  by_cases hrows : rows = []
  · subst hrows
    exact Or.inr (List.mem_cons.mp hline)
  · rw [lines_intercal hrows h, List.mem_append] at hline
    exact hline.imp_right Or.inr

/-- **A comment of several lines.** -/
theorem inside_rows (hindent : Spaces indent) {rows : List (List Char)}
    (hrows : ∀ row ∈ rows, IsRow indent row) :
    Inside indent ('\n' :: intercal ['\n'] rows ++ '\n' :: (indent ++ [' '])) where
  unclosed := by
    have hmiddle : Unclosed (intercal ['\n'] rows) :=
      unclosed_intercal fun row hrow => (hrows row hrow).unclosed
    have hlast : Unclosed (indent ++ [' ']) := (unclosed_singleton ' ').behind_spaces hindent
    have hback := hmiddle.seam hlast (show '\n' ≠ '*' by decide) (by decide)
    exact (unclosed_singleton '*').seam hback (by decide) (by decide)
  breaks := by
    have hbreak : FeedsOnly ['\n'] := by decide
    have hmiddle : FeedsOnly (intercal ['\n'] rows) :=
      feedsOnly_intercal fun row hrow => (hrows row hrow).unbroken
    have hlast : FeedsOnly (indent ++ [' ']) :=
      feedsOnly_of_unbroken (hindent.unbroken.append (by decide))
    exact (hbreak.append hmiddle).append (hbreak.append hlast)
  rows := by
    have htext : '\n' :: intercal ['\n'] rows ++ '\n' :: (indent ++ [' ']) ++ ['*', '/', '\n']
        = [] ++ '\n' :: (intercal ['\n'] rows
          ++ '\n' :: ((indent ++ [' ', '*', '/']) ++ '\n' :: [])) := by simp
    have hclose : Unbroken (indent ++ [' ', '*', '/']) := hindent.unbroken.append (by decide)
    rw [htext, lines_append_break (by decide)]
    intro l hl hne
    rcases mem_lines_rows (fun row hrow => (hrows row hrow).unbroken) hl with hl | hl | hl
    · exact (hrows l hl).starred
    · exact absurd hl hne
    · rw [lines_append_break hclose] at hl
      rw [List.mem_singleton.mp hl]
      exact ⟨['/'], by simp⟩

/-! ## Comments -/

/-- A comment in lines of its own behind an indentation: it begins and ends with its marks, the end
    mark is its last one and the only one, each line behind the first begins with a star, and a
    reader finds behind it what was put there. -/
structure Sealed (indent text : List Char) : Prop where
  opens : indent ++ ['/', '*', '*'] <+: text
  closes : ['*', '/', '\n'] <:+ text
  once : ∀ front back, text = front ++ ['*', '/'] ++ back → back = ['\n']
  breaks : FeedsOnly text
  rows : ∀ l ∈ (lines text).tail, l ≠ [] → indent ++ [' ', '*'] <+: l
  read : ∀ rest, behindComment (text ++ rest) = some ('\n' :: rest)

/-- **What is inside seals the comment.** -/
theorem Inside.sealed (h : Inside indent inner) (hindent : Spaces indent) :
    Sealed indent (indent ++ ['/', '*', '*'] ++ inner ++ ['*', '/', '\n']) where
  opens := ⟨inner ++ ['*', '/', '\n'], by simp⟩
  closes := ⟨_, rfl⟩
  once := by
    intro front back heq
    have hfront : Unclosed (indent ++ ['/', '*', '*'] ++ inner) := by
      have hmark : Unclosed ('/' :: '*' :: '*' :: inner) :=
        unclosed_cons.mpr ⟨by simp, unclosed_cons.mpr ⟨by simp, h.unclosed⟩⟩
      simpa using Unclosed.behind_spaces hmark hindent
    have hback : Unclosed ['/', '\n'] := unclosed_cons.mpr ⟨by simp, unclosed_singleton '\n'⟩
    exact end_of_unclosed hfront hback (by simpa using heq)
  breaks := by
    have hopen : FeedsOnly (indent ++ ['/', '*', '*']) :=
      feedsOnly_of_unbroken (hindent.unbroken.append (by decide))
    exact (hopen.append h.breaks).append (by decide)
  rows := by
    have hopen : Unbroken (indent ++ ['/', '*', '*']) := hindent.unbroken.append (by decide)
    rw [List.append_assoc, tail_lines_append hopen]
    exact h.rows
  read := by
    intro rest
    have hdrop : (indent ++ ['/', '*', '*'] ++ inner ++ ['*', '/', '\n'] ++ rest).dropWhile
        (· == ' ') = '/' :: '*' :: ('*' :: inner ++ '*' :: '/' :: '\n' :: rest) := by
      simp only [List.append_assoc]
      rw [List.dropWhile_append_of_pos fun c hc => by simp [hindent c hc]]
      rfl
    rw [behindComment, hdrop]
    exact behindEndMark_append h.unclosed _

theorem sealed_comment {indent : String} (hindent : Spaces indent.toList) {text : String}
    (hne : text ≠ "") : Sealed indent.toList (comment indent (some text)).toList := by
  have hunclosed : ∀ line ∈ commentLines text, Unclosed line :=
    fun _ => unclosed_of_mem_commentLines
  have hunbroken : ∀ line ∈ commentLines text, Unbroken line := fun _ => unbroken_of_mem_lines
  simp only [comment, if_neg hne]
  split
  · rename_i line hlines
    have hline : line ∈ commentLines text := hlines ▸ List.mem_singleton_self line
    have hinside : Inside indent.toList (' ' :: line ++ [' ']) :=
      inside_line (hunclosed line hline) (hunbroken line hline)
    simpa using hinside.sealed hindent
  · have hrows : ∀ row ∈ (commentLines text).map (commentRow indent.toList),
        IsRow indent.toList row :=
      List.forall_mem_map.mpr fun line hline =>
        isRow_commentRow hindent (hunclosed line hline) (hunbroken line hline)
    simpa using (inside_rows hindent hrows).sealed hindent

theorem comment_eq_empty_iff {indent : String} (hindent : Spaces indent.toList)
    (d : Option String) : comment indent d = "" ↔ d = none ∨ d = some "" := by
  constructor
  · intro hempty
    cases d with
    | none => exact Or.inl rfl
    | some text =>
        by_contra hne
        rw [not_or, Option.some.injEq] at hne
        obtain ⟨tail, htail⟩ := (sealed_comment hindent hne.2).opens
        simp [hempty] at htail
  · rintro (rfl | rfl) <;> rfl

/-- **A description stays in its comment.** Nothing is written for none; otherwise the comment ends
    where its text does, and what stands behind it is read as if there were no comment. -/
theorem comment_sealed {indent : String} (hindent : Spaces indent.toList)
    (d : Option String) :
    (comment indent d = "" ↔ d = none ∨ d = some "")
      ∧ (comment indent d ≠ "" → Sealed indent.toList (comment indent d).toList)
      ∧ ∀ rest, exportedTypes (comment indent d ++ rest) = exportedTypes rest := by
  have hempty : comment indent d = "" ↔ d = none ∨ d = some "" := comment_eq_empty_iff hindent d
  have hplain : Plain indent.toList := by
    refine ⟨fun hmem => absurd (hindent _ hmem) (by decide), fun hhead => ?_⟩
    exact absurd (hindent 'e' (List.mem_of_head? hhead)) (by decide)
  refine ⟨hempty, fun hne => ?_, exportedTypes_comment hplain d⟩
  rw [ne_eq, hempty, not_or] at hne
  cases d with
  | none => exact absurd rfl hne.1
  | some text => exact sealed_comment hindent fun h => hne.2 (congrArg some h)

/-- A description that tries to end the comment, to put an export behind it and to begin a line of
    its own with further ones. -/
theorem comment_sealed_hostile :
    Spaces "  ".toList
      ∧ comment "  " (some "*/ export type A = 1;\n**//\u2028export type B = 2; /") =
        "  /**\n   * *\\/ export type A = 1;\n   * **\\//\n   * export type B = 2; /\n   */\n"
      ∧ Sealed "  ".toList
        (comment "  " (some "*/ export type A = 1;\n**//\u2028export type B = 2; /")).toList
      ∧ exportedTypes
        (comment "  " (some "*/ export type A = 1;\n**//\u2028export type B = 2; /")
          ++ "export type C = 3;") = ["C"] := by
  have hindent : Spaces "  ".toList := by decide
  obtain ⟨-, hsealed, hexports⟩ :=
    comment_sealed hindent (some "*/ export type A = 1;\n**//\u2028export type B = 2; /")
  refine ⟨hindent, by decide, hsealed (by decide), ?_⟩
  rw [hexports]
  decide

end QueryTypings.Typescript
