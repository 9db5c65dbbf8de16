/-
  Blank characters, trimming and the words between blanks.

  Blank are the spaces and line breaks of every script and the four information separators; neither
  the byte-order mark nor the zero-width space is blank.
-/
import QueryTypings.Text.Lines

namespace QueryTypings.Text

/-- A space, a line break or an information separator. -/
def isBlank (c : Char) : Bool :=
  let n := c.toNat
  (9 ≤ n && n ≤ 13) || (28 ≤ n && n ≤ 32) || n == 0x85 || n == 0xa0 || n == 0x1680
    || (0x2000 ≤ n && n ≤ 0x200a) || n == 0x2028 || n == 0x2029 || n == 0x202f || n == 0x205f
    || n == 0x3000

/-- White space in the narrower sense: blank, but no information separator.  Numbers are trimmed by
    this rule. -/
def isSpace (c : Char) : Bool := isBlank c && !(28 ≤ c.toNat && c.toNat ≤ 31)

/-- Drops the blanks in front. -/
def trimStart (cs : List Char) : List Char := cs.dropWhile isBlank

/-- Drops the characters of a class at the end. -/
def dropEndWhile (p : Char → Bool) : List Char → List Char
  | [] => []
  | c :: r =>
      match dropEndWhile p r with
      | [] => if p c then [] else [c]
      | l => c :: l

/-- Drops the blanks at the end. -/
def trimEnd : List Char → List Char := dropEndWhile isBlank

/-- Drops the blanks on both sides. -/
def trim (cs : List Char) : List Char := trimEnd (trimStart cs)

/-- What stands before a part that is not dropped altogether is kept. -/
theorem dropEndWhile_append {p : Char → Bool} {a b : List Char} (h : dropEndWhile p b ≠ []) :
    dropEndWhile p (a ++ b) = a ++ dropEndWhile p b := by
  induction a with
  | nil => rfl
  | cons c r ih =>
      rw [List.cons_append, dropEndWhile, ih]
      cases hb : dropEndWhile p b with
      | nil => exact absurd hb h
      | cons d t => cases r <;> rfl

/-- Only the end is dropped. -/
theorem eq_dropEndWhile_append (p : Char → Bool) (cs : List Char) :
    ∃ tail, cs = dropEndWhile p cs ++ tail := by
  induction cs with
  | nil => exact ⟨[], rfl⟩
  | cons c r ih =>
      obtain ⟨t, ht⟩ := ih
      rw [dropEndWhile]
      cases hr : dropEndWhile p r with
      | nil =>
          cases p c
          · exact ⟨r, rfl⟩
          · exact ⟨c :: r, rfl⟩
      | cons d u => exact ⟨t, by rw [hr] at ht; rw [List.cons_append, ← ht]⟩

/-! ## Words -/

/-- Cuts a text at every blank. -/
def splitBlank : List Char → List (List Char)
  | [] => [[]]
  | c :: r => if isBlank c then [] :: splitBlank r else consFirst c (splitBlank r)

/-- The words of a text: what stands between blanks. -/
def words (cs : List Char) : List (List Char) := (splitBlank cs).filter fun w => !w.isEmpty

end QueryTypings.Text
