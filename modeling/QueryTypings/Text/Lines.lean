/-
  Lines: cutting text at line breaks and putting pieces together again.

  Two notions of a line live here.  `lines` cuts at every line boundary that any script knows, with
  CR LF as one break, and a break at the end opens no further line.  `splitAt` cuts at one given
  character and keeps every piece, so that `joinWith` undoes it.
-/

namespace QueryTypings.Text

/-- LF, CR, vertical tab, form feed, the three upper information separators, next line, line and
    paragraph separator. -/
def isLineBreak (c : Char) : Bool :=
  let n := c.toNat
  (10 ≤ n && n ≤ 13) || (28 ≤ n && n ≤ 30) || n == 0x85 || n == 0x2028 || n == 0x2029

/-- Puts a character in front of the first line. -/
def consFirst (c : Char) : List (List Char) → List (List Char)
  | [] => [[c]]
  | l :: ls => (c :: l) :: ls

/-- The lines of a text, without their breaks. -/
def lines : List Char → List (List Char)
  | [] => []
  | '\r' :: '\n' :: r => [] :: lines r
  | c :: r => if isLineBreak c then [] :: lines r else consFirst c (lines r)

/-- The pieces between the occurrences of `sep`, at least one. -/
def splitAt (sep : Char) : List Char → List (List Char)
  | [] => [[]]
  | c :: r => if c = sep then [] :: splitAt sep r else consFirst c (splitAt sep r)

/-- The pieces with `sep` between them. -/
def intercal (sep : List Char) : List (List Char) → List Char
  | [] => []
  | [a] => a
  | a :: b :: r => a ++ sep ++ intercal sep (b :: r)

/-- The strings with `sep` between them. -/
def joinWith (sep : String) : List String → String
  | [] => ""
  | [a] => a
  | a :: b :: r => a ++ sep ++ joinWith sep (b :: r)

theorem joinWith_cons (sep a : String) {xs : List String} (h : xs ≠ []) :
    joinWith sep (a :: xs) = a ++ sep ++ joinWith sep xs := by
  cases xs with
  | nil => exact absurd rfl h
  | cons b r => rfl

theorem joinWith_concat (sep b : String) {xs : List String} (h : xs ≠ []) :
    joinWith sep (xs ++ [b]) = joinWith sep xs ++ sep ++ b := by
  induction xs with
  | nil => exact absurd rfl h
  | cons a r ih =>
      cases r with
      | nil => rfl
      | cons c r =>
          have hne : c :: r ++ [b] ≠ [] := by simp
          rw [List.cons_append, joinWith_cons sep a hne, joinWith_cons sep a (List.cons_ne_nil c r),
            ih (List.cons_ne_nil c r)]
          simp only [String.append_assoc]

theorem splitAt_ne_nil (sep : Char) (cs : List Char) : splitAt sep cs ≠ [] := by
  cases cs with
  | nil => simp [splitAt]
  | cons c r =>
      rw [splitAt]
      split
      · simp
      · cases splitAt sep r <;> simp [consFirst]

/-- Cutting loses nothing but the separators. -/
theorem intercal_splitAt (sep : Char) (cs : List Char) : intercal [sep] (splitAt sep cs) = cs := by
  induction cs with
  | nil => rfl
  | cons c r ih =>
      rw [splitAt]
      cases hs : splitAt sep r with
      | nil => exact absurd hs (splitAt_ne_nil sep r)
      | cons l ls =>
          rw [hs] at ih
          by_cases hc : c = sep
          · subst hc; simp [intercal, ih]
          · rw [if_neg hc, consFirst]
            cases ls with
            | nil => simpa [intercal] using ih
            | cons m ms => simpa [intercal] using ih

theorem toList_joinWith (sep : String) (xs : List String) :
    (joinWith sep xs).toList = intercal sep.toList (xs.map String.toList) := by
  induction xs with
  | nil => rfl
  | cons a r ih =>
      cases r with
      | nil => simp [joinWith, intercal]
      | cons b t => simpa [joinWith, intercal] using ih

end QueryTypings.Text
