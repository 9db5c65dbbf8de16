/-
  Identifiers in generated text.

  `exportedTypes` lists the names that a declaration text exports: every line that begins with
  `export type ` and goes on with a word character gives the run of word characters there.
  `mentions` says whether a name stands in a text as a whole identifier, that is, with neither a
  word character nor `$` right before or right after it.
-/
import QueryTypings.Text.Word
import QueryTypings.Text.Lines

namespace QueryTypings.Text

/-- What follows a given beginning of a text. -/
def dropFront? : List Char → List Char → Option (List Char)
  | [], r => some r
  | _ :: _, [] => none
  | p :: ps, c :: r => if p = c then dropFront? ps r else none

theorem dropFront_append (p r : List Char) : dropFront? p (p ++ r) = some r := by
  induction p with
  | nil => rfl
  | cons c p ih => simp [dropFront?, ih]

theorem eq_append_of_dropFront {p cs r : List Char} (h : dropFront? p cs = some r) :
    cs = p ++ r := by
  induction p generalizing cs with
  | nil => exact Option.some.inj h
  | cons c p ih =>
      cases cs with
      | nil => exact absurd h (by simp [dropFront?])
      | cons d t =>
          rw [dropFront?] at h
          split at h
          · next hc => rw [hc, List.cons_append, ← ih h]
          · exact absurd h (by simp)

/-- The name that one line exports. -/
def exportedType? (line : List Char) : Option String :=
  match dropFront? "export type ".toList line with
  | none => none
  | some r =>
      match r.takeWhile isWord with
      | [] => none
      | name => some (String.ofList name)

/-- The names that a text exports, in order, repetitions kept. -/
def exportedTypes (text : String) : List String :=
  (splitAt '\n' text.toList).filterMap exportedType?

/-- A character that an identifier of the target language may hold. -/
def isIdentifierChar (c : Char) : Bool := isWord c || c == '$'

/-- No identifier character stands in front of the text. -/
def startsApart : List Char → Bool
  | [] => true
  | c :: _ => !isIdentifierChar c

/-- `name` occurs in the text as a whole identifier; `apart` says that the text begins where an
    identifier may begin. -/
def mentionsFrom (name : List Char) : Bool → List Char → Bool
  | apart, cs =>
      (apart && match dropFront? name cs with
        | some r => startsApart r
        | none => false)
      || match cs with
        | [] => false
        | c :: r => mentionsFrom name (!isIdentifierChar c) r

/-- `name` occurs in the text as a whole identifier. -/
def mentions (text name : String) : Bool := mentionsFrom name.toList true text.toList

end QueryTypings.Text
