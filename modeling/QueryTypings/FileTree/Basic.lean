/-
  A tree of files.

  A place is the list of names that lead to it from the root.  Some places hold a file, with its
  octets, or a directory; the root is always a directory.  There are no links, so a place has one
  list of names, and what two dots take back is what came before them.

  Operations answer with a refusal where a system call would fail, in the order in which the names
  of a path are followed.
-/
import QueryTypings.Text.Utf8
import QueryTypings.Path.Basic

namespace QueryTypings

open QueryTypings.Text

/-- What a place holds. -/
inductive Entry
  | file (octets : List Nat)
  | directory
deriving Repr, BEq, DecidableEq

/-- A tree of files, by the places that hold something. -/
structure FileTree where
  entries : List (List String × Entry)
deriving Repr, BEq

/-- Why an operation on a place is refused. -/
inductive Refusal
  | missing
  | occupied
  | notDirectory
  | isDirectory
  | nameTooLong
  | other (code : Nat) (reason : String)
deriving Repr, BEq, DecidableEq

namespace Refusal

/-- The number of the system error. -/
def code : Refusal → Nat
  | .missing => 2
  | .occupied => 17
  | .notDirectory => 20
  | .isDirectory => 21
  | .nameTooLong => 36
  | .other n _ => n

/-- The system's words for the error. -/
def reason : Refusal → String
  | .missing => "No such file or directory"
  | .occupied => "File exists"
  | .notDirectory => "Not a directory"
  | .isDirectory => "Is a directory"
  | .nameTooLong => "File name too long"
  | .other _ s => s

/-- There is nothing, which is an answer and no obstacle to one. -/
def isAbsence : Refusal → Bool
  | .missing | .notDirectory => true
  | _ => false

/-- The error with its number and what it is about. -/
def report (r : Refusal) (subject : String) : String :=
  "[Errno " ++ toString r.code ++ "] " ++ r.reason ++ ": " ++ subject

end Refusal

namespace FileTree

/-- The tree that holds nothing. -/
def empty : FileTree := ⟨[]⟩

/-! ## Places -/

/-- What a place holds. -/
def entry? (t : FileTree) (place : List String) : Option Entry :=
  if place = [] then some .directory
  else (t.entries.find? fun e => e.1 = place).map fun e => e.2

/-- The place holds a directory. -/
def isDirectory (t : FileTree) (place : List String) : Bool := t.entry? place == some .directory

/-- The octets of the file at a place. -/
def octets? (t : FileTree) (place : List String) : Option (List Nat) :=
  match t.entry? place with
  | some (.file octets) => some octets
  | _ => none

/-- Lets a place hold something, in place of what it held. -/
def put (t : FileTree) (place : List String) (e : Entry) : FileTree :=
  ⟨(place, e) :: t.entries.filter fun o => o.1 ≠ place⟩

/-- Lets a place hold nothing. -/
def clear (t : FileTree) (place : List String) : FileTree :=
  ⟨t.entries.filter fun o => o.1 ≠ place⟩

/-- Lets a place and everything below it hold nothing. -/
def clearBelow (t : FileTree) (place : List String) : FileTree :=
  ⟨t.entries.filter fun o => !place.isPrefixOf o.1⟩

/-- Lets a place and everything below it hold nothing, but for what is left. -/
def clearBelowBut (t : FileTree) (place : List String) (left : List String → Bool) : FileTree :=
  ⟨t.entries.filter fun o => !place.isPrefixOf o.1 || left o.1⟩

/-- What lies below a place, by the names that lead there from it. -/
def below (t : FileTree) (place : List String) : List (List String × Entry) :=
  t.entries.filterMap fun e =>
    match Path.dropFront? place e.1 with
    | some (n :: r) => some (n :: r, e.2)
    | _ => none

/-- The files below a place, by the names that lead there from it. -/
def filesBelow (t : FileTree) (place : List String) : List (List String) :=
  (t.below place).filterMap fun e =>
    match e.2 with
    | .file _ => some e.1
    | .directory => none

/-- The directories below a place, by the names that lead there from it. -/
def directoriesBelow (t : FileTree) (place : List String) : List (List String) :=
  (t.below place).filterMap fun e =>
    match e.2 with
    | .file _ => none
    | .directory => some e.1

/-- What a directory holds, by name. -/
def children (t : FileTree) (place : List String) : List (String × Entry) :=
  (t.below place).filterMap fun e =>
    match e.1 with
    | [name] => some (name, e.2)
    | _ => none

/-! ## Paths -/

/-- The most octets that a name may have. -/
def nameLimit : Nat := 255

/-- The name has more octets than a name may have. -/
def isTooLong (name : String) : Bool := nameLimit < (encodeUtf8 name.toList).length

/-- The most octets that the text of a path may have. -/
def pathLimit : Nat := 4095

/-- The text has more octets than a path may have. -/
def isTooLongPath (text : String) : Bool := pathLimit < (encodeUtf8 text.toList).length

/-- The place where names lead from a place.  Every name is looked up in a directory; the last one
    need not lead to anything. -/
def follow (t : FileTree) (place : List String) : List String → Except Refusal (List String)
  | [] => .ok place
  | name :: rest =>
      match t.entry? place with
      | none => .error .missing
      | some (.file _) => .error .notDirectory
      | some .directory =>
          if name = ".." then follow t place.dropLast rest
          else if isTooLong name then .error .nameTooLong
          else follow t (place ++ [name]) rest

/-- The place where names lead from the root. -/
def locate (t : FileTree) (names : List String) : Except Refusal (List String) :=
  if isTooLongPath (Path.mk .root names).text then .error .nameTooLong else t.follow [] names

/-- What a place holds that must not be empty. -/
def entryAt (t : FileTree) (place : List String) : Except Refusal Entry :=
  match t.entry? place with
  | none => .error .missing
  | some e => .ok e

/-- What the place holds where names lead from the root. -/
def lookUp (t : FileTree) (names : List String) : Except Refusal Entry :=
  match t.locate names with
  | .error r => .error r
  | .ok place => t.entryAt place

end FileTree

end QueryTypings
