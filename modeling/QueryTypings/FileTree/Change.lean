/-
  Changing files.

  A file is written beside its place under another name and then moved there, so its place holds the
  old file or the new one at every moment.  A write that fails takes the other file away again.
-/
import QueryTypings.FileTree.Basic

namespace QueryTypings.FileTree

open QueryTypings.Text

/-! ## Steps -/

/-- What goes wrong in a write for reasons that the tree does not show. -/
inductive Trouble
  | nothing
  /-- A directory on the way cannot be made. -/
  | opening (place : List String) (r : Refusal)
  /-- The other file cannot be made. -/
  | making (r : Refusal)
  /-- Only the first octets reach the other file. -/
  | filling (written : Nat) (r : Refusal)
  /-- The other file cannot be moved to its place. -/
  | moving (r : Refusal)
deriving Repr, BEq

/-- Why a directory cannot be made that the tree has room for. -/
def Trouble.atDirectory? (trouble : Trouble) (place : List String) : Option Refusal :=
  match trouble with
  | .opening p r => if p = place then some r else none
  | _ => none

/-- The trees that a change passes through, the last one first, and what stopped it. -/
structure Passage where
  last : FileTree
  before : List FileTree
  refusal : Option Refusal
deriving Repr, BEq

/-- The passage goes on to another tree. -/
def Passage.next (p : Passage) (t : FileTree) : Passage := ⟨t, p.last :: p.before, p.refusal⟩

/-- The passage is stopped. -/
def Passage.stop (p : Passage) (r : Refusal) : Passage := { p with refusal := some r }

/-! ## Directories -/

/-- A refusal, with the names of the place that it is about. -/
structure Obstacle where
  refusal : Refusal
  names : List String
deriving Repr, BEq

/-- Makes the last directory of a way at a place where the way may lead.  A directory that is there
    already is no obstacle. -/
def openLast (trouble : Trouble) (p : Passage) (names : List String) :
    Except Refusal (List String) → Passage × Except Obstacle (List String)
  | .error r => (p.stop r, .error ⟨r, names⟩)
  | .ok place =>
      match p.last.entry? place, trouble.atDirectory? place with
      | none, none => (p.next (p.last.put place .directory), .ok place)
      | none, some r => (p.stop r, .error ⟨r, names⟩)
      | some .directory, _ => (p, .ok place)
      | some (.file _), _ => (p.stop .occupied, .error ⟨.occupied, names⟩)

/-- Makes a directory and those above it that are missing, the uppermost first; the names come in
    reverse.  Directories made before an obstacle stay. -/
def openWayUp (trouble : Trouble) (t : FileTree) :
    List String → Passage × Except Obstacle (List String)
  | [] => (⟨t, [], none⟩, .ok [])
  | name :: above =>
      let names := (name :: above).reverse
      match t.locate names with
      | .error .missing =>
          match openWayUp trouble t above with
          | (p, .error o) => (p, .error o)
          | (p, .ok place) => openLast trouble p names (p.last.follow place [name])
      | found => openLast trouble ⟨t, [], none⟩ names found

/-- Makes a directory and those above it that are missing: the trees that this passes through, and
    what is in the way. -/
def openWay (trouble : Trouble) (t : FileTree) (names : List String) : Passage × Option Obstacle :=
  match t.openWayUp trouble names.reverse with
  | (p, .error o) => (p, some o)
  | (p, .ok _) => (p, none)

/-- Makes a directory and those above it that are missing. -/
def makeDirectories (t : FileTree) (names : List String) : FileTree × Option Obstacle :=
  let (p, o) := t.openWay .nothing names
  (p.last, o)

/-! ## Removal -/

/-- Removes a file. -/
def removeFile (t : FileTree) (names : List String) : Except Refusal FileTree :=
  match t.locate names with
  | .error r => .error r
  | .ok place =>
      match t.entry? place with
      | none => .error .missing
      | some .directory => .error .isDirectory
      | some (.file _) => .ok (t.clear place)

/-! ## Writing -/

/-- Eight digits. -/
def eightDigits (n : Nat) : String :=
  let ds := (toString n).toList
  String.ofList (List.replicate (8 - ds.length) '0' ++ ds)

/-- The name of the other file. -/
def temporaryName (name : String) (number : Nat) : String :=
  "." ++ name ++ "." ++ eightDigits number ++ ".tmp"

/-- The first of so many names, from a number on, that nothing in a directory has. -/
def freeName? (t : FileTree) (directory : List String) (name : String) : Nat → Nat → Option String
  | 0, _ => none
  | fuel + 1, number =>
      let candidate := temporaryName name number
      if (t.entry? (directory ++ [candidate])).isNone then some candidate
      else freeName? t directory name fuel (number + 1)

/-- The refusal where all names are taken. -/
def noFreeName : Refusal := .other 17 "No usable temporary file name found"

/-- Writes a file into a directory, in place of the file of that name. -/
def replaceFile (trouble : Trouble) (t : FileTree) (directory : List String) (name : String)
    (octets : List Nat) : Passage :=
  let begun : Passage := ⟨t, [], none⟩
  let target := directory ++ [name]
  match t.entry? directory, t.freeName? directory name (t.entries.length + 1) 0 with
  | none, _ => begun.stop .missing
  | some (.file _), _ => begun.stop .notDirectory
  | some .directory, none => begun.stop noFreeName
  | some .directory, some other =>
      let otherPlace := directory ++ [other]
      -- all names for the other file have one length
      let shape := temporaryName name 0
      if isTooLong shape || isTooLongPath (Path.mk .root (directory ++ [shape])).text then
        begun.stop .nameTooLong
      else
        let made := begun.next (t.put otherPlace (.file []))
        let filled (n : Nat) := made.next (t.put otherPlace (.file (octets.take n)))
        let full := filled octets.length
        match trouble with
        | .making r => begun.stop r
        | .filling n r => ((filled n).next t).stop r
        | .moving r => (full.next t).stop r
        | _ =>
            if t.isDirectory target then (full.next t).stop .isDirectory
            else full.next (t.put target (.file octets))

end QueryTypings.FileTree
