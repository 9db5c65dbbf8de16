/-
  Paths.

  A path is relative, begins at the root, or begins with exactly two slashes, which is a root of its
  own.  Its parts are the names between slashes; empty parts and single dots are dropped when a path
  is read, so a path has one way of being written.  Two dots are kept until a path is normalised:
  then every part that they take back is gone, and at a root there is nothing to take back.

  Nothing here looks at a disk: no part is taken for a link.
-/
import QueryTypings.Text.Lines
import QueryTypings.Text.Utf8

namespace QueryTypings

open QueryTypings.Text

/-- Where a path begins. -/
inductive Path.Origin
  | here | root | doubleRoot
deriving Repr, BEq, DecidableEq, Inhabited

/-- A path. -/
structure Path where
  origin : Path.Origin
  parts : List String
deriving Repr, BEq, DecidableEq, Inhabited

namespace Path

/-! ## Text -/

/-- The slashes at the beginning decide where a path begins. -/
def Origin.ofChars : List Char → Origin
  | '/' :: '/' :: '/' :: _ => .root
  | '/' :: '/' :: _ => .doubleRoot
  | '/' :: _ => .root
  | _ => .here

/-- The part names something: it is neither empty nor a single dot. -/
def isPart (part : List Char) : Bool := !part.isEmpty && part != ['.']

/-- The path that a text writes. -/
def ofChars (cs : List Char) : Path :=
  ⟨.ofChars cs, ((splitAt '/' cs).filter isPart).map String.ofList⟩

/-- The path that a text writes. -/
def ofText (s : String) : Path := ofChars s.toList

/-- The slashes with which a path begins. -/
def Origin.text : Origin → String
  | .here => ""
  | .root => "/"
  | .doubleRoot => "//"

/-- The path as text; the path without any part is a dot. -/
def text (p : Path) : String :=
  match p.origin, p.parts with
  | .here, [] => "."
  | o, parts => o.text ++ joinWith "/" parts

/-! ## Parts -/

/-- The path begins at a root. -/
def isAbsolute (p : Path) : Bool := p.origin != .here

/-- The last part, empty if there is none. -/
def name (p : Path) : String := p.parts.getLastD ""

/-- The path without its last part. -/
def parent (p : Path) : Path := { p with parts := p.parts.dropLast }

/-- The path with another last part. -/
def withName (p : Path) (name : String) : Path := { p with parts := p.parts.dropLast ++ [name] }

/-- The second path, taken from the first one if it is relative. -/
def join (base p : Path) : Path :=
  if p.isAbsolute then p else { base with parts := base.parts ++ p.parts }

/-- Cuts a name before its last dot, if that is neither the first nor the last character; otherwise
    there is no second half. -/
def splitName (name : String) : String × String :=
  let back := name.toList.reverse
  let extension := (back.takeWhile (· != '.')).reverse
  match back.dropWhile (· != '.') with
  | _ :: front =>
      if extension.isEmpty || front.isEmpty then (name, "")
      else (String.ofList front.reverse, String.ofList ('.' :: extension))
  | [] => (name, "")

/-- The last part without its extension. -/
def stem (p : Path) : String := (splitName p.name).1

/-- The extension of the last part, with its dot; empty if there is none. -/
def extension (p : Path) : String := (splitName p.name).2

/-- One of the parts holds NUL, which no name can. -/
def hasNul (p : Path) : Bool := p.parts.any fun n => n.toList.contains '\x00'

/-! ## Normal form -/

/-- Adds a part to the parts before it, the last of which comes first. -/
def resolvePart (absolute : Bool) (before : List String) (part : String) : List String :=
  if part ≠ ".." then part :: before
  else match before with
    | [] => if absolute then [] else [".."]
    | last :: rest => if last = ".." then ".." :: before else rest

/-- The path without two dots, those at the beginning of a relative path excepted. -/
def normalized (p : Path) : Path :=
  { p with parts := (p.parts.foldl (resolvePart p.isAbsolute) []).reverse }

/-- The normal form of a path, taken from a working directory if it is relative. -/
def absolute (cwd p : Path) : Path := (cwd.join p).normalized

/-- The place that a path denotes: its absolute normal form, where a double root is the root. -/
def resolved (cwd p : Path) : Path := { absolute cwd p with origin := .root }

/-- What is left of a list behind another one, if it begins with that. -/
def dropFront? : List String → List String → Option (List String)
  | [], r => some r
  | a :: p, b :: r => if a = b then dropFront? p r else none
  | _ :: _, [] => none

/-- The way from a directory down to a path inside it, or to itself. -/
def inside? (directory p : Path) : Option (List String) :=
  if directory.origin = p.origin then dropFront? directory.parts p.parts else none

/-- The path is the directory or lies inside it. -/
def contains (directory p : Path) : Bool := (inside? directory p).isSome

/-- The path lies inside the directory. -/
def isBelow (directory p : Path) : Bool :=
  match inside? directory p with
  | some (_ :: _) => true
  | _ => false

/-- Drops what two lists have in common at the beginning. -/
def dropCommon : List String → List String → List String × List String
  | a :: p, b :: r => if a = b then dropCommon p r else (a :: p, b :: r)
  | p, r => (p, r)

/-- The way from a directory to a path: up to where they part, then down.  Both are taken from the
    working directory, and where a root begins makes no difference. -/
def relativeTo (cwd p directory : Path) : Path :=
  let apart := dropCommon (absolute cwd directory).parts (absolute cwd p).parts
  ⟨.here, apart.1.map (fun _ => "..") ++ apart.2⟩

end Path

end QueryTypings
