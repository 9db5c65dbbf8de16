/-
  Which reported files matter.

  Files below directories of tools and version control are passed over, so are files whose names
  belong to editors and compilers, and every path that begins with the text of the schema's path.
-/
import QueryTypings.Config.Basic

namespace QueryTypings.Config

open QueryTypings.Text

/-- The directories that are passed over. -/
def ignoredDirectories : List String :=
  ["__pycache__", ".git", ".hg", ".svn", ".tox", ".venv", ".idea", "node_modules", ".mypy_cache",
    ".pytest_cache", ".hypothesis"]

/-- A pattern for a part of a name: the characters themselves, one of several, or any character of a
    line. -/
inductive NamePart
  | exactly (c : Char)
  | oneOf (cs : List Char)
  | any
deriving Repr, BEq

/-- The part fits a character. -/
def NamePart.fits (p : NamePart) (c : Char) : Bool :=
  match p with
  | .exactly d => c == d
  | .oneOf ds => ds.contains c
  | .any => c != '\n'

/-- The parts fit the characters one by one. -/
def fitsAll : List NamePart → List Char → Bool
  | [], [] => true
  | p :: ps, c :: cs => p.fits c && fitsAll ps cs
  | _, _ => false

/-- The characters of a text as parts. -/
def literalParts (s : String) : List NamePart := s.toList.map .exactly

/-- The ends of names that are passed over: compiled files, backups and swap files. -/
def ignoredEndings : List (List NamePart) :=
  [literalParts ".py" ++ [.oneOf ['c', 'o', 'd']],
    literalParts ".___jb_" ++ [.any, .any, .any] ++ literalParts "___",
    literalParts ".sw" ++ [.any],
    literalParts "~"]

/-- The name ends in a pattern; a line feed at the very end does not count. -/
def endsIn (pattern : List NamePart) (name : List Char) : Bool :=
  let ends (cs : List Char) : Bool := fitsAll pattern (cs.drop (cs.length - pattern.length))
  ends name || (name.getLast? == some '\n' && ends name.dropLast)

/-- The name is passed over. -/
def isIgnoredName (name : List Char) : Bool :=
  ignoredEndings.any (endsIn · name) || ".#".toList.isPrefixOf name
    || name == ".DS_Store".toList || name == ".DS_Store\n".toList
    || "flycheck_".toList.isPrefixOf name

/-- A reported path is passed over. -/
def passesOver (cwd : Path) (c : Config) (path : String) : Bool :=
  let parts := splitAt '/' (path.toList.dropWhile (· == '/'))
  parts.any (fun p => ignoredDirectories.contains (String.ofList p))
    || isIgnoredName (parts.getLastD [])
    || (c.resolvedSchema cwd).text.toList.isPrefixOf path.toList

/-- Whether a reported path is that of a query file that matters, if it has a place. -/
def reports? (cwd : Path) (c : Config) (path : String) : Option Bool :=
  if c.passesOver cwd path then some false else c.accepts? cwd (Path.ofText path)

end QueryTypings.Config
