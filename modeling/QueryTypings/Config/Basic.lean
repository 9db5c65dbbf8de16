/-
  The settings of a project.

  Relative paths are taken from the base directory, and that from the working directory.  A file is
  a query file if its extension, in lower case, is one of those that are set, and it is not the
  schema.
-/
import QueryTypings.OrderedMap
import QueryTypings.Path.Basic
import QueryTypings.Text.LowerCase

namespace QueryTypings

open QueryTypings.Text

/-- The settings of a project. -/
structure Config where
  schemaPath : Path
  scalars : OrderedMap String
  searchDir : Path
  extensions : List String
  virtualDir : Path
  baseDir : Path
  startupTimeoutMs : Int
deriving Repr, BEq

namespace Config

/-- The base directory, without two dots. -/
def resolvedBase (cwd : Path) (c : Config) : Path := Path.resolved cwd c.baseDir

/-- The schema file, taken from the base directory. -/
def resolvedSchema (cwd : Path) (c : Config) : Path :=
  Path.resolved cwd ((c.resolvedBase cwd).join c.schemaPath)

/-- The directory with the query files, taken from the base directory. -/
def resolvedSearch (cwd : Path) (c : Config) : Path :=
  Path.resolved cwd ((c.resolvedBase cwd).join c.searchDir)

/-- The patterns for query files, one for each extension. -/
def globPatterns (c : Config) : List String := c.extensions.map fun e => "**/*" ++ e

/-- The path has one of the extensions. -/
def hasExtension (c : Config) (p : Path) : Bool := c.extensions.contains (lowerString p.extension)

/-- One of the paths from which others are taken holds NUL. -/
def hasNul (c : Config) : Bool := c.baseDir.hasNul || c.schemaPath.hasNul || c.searchDir.hasNul

/-- Whether the path is that of a query file.  Where the extension is right, the place of the path
    counts, and a path that holds NUL has none. -/
def accepts? (cwd : Path) (c : Config) (p : Path) : Option Bool :=
  if !c.hasExtension p then some false
  else if p.hasNul then none
  else some (Path.resolved cwd ((c.resolvedBase cwd).join p) != c.resolvedSchema cwd)

end Config

end QueryTypings
