/-
  Where the declaration of a query file lies.

  Under the root of all declarations a query file `a/name.ext` has the declaration
  `a/name.d.ext.ts`.  The rule can be read backwards.  A file whose declaration would lie outside
  the root has none.
-/
import QueryTypings.Path.Basic

namespace QueryTypings.Path

/-- Why a path has no counterpart. -/
inductive Fault
  | noExtension (source : String)
  | notRelative (source : String)
  | escapes (source : String)
  | notInside (artifact : String)
  | notArtifact (artifact : String)
  | outside (base source : String)
deriving Repr, BEq, DecidableEq

/-- The wording; the path stands as it was given. -/
def Fault.message : Fault → String
  | .noExtension s => "Query file has no extension: " ++ s
  | .notRelative s => "Query file path must be relative: " ++ s
  | .escapes s => "Query file escapes the virtual root: " ++ s
  | .notInside s => "Not under the virtual root: " ++ s
  | .notArtifact s => "Not a declaration artifact: " ++ s
  | .outside b s => "Query file is outside of " ++ b ++ ": " ++ s

/-- The name of the declaration of a file with a given stem and extension. -/
def artifactName (stem extension : String) : String := stem ++ ".d" ++ extension ++ ".ts"

/-- A normal path lies inside the root; nothing lies inside a root that begins with two slashes. -/
def isUnderRoot (root p : Path) : Bool := root.origin == .root && root.isBelow p

/-- The path of the declaration of a query file. -/
def artifact (cwd : Path) (source root : String) : Except Fault Path :=
  let s := ofText source
  if s.extension = "" then .error (.noExtension source)
  else if s.isAbsolute then .error (.notRelative source)
  else
    let root := (ofText root).normalized
    let joined := (root.join (s.withName (artifactName s.stem s.extension))).normalized
    if isUnderRoot (absolute cwd root) (absolute cwd joined) then .ok joined
    else .error (.escapes source)

/-- The text without a given end. -/
def dropSuffix? (suffix s : String) : Option String :=
  let back := s.toList.reverse
  if suffix.toList.reverse.isPrefixOf back then
    some (String.ofList (back.drop suffix.length).reverse)
  else none

/-- The name of the file that has a declaration of a given name. -/
def sourceName? (name : String) : Option String :=
  (dropSuffix? ".ts" name).bind fun inner =>
    let (stem, extension) := splitName inner
    match dropSuffix? ".d" stem with
    | none => none
    | some front => if extension = "" || front = "" then none else some (front ++ extension)

/-- The path of the query file that has a given declaration. -/
def source (cwd : Path) (artifact root : String) : Except Fault Path :=
  if artifact = "" then .error (.notInside artifact)
  else
    let way := relativeTo cwd (ofText artifact) (ofText root)
    if way.parts.head? = some ".." then .error (.notInside artifact)
    else match sourceName? way.name with
      | none => .error (.notArtifact artifact)
      | some name => .ok (way.withName name)

/-! ## Import specifiers -/

/-- The text before the last slash, without slashes at its end unless it has nothing else. -/
def directoryText (s : String) : String :=
  let back := s.toList.reverse.dropWhile (· != '/')
  let cut := back.dropWhile (· == '/')
  String.ofList (if cut.isEmpty then back.reverse else cut.reverse)

/-- How a file imports another one: the way from its directory, marked as a relative one unless it
    begins with a dot anyway.  There is no way to a path without text. -/
def importSpecifier? (cwd : Path) (fromFile target : String) : Option String :=
  if target = "" then none
  else
    let way := (relativeTo cwd (ofText target) (ofText (directoryText fromFile))).text
    some (if way.toList.head? = some '.' then way else "./" ++ way)

end QueryTypings.Path
