/-
  Keeping declarations up to date.

  A writer belongs to a base directory and an output directory.  For a query file below the base it
  writes the declaration to the file's place below the output directory, or removes it from there.
  What the schema's declaration exports is known by name; a declaration imports the names that it
  mentions.
-/
import QueryTypings.Declaration.Operations
import QueryTypings.Declaration.SchemaFile
import QueryTypings.Exported.Documents
import QueryTypings.Project.Fault
import QueryTypings.Text.Identifiers
import QueryTypings.World

namespace QueryTypings

open QueryTypings.Text QueryTypings.Typescript

/-- A writer of declarations. -/
structure Writer where
  schema : Schema
  scalars : OrderedMap String
  base : Path
  outDir : Path
  schemaFile : Path
  /-- The names that the schema's declaration exports. -/
  registry : List String

namespace Writer

/-! ## Paths -/

/-- The path of a query file from the base directory. -/
def relativeSource (cwd : Path) (w : Writer) (source : String) : Except Path.Fault Path :=
  let p := Path.ofText source
  if !p.isAbsolute then .ok p
  else if p.hasNul then .error (.outside w.base.text source)
  else match w.base.inside? (Path.resolved cwd p) with
    | some parts => .ok ⟨.here, parts⟩
    | none => .error (.outside w.base.text source)

/-- The path of the declaration of a query file. -/
def artifact (cwd : Path) (w : Writer) (source : String) : Except Path.Fault Path := do
  let relative ← w.relativeSource cwd source
  Path.artifact cwd relative.text w.outDir.text

/-! ## Texts -/

/-- The registered names that a text mentions. -/
def mentioned (w : Writer) (text : String) : List String := w.registry.filter (mentions text)

/-- The statements that declare the documents of a source. -/
def statements (w : Writer) (relative : Path) (source : String) :
    Except Failure (List Statement) :=
  match Check.accepted w.schema source with
  | .error f => .error (.ofQuery f (some relative))
  | .ok d =>
      match Declaration.documentStatements w.schema w.scalars d with
      | .error f => .error (.broken (.shape f))
      | .ok ss => .ok ss

/-- The text of a declaration: the import of what it mentions, its statements, and a last one that
    makes it a module. -/
def declarationText (cwd : Path) (w : Writer) (artifact : Path) (body : List Statement) : String :=
  let names := w.mentioned (Declaration.statementsText body)
  let specifier := (Path.importSpecifier? cwd artifact.text w.schemaFile.text).getD ""
  Declaration.statementsText (.importTypes names specifier :: body ++ [.exportNothing]) ++ "\n"

/-- The script module of a source. -/
def script (w : Writer) (source : String) : Except Failure String :=
  match Check.accepted w.schema source with
  | .error f => .error (.ofQuery f none)
  | .ok d => .ok (Exported.scriptModule d)

/-! ## Writing -/

/-- The text of a query file. -/
def sourceText (world : World) (file : Path) : Except Failure String :=
  if file.hasNul then .error (.broken .nulInPath)
  else match world.read file with
    | .error r => .error (.reported (.unreadable file r))
    | .ok octets =>
        match fileText octets with
        | .error e => .error (.reported (.undecodable file e))
        | .ok text => .ok text

/-- The place of a query file's declaration and its text. -/
def compose (w : Writer) (world : World) (source : String) : Except Failure (Path × String) := do
  let relative ← (w.relativeSource world.cwd source).mapError fun f => .reported (.path f)
  let artifact ← (Path.artifact world.cwd relative.text w.outDir.text).mapError fun f =>
    .reported (.path f)
  let text ← sourceText world (w.base.join relative)
  let body ← w.statements relative text
  return (artifact, w.declarationText world.cwd artifact body)

/-- Puts a text in a file, with the directories that it needs. -/
def putText (trouble : FileTree.Trouble) (t : FileTree) (file : Path) (text : String) :
    FileTree.Passage :=
  match t.openWay trouble file.parent.parts with
  | (p, some _) => p
  | (p, none) =>
      let q := p.last.replaceFile trouble file.parent.parts file.name (encodeUtf8 text.toList)
      { q with before := q.before ++ p.before }

/-- What goes wrong for reasons that neither the paths nor the tree show. -/
inductive Setback
  /-- The query file cannot be read, or its declaration cannot be generated. -/
  | composing (f : Failure)
  /-- The declaration cannot be put in its place. -/
  | putting (trouble : FileTree.Trouble)

/-- Nothing goes wrong for such reasons. -/
def Setback.nothing : Setback := .putting .nothing

/-- What putting a declaration in its place comes to. -/
def settled (artifact : Path) (p : FileTree.Passage) : FileTree.Passage × Except Failure Path :=
  match p.refusal with
  | some r => (p, .error (.reported (.unwritable artifact r)))
  | none => (p, .ok artifact)

/-- A write of the declaration of a query file: the trees that it passes through, and the path of
    the declaration or why there is none. -/
def writing (setback : Setback) (w : Writer) (world : World) (source : String) :
    FileTree.Passage × Except Failure Path :=
  match w.compose world source, setback with
  | .error f, _ => (⟨world.tree, [], none⟩, .error f)
  | .ok _, .composing f => (⟨world.tree, [], none⟩, .error f)
  | .ok (artifact, text), .putting trouble =>
      settled artifact (putText trouble world.tree artifact text)

/-- Writes the declaration of a query file, where something may go wrong.  Nothing is written unless
    there is one. -/
def attempt (setback : Setback) (w : Writer) (world : World) (source : String) :
    Except Failure Path × World :=
  let (p, result) := w.writing setback world source
  let after := { world with tree := p.last }
  match result with
  | .error f => (.error f, after)
  | .ok artifact => (.ok artifact, after.say .debug ("Wrote " ++ artifact.text))

/-- Writes the declaration of a query file. -/
def write (w : Writer) (world : World) (source : String) : Except Failure Path × World :=
  w.attempt .nothing world source

/-- Removes the declaration of a query file; says whether there was one. -/
def remove (w : Writer) (world : World) (source : String) : Except Failure Bool × World :=
  match w.artifact world.cwd source with
  | .error f => (.error (.reported (.path f)), world)
  | .ok artifact =>
      if artifact.hasNul then (.error (.broken .nulInPath), world)
      else match world.tree.removeFile artifact.parts with
        | .error .missing => (.ok false, world)
        | .error r => (.error (.reported (.unremovable artifact r)), world)
        | .ok t =>
            (.ok true, { world with tree := t }.say .debug ("Removed " ++ artifact.text))

end Writer

end QueryTypings
