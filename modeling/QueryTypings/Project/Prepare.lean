/-
  The beginning of a run: the schema, and the directory for declarations.

  The schema is read from its file.  The directory is emptied and made anew for every run, with the
  declaration of the schema in it.  So it must not hold the base directory, nor anything else that
  has to stay.
-/
import QueryTypings.Project.Writer

/-! ## The schema -/

namespace QueryTypings

open QueryTypings.Text

/-- The schema in a file; messages show the path as it is given. -/
def loadSchema (world : World) (file : Path) : Except SchemaFault Schema :=
  if file.hasNul then .error (.broken .nulInPath)
  else match world.read file with
    | .error r => .error (.unreadable file r)
    | .ok octets =>
        match fileText octets with
        | .error e => .error (.broken (.undecodable e))
        | .ok text =>
            match Schema.ofText text with
            | .error (.unexaminable text o) => .error (.broken (.obstructed text o))
            | .error f => .error (.invalid file f)
            | .ok s => .ok s

end QueryTypings

/-! ## The directory -/

namespace QueryTypings.Writer

open QueryTypings.Text

/-- The name of the file with the schema's declaration. -/
def schemaFileName : String := "schema.d.ts"

/-- The name of the directory with the declarations of query files. -/
def typesName : String := "types"

/-- The first of some paths that is a directory or lies in it. -/
def heldBy? (root : Path) (kept : List Path) : Option Path := kept.find? root.contains

/-- The place of the directory for declarations. -/
def rootAt (cwd base virtualDir : Path) : Path :=
  Path.resolved cwd ((Path.resolved cwd base).join virtualDir)

/-- The places that must not be emptied: the base directory, and what is to be kept. -/
def keptAt (cwd base : Path) (kept : List Path) : List Path :=
  let base := Path.resolved cwd base
  base :: kept.map fun p => Path.resolved cwd (base.join p)

/-- How the system shows the names that lead to a place. -/
def shownNames (names : List String) : String := quoted (Path.mk .root names).text

/-- What goes wrong, for reasons that the tree does not show, when the directory is made. -/
inductive RootSetback
  /-- The directory cannot be emptied to the end. -/
  | emptying (left : List String → Bool) (r : Refusal) (subject : String)
  /-- What comes into the directory cannot be put in its place. -/
  | filling (trouble : FileTree.Trouble)

/-- Nothing goes wrong for such reasons. -/
def RootSetback.nothing : RootSetback := .filling .nothing

/-- Makes what comes into the directory: the directory for declarations of query files, and beside
    it the declaration of the schema. -/
def filledRoot (trouble : FileTree.Trouble) (t : FileTree) (root : Path) (text : String) :
    FileTree × Option RootFault :=
  match t.openWay trouble (root.parts ++ [typesName]) with
  | (p, some o) => (p.last, some (.refused root o.refusal (shownNames o.names)))
  | (p, none) =>
      let q := p.last.replaceFile trouble root.parts schemaFileName (encodeUtf8 text.toList)
      (q.last, q.refusal.map fun r =>
        .refused root r (shownNames (root.parts ++ [schemaFileName])))

/-- The directory as it is made: emptied if it is there, and filled. -/
def madeRoot (setback : RootSetback) (t : FileTree) (root : Path) (text : String) :
    FileTree × Option RootFault :=
  match t.lookUp root.parts, setback with
  | .ok (.file _), _ =>
      (t, some (.refused root .notDirectory ("PosixPath(" ++ quoted root.text ++ ")")))
  | .error .nameTooLong, _ => (t, some (.refused root .nameTooLong (quoted root.text)))
  | .ok .directory, .emptying left r subject =>
      (t.clearBelowBut root.parts left, some (.refused root r subject))
  | _, .emptying _ _ _ => filledRoot .nothing (t.clearBelow root.parts) root text
  | _, .filling trouble => filledRoot trouble (t.clearBelow root.parts) root text

/-- Makes the directory for declarations and a writer for it, where something may go wrong.  Paths are
    taken from the base directory. -/
def tryPrepare (setback : RootSetback) (s : Schema) (scalars : OrderedMap String)
    (base virtualDir : Path) (kept : List Path) (world : World) :
    Except StartFault Writer × World :=
  if (base :: virtualDir :: kept).any Path.hasNul then (.error (.broken .nulInPath), world)
  else
    let root := rootAt world.cwd base virtualDir
    match heldBy? root (keptAt world.cwd base kept) with
    | some p => (.error (.root (.holds root p)), world)
    | none =>
        let text := Declaration.schemaDeclaration s scalars
        match madeRoot setback world.tree root text with
        | (t, some f) => (.error (.root f), { world with tree := t })
        | (t, none) =>
            let registry := exportedTypes text
            let file := root.join ⟨.here, [schemaFileName]⟩
            let writer : Writer :=
              ⟨s, scalars, Path.resolved world.cwd base, root.join ⟨.here, [typesName]⟩, file,
                registry⟩
            (.ok writer, { world with tree := t }.say .info ("Wrote schema declaration with "
              ++ toString registry.length ++ " types to " ++ file.text))

/-- Makes the directory for declarations and a writer for it. -/
def prepare (s : Schema) (scalars : OrderedMap String) (base virtualDir : Path)
    (kept : List Path) (world : World) : Except StartFault Writer × World :=
  tryPrepare .nothing s scalars base virtualDir kept world

end QueryTypings.Writer
