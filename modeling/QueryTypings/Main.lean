/-
  The program.

  It reads what a command line is about from the disk into a tree, lets the command act on the tree,
  and does on the disk what has been done to the tree.  While files are watched it looks at them
  again and again, and reports what changed in between.
-/
import QueryTypings.CommandLine.Run
import QueryTypings.Watch.Watcher

namespace QueryTypings.Program

open QueryTypings.CommandLine

/-! ## From the disk -/

/-- The octets of a file. -/
def readOctets (path : String) : IO (List Nat) := do
  let bytes ← IO.FS.readBinFile path
  return bytes.toList.map UInt8.toNat

/-- The text of the place where names lead. -/
def placeText (names : List String) : String := (Path.mk .root names).text

/-- Adds a place, with everything below it if so wanted. -/
partial def addPlace (deep : Bool) (t : FileTree) (names : List String) : IO FileTree := do
  let place := (← IO.currentDir) / placeText names
  if ← place.isDir then
    let t := if names.isEmpty then t else t.put names .directory
    if deep then
      (← place.readDir).foldlM (fun t e => addPlace true t (names ++ [e.fileName])) t
    else return t
  else if ← place.pathExists then
    return t.put names (.file (← readOctets (placeText names)))
  else return t

/-- Adds the places on the way along names, and everything below the last one if so wanted. -/
def addWay (deep : Bool) (t : FileTree) (names : List String) : IO FileTree := do
  let step (s : FileTree × List String) (name : String) : IO (FileTree × List String) := do
    let place := if name = ".." then s.2.dropLast else s.2 ++ [name]
    return (← addPlace false s.1 place, place)
  let (t, place) ← names.foldlM step (t, [])
  if deep then addPlace true t place else return t

/-- The variables that settings come from. -/
def variableNames : List String :=
  ["TYPED_GQL_SCHEMA", "TYPED_GQL_SCALARS", "TYPED_GQL_SEARCH_DIR", "TYPED_GQL_EXTENSIONS",
    "TYPED_GQL_VIRTUAL_DIR", "TYPED_GQL_BASE_DIR", "TYPED_GQL_STARTUP_TIMEOUT_MS"]

/-- The variables that are set. -/
def environment : IO (OrderedMap String) := do
  let found ← variableNames.mapM fun n => do return (← IO.getEnv n).map (n, ·)
  return found.filterMap id

/-- The directory for declarations of a configuration. -/
def virtualRoot (cwd : Path) (c : Config) : Path :=
  Path.resolved cwd ((c.resolvedBase cwd).join c.virtualDir)

/-- What a build of a configuration is about. -/
def readProject (cwd : Path) (c : Config) : IO FileTree := do
  let t ← addWay false .empty (c.resolvedBase cwd).parts
  let t ← addWay false t (c.resolvedSchema cwd).parts
  let t ← addWay true t (c.resolvedSearch cwd).parts
  addWay true t (virtualRoot cwd c).parts

/-! ## To the disk -/

/-- The places of a tree, those further down last. -/
def placesDown (t : FileTree) : List (List String × Entry) :=
  t.entries.mergeSort fun a b => a.1.length ≤ b.1.length

/-- Does on the disk what makes one tree another. -/
def apply (before after : FileTree) : IO Unit := do
  for (names, e) in (placesDown before).reverse do
    if after.entry? names != some e then
      match e, after.entry? names with
      | .file _, some (.file _) => pure ()
      | .file _, _ => IO.FS.removeFile (placeText names)
      | .directory, _ => IO.FS.removeDir (placeText names)
  for (names, e) in placesDown after do
    if before.entry? names != some e then
      match e with
      | .directory => IO.FS.createDir (placeText names)
      | .file octets =>
          let other := placeText (names.dropLast ++ ["." ++ names.getLastD "" ++ ".tmp"])
          IO.FS.writeBinFile other (ByteArray.mk (octets.map UInt8.ofNat).toArray)
          IO.FS.rename other (placeText names)

/-! ## Commands -/

/-- Prints reports that matter enough. -/
def printLog (verbose : Bool) (log : List LogLine) : IO Unit := do
  for l in log do
    if verbose || l.level != .debug then IO.eprintln l.message

/-- What goes up from a run, in words. -/
def escapeText : Escape → String
  | .environment (.scalars .malformed) => "TYPED_GQL_SCALARS is not valid JSON"
  | .environment (.scalars f) => f.message
  | .environment (.timeout s f) => Config.integerMessage s f
  | .environment (.invalid vs) => Config.violationReport vs
  | .broken b => if b.message = "" then "unexpected selection" else b.message
  | .noWatcher => "no watcher"
  | .markup .notOpen => "a closing tag does not match any open tag"
  | .markup .noLiteral => "the parameters of a tag are no literal value"
  | .markup .noNumber => "a part of a colour is no number"

/-- Prints how a run ends, and yields its code. -/
def finish : Ending → IO UInt32
  | .exit code output => do
      if code = 2 then IO.eprint output else IO.print output
      return UInt32.ofNat code
  | .escape e => do
      IO.eprintln ("Error: " ++ escapeText e)
      return 1

/-- Looks at the query files every so often, and lets a build handle what changed. -/
partial def follow (verbose : Bool) (c : Config) (p : Plugin Watch.Watcher) (world : World) :
    IO UInt32 := do
  IO.sleep 500
  let tree ← readProject world.cwd c
  let batch := Watch.differences (c.resolvedSearch world.cwd) world.tree tree
  let fed (w : Watch.Watcher) : Watch.Watcher := { w with feed := ⟨[batch], .stays⟩ }
  let p := { p with watcher := p.watcher.map fed }
  let (p, after) := p.await watching { world with tree := tree, log := [] }
  apply tree after.tree
  printLog verbose after.log
  follow verbose c p after

/-- Writes all declarations and keeps them up to date. -/
def watchForever (verbose : Bool) (c : Config) (world : World) : IO UInt32 := do
  match (Plugin.fresh c).buildStart watching world with
  | (.error f, _, after) =>
      apply world.tree after.tree
      finish (notBuilt f)
  | (.ok (), p, after) =>
      let (p, after) := p.await watching after
      apply world.tree after.tree
      printLog verbose after.log
      match shownLine (watchingLine world.cwd c) with
      | .error f => finish (.escape (.markup f))
      | .ok line =>
          IO.print line
          follow verbose c p after

/-- Runs a command line. -/
def run (arguments : List String) : IO UInt32 := do
  let cwd := Path.ofText (← IO.currentDir).toString
  let settings ← environment
  let verbose := match sortWords generalSettings true arguments with
    | .ok w => isGiven .verbose w.options
    | .error _ => false
  let configured (options : List (Setting × String)) : Option Config :=
    (configOf cwd settings options).toOption
  let tree ← match request arguments with
    | .ok (.compile path _ options) => do
        let t ← addWay false .empty (cwd.join (Path.ofText path)).parts
        match configured options with
        | some c => addWay false t (c.resolvedSchema cwd).parts
        | none => pure t
    | .ok (.generate options) | .ok (.watch options) =>
        match configured options with
        | some c => readProject cwd c
        | none => pure .empty
    | _ => pure .empty
  let world : World := ⟨cwd, tree, []⟩
  match request arguments with
  | .ok (.watch options) =>
      match configOf cwd settings options with
      | .ok c => watchForever verbose c world
      | .error f => finish (notConfigured f)
  | _ =>
      let (ending, after) := CommandLine.run settings arguments world
      apply tree after.tree
      printLog verbose after.log
      finish ending

end QueryTypings.Program

/-- The program. -/
def main (arguments : List String) : IO UInt32 := QueryTypings.Program.run arguments
