/-
  What the commands do.

  `generate` lets a build begin and end, and reports how many declarations it wrote.  `watch` lets
  it go on until somebody ends it.  `compile` prints the module of one query file, or its
  declaration.  Problems with options and settings end a run with code 2, other ones that are
  expected with code 1; what nobody expects goes up.
-/
import QueryTypings.CommandLine.Arguments
import QueryTypings.CommandLine.Markup
import QueryTypings.Config.Report
import QueryTypings.Project.Plugin

namespace QueryTypings.CommandLine

open QueryTypings.Text

/-- What goes up from a run. -/
inductive Escape
  | environment (fault : Config.EnvironmentFault)
  | broken (breakdown : Breakdown)
  | noWatcher
  | markup (fault : MarkupFault)
deriving Repr, BEq

/-- How a run ends: with a code and what it printed, or with something that goes up. -/
inductive Ending
  | exit (code : Nat) (output : String)
  | escape (e : Escape)
deriving Repr, BEq

/-! ## Printing -/

/-- Ends a run after lines for the console. -/
def printed (code : Nat) (lines : List String) : Ending :=
  match lines.mapM shownLine with
  | .ok shown => .exit code (String.join shown)
  | .error f => .escape (.markup f)

/-- The line for a run that does not begin. -/
def startFailure (message : String) : String := "[red]Initialization failed:[/red] " ++ message

/-- Ends a run that does not begin. -/
def notStarted (f : StartFault) : Ending :=
  match f.breakdown? with
  | some b => .escape (.broken b)
  | none => printed 1 [startFailure f.message]

/-- Ends a build that does not begin. -/
def notBuilt : BuildFault → Ending
  | .start f => notStarted f
  | .noWatcher => .escape .noWatcher
  | .broken b => .escape (.broken b)

/-- Ends a run without a configuration. -/
def notConfigured : ConfigFault → Ending
  | .usage f => .exit 2 (f.message ++ "\n")
  | .environment (.invalid vs) =>
      printed 2 ["[red]Invalid configuration:[/red] " ++ Config.violationReport vs]
  | .environment f => .escape (.environment f)

/-! ## Commands -/

/-- The feed of a watcher while nothing changes. -/
def quietFeed : Watch.Feed := ⟨[], .stays⟩

/-- The watcher that commands use. -/
def watching : Watching Watch.Watcher := Watch.Watcher.watching quietFeed

/-- The lines that tell what a build has written. -/
def generatedLines (a : Activity) : List String :=
  ("[green]Generated[/green] " ++ toString a.counts.generated ++ " declaration(s) in "
      ++ a.writer.outDir.text)
    :: if a.counts.failed = 0 then []
       else ["[red]Failed[/red] " ++ toString a.counts.failed ++ " file(s)"]

/-- Writes all declarations once. -/
def generate (c : Config) (world : World) : Ending × World :=
  match (Plugin.fresh c).session watching world fun p world => ((), p, world) with
  | (.error f, _, world) => (notBuilt f, world)
  | (.ok (), p, world) =>
      match p.activity with
      | none => (.escape (.broken .noPath), world)
      | some a => (printed (if a.counts.failed = 0 then 0 else 1) (generatedLines a), world)

/-- The line that tells where query files are watched. -/
def watchingLine (cwd : Path) (c : Config) : String :=
  "[green]Watching[/green] " ++ (c.resolvedSearch cwd).text ++ " (Ctrl+C to stop)"

/-- Writes all declarations and keeps them up to date until somebody ends the run. -/
def watch (c : Config) (world : World) : Ending × World :=
  match (Plugin.fresh c).session watching world fun p world => ((), p.await watching world) with
  | (.error f, _, world) => (notBuilt f, world)
  | (.ok (), _, world) => (printed 0 [watchingLine world.cwd c, "Stopped."], world)

/-- Drops line feeds from the end. -/
def withoutLastBreaks (s : String) : String :=
  String.ofList (s.toList.reverse.dropWhile (· == '\n')).reverse

/-- The module of a source, or its declaration. -/
def compiled (s : Schema) (scalars : OrderedMap String) (declaration : Bool) (source : String) :
    Except Failure String :=
  match Check.accepted s source with
  | .error f => .error (.ofQuery f none)
  | .ok d =>
      if declaration then
        match Declaration.documentStatements s scalars d with
        | .error f => .error (.broken (.shape f))
        | .ok ss => .ok (Declaration.statementsText (ss ++ [.exportNothing]))
      else .ok (Exported.scriptModule d)

/-- Prints the module of one query file, or its declaration. -/
def compile (c : Config) (path : String) (declaration : Bool) (world : World) : Ending :=
  let p := Path.ofText path
  if c.baseDir.hasNul || c.schemaPath.hasNul then .escape (.broken .nulInPath)
  else match loadSchema world (c.resolvedSchema world.cwd) with
  | .error f => notStarted (.schema f)
  | .ok s =>
      match world.read p with
      | .error r => printed 1 ["[red]Cannot read[/red] " ++ p.text ++ ": "
          ++ r.report (quoted p.text)]
      | .ok octets =>
          match fileText octets with
          | .error e => .escape (.broken (.undecodable e))
          | .ok source =>
              match compiled s c.scalars declaration source with
              | .ok output => .exit 0 (withoutSequences (withoutLastBreaks output ++ "\n"))
              | .error (.broken b) => .escape (.broken b)
              | .error (.reported f) =>
                  printed 1 ["[red]Invalid query[/red] " ++ p.text ++ ": " ++ f.message]

/-- Does what a command line asks for. -/
def run (environment : OrderedMap String) (arguments : List String) (world : World) :
    Ending × World :=
  let configured (options : List (Setting × String)) (go : Config → Ending × World) :
      Ending × World :=
    match configOf world.cwd environment options with
    | .error f => (notConfigured f, world)
    | .ok c => go c
  match request arguments with
  | .error f => (.exit 2 (f.message ++ "\n"), world)
  | .ok .help => (.exit 0 "", world)
  | .ok (.generate options) => configured options fun c => generate c world
  | .ok (.watch options) => configured options fun c => watch c world
  | .ok (.compile path declaration options) =>
      configured options fun c => (compile c path declaration world, world)

end QueryTypings.CommandLine
