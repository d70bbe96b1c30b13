import CallExcerpt.Channel.Reception
import CallExcerpt.Command.Invocation
import CallExcerpt.Console.Rendering
import CallExcerpt.Graph.Report
import CallExcerpt.Json.Writer

/-! # Running commands

    A command works at a station and ends with an exit code. A failure of the
    program's own is told on standard error and ends it with code one; any
    other failure breaks it off.
-/

namespace CallExcerpt.Command

/-- How a command ends before its last step. -/
inductive Stop where
  /-- With an exit code. -/
  | exit (code : Nat)
  /-- Broken off by a failure of a kind. -/
  | breakdown (word : String)
  deriving Repr, DecidableEq

/-- Runs a command. -/
abbrev Running := EStateM Stop Station

/-! ## Lines on the console -/

/-- Shows a line with markup on standard output, or on standard error. -/
def say (onError : Bool) (text : String) : Running Unit :=
  match Console.shown text with
  | .error fault => throw (.breakdown fault.word)
  | .ok shown => modify fun s =>
    if onError then { s with world.complained := s.world.complained ++ shown }
    else { s with world.printed := s.world.printed ++ shown }

/-- Work whose failure ends the command. -/
def perform {α : Type} (x : Serving α) : Running α := fun s =>
  match x s with
  | .ok a s => .ok a s
  | .error failure s =>
    if failure.isOwn then
      match say true s!"[red]Error:[/red] {failure.message}" s with
      | .ok _ s => .error (.exit 1) s
      | .error stop s => .error stop s
    else .error (.breakdown failure.family.word) s

/-- An action on the world whose failure ends the command. -/
def act {α : Type} (x : Action α) : Running α := perform (Serving.onWorld x)

/-- Writes a value on one line of standard output. -/
def printJson (v : Json) : Running Unit := act (Action.print (v.line ++ "\n"))

/-! ## Commands -/

/-- The version of the program. -/
def versionText : String := "0.1.0"

/-- Begins to log. -/
def beginLog (verbose : Bool) (logFile : Option Path) : Running Unit := do
  let _ ← act (LogFile.setUp (if verbose then "DEBUG" else "INFO") logFile)

/-- Shows the counts of a graph. -/
def stats (source : Path) (json : Bool) : Running Unit := do
  let g ← act (Service.loadGraph source)
  if json then printJson g.countsReport
  else
    say false s!"Nodes: {g.symbolCount}"
    say false s!"Edges: {g.callCount}"
    say false s!"Externs: {g.externCount}"

/-- Shows one symbol that was found. -/
def sayFound (g : Graph) (s : Symbol) : Running Unit := do
  let kind := if s.isExtern then "extern" else s!"{(g.callees s.name).length} callees"
  say false s!"[cyan]{s.name}[/cyan] ({kind}, {(g.callers s.name).length} callers)"
  match s.location with
  | none => pure ()
  | some place => if place ≠ "" then say false s!"  {place}"

/-- Shows the symbols whose names match a pattern. -/
def find (source : Path) (patternText : String) (limit : Int) (json : Bool) : Running Unit := do
  let g ← act (Service.loadGraph source)
  let fits := (← get).world.fits
  let p ← perform (Serving.ofExcept .pattern (Filters.compileOne patternText fits))
  let found := g.matching p.isFoundIn
  let listed := Graph.limited (some limit) found
  if json then printJson (.list (listed.map g.symbolReport))
  else if found.isEmpty then say false s!"No matches for '[cyan]{patternText}[/cyan]'"
  else
    listed.forM (sayFound g)
    if limit < found.length then say false s!"[dim]... {found.length - limit} more[/]"

/-- Shows what became of one excerpt. -/
def sayExcerpt (onError : Bool) (e : Excerpt) : Running Unit := do
  let why := e.error.getD ""
  match e.status with
  | .ok =>
    let target := (e.artifact.map Path.toString).getD "stdout"
    say onError (s!"[green]{e.root}[/green]: {e.arrows.length} edges, {e.members.length} nodes "
      ++ s!"[dim]→ {target}[/]")
  | .empty => say onError s!"[yellow]{e.root}[/yellow]: empty result ({why})"
  | .notRendered =>
    say onError s!"[red]{e.root}[/red]: {why}"
    match e.kept with
    | some p => say onError s!"  [dim]Description kept at {p}[/]"
    | none => pure ()

/-- Draws excerpts. -/
def extract (source : Path) (r : Request) (logFile : Option Path) (verbose : Bool) :
    Running Unit := do
  beginLog verbose logFile
  perform (Serving.ofExcept .request r.validate)
  let g ← act (Service.loadGraph source)
  let excerpts ← perform (Service.handle g r)
  excerpts.forM (sayExcerpt (r.output = Path.dash))
  if excerpts.any (·.status = .notRendered) then throw (.exit 1)

/-- The path of an output from the root on, for a reader that stands elsewhere. -/
def outputFromRoot (w : World) (p : Path) : Running Path := do
  match w.expandHome? p with
  | none => throw (.breakdown "RuntimeError")
  | some p => return { w.absolute p with anchor := .root }

/-- Sends a request to a service. -/
def submit (r : Request) (pipe : Option Path) : Running Unit := do
  let w := (← get).world
  let output ← if r.output = Path.dash then pure r.output else outputFromRoot w r.output
  let r := { r with output }
  let path := pipe.getD w.defaultPipe
  perform (Serving.ofExcept .request r.validate)
  let record ← perform (Serving.ofExcept .record (Wire.encode r))
  let sent ← act (Reception.send path record)
  perform (Reception.unlessFailed sent)
  let roots := Text.joinWith Wire.nameSeparator (r.roots ++ r.rootPatterns)
  say false s!"[green]Submitted[/green] [cyan]{roots}[/cyan] to {path}"
  say false s!"  [dim]Output: {r.output}[/]"

/-- Serves the visitors of a request pipe. -/
def serve (source : Path) (pipe logFile : Option Path) (verbose : Bool) (visitors : List String) :
    Running Unit := do
  beginLog verbose logFile
  let g ← act (Service.loadGraph source)
  let path := pipe.getD (← get).world.defaultPipe
  perform (Reception.serve g path visitors)
  act (Action.note .whole .info "Daemon stopped")

/-- Does what a command line asks for. -/
def execute (visitors : List String) : Invocation → Running Unit
  | .help => act (Action.print "Filtered subgraphs of whole-program call graphs.\n")
  | .version => act (Action.print (versionText ++ "\n"))
  | .stats source json => stats source json
  | .find source text limit json => find source text limit json
  | .extract source r logFile verbose => extract source r logFile verbose
  | .submit r pipe => submit r pipe
  | .serve source pipe logFile verbose _ => serve source pipe logFile verbose visitors

/-- How a run ended. -/
inductive Ending where
  /-- With an exit code. -/
  | exits (code : Nat)
  /-- The command line asks for nothing that the program knows. -/
  | misused
  /-- Broken off by a failure of a kind. -/
  | breaksDown (word : String)
  deriving Repr, DecidableEq

/-- The exit code of a run. -/
def Ending.code : Ending → Nat
  | .exits code => code
  | .misused => 2
  | .breaksDown _ => 1

/-- Runs a command line; what visitors send reaches a service once its pipe is open. -/
def run (visitors : List String) (words : List String) (w : World) : Ending × World :=
  match read? w.settings words with
  | none => (.misused, w)
  | some invocation =>
    match execute visitors invocation { world := w } with
    | .ok _ s => (.exits 0, s.world)
    | .error (.exit code) s => (.exits code, s.world)
    | .error (.breakdown word) s => (.breaksDown word, s.world)

end CallExcerpt.Command
