import CallExcerpt.Graph.Report
import CallExcerpt.Json.Writer
import CallExcerpt.Tools.Arguments
import CallExcerpt.Tools.Catalogue

/-! # Calls of tools

    A call names a tool and brings arguments; the answer is a text that holds
    JSON. The graph is loaded by the first call that needs it, and kept. A
    fault that the caller can do something about is told in the answer; others
    end the call.
-/

namespace CallExcerpt.Tools

/-- Where tools work: a station, and the graph once it is loaded. -/
structure Workshop extends Station where
  /-- The graph. -/
  graph : Option Graph := none

/-- Works in a workshop, or fails. -/
abbrev Calling := EStateM Fault Workshop

namespace Calling

/-- Work at the station. -/
def onStation {α : Type} (x : Serving α) : Calling α :=
  fun s =>
    match x s.toStation with
    | .ok a station => .ok a { s with toStation := station }
    | .error e station => .error (.failure e) { s with toStation := station }

/-- Fails unless a computation succeeds. -/
def ofExcept {α : Type} : Except Fault α → Calling α
  | .ok a => pure a
  | .error e => throw e

end Calling

/-- The graph, loaded if it was not. -/
def theGraph : Calling Graph := do
  let s ← get
  match s.graph with
  | some g => return g
  | none =>
    let source := (s.world.settings.lookup "CALLSLICE_GRAPH").getD ""
    if source = "" then throw .noSource
    else
      let g ← Calling.onStation (Serving.onWorld (Service.loadGraph (Path.ofString source)))
      modify fun s => { s with graph := some g }
      return g

/-- An excerpt as JSON. -/
def excerptReport (e : Excerpt) : Json :=
  let locations (a : Arrow) : List Json :=
    match a.label with
    | none => []
    | some label => if label = "" then [] else (Text.splitAt '\n' label).map .text
  .object [
    ("root", .text e.root),
    ("edges", .list (e.arrows.map fun a =>
      .object [
        ("from", .text a.source),
        ("to", .text a.target),
        ("locations", .list (locations a))])),
    ("nodes", .list (e.members.map .text)),
    ("files", .list (e.files.map .text)),
    ("description", .text e.description)]

/-- An argument with a value for its absence. -/
def given (name : String) (default : Json) (ms : List (String × Json)) : Json :=
  (Json.lookup name ms).getD default

/-- Draws the excerpt of a root. -/
def extract (arguments : Json) : Calling Json := do
  let ms ← Calling.ofExcept (members arguments)
  let direction ← Calling.ofExcept (directionOf (given "direction" (.text "forward") ms))
  let root ← Calling.ofExcept (required "root" ms)
  let ignore ← Calling.ofExcept (itemsOf (given "ignore" (.list []) ms))
  let ignorePatterns ← Calling.ofExcept (itemsOf (given "ignore_patterns" (.list []) ms))
  let shown ← Calling.ofExcept (itemsOf (given "show" (.list []) ms))
  let maxDepth ← Calling.ofExcept (depthOf (given "max_depth" .null ms))
  let g ← theGraph
  let goal ←
    match given "end_function" .null ms with
    | .null => pure none
    | v => do
      let s ← Calling.ofExcept (symbolOf g v)
      pure (some s.name)
  let ignore ← Calling.ofExcept (namesOf ignore)
  let ignorePatterns ← Calling.ofExcept (patternsOf (← get).world.fits ignorePatterns)
  let shown ← Calling.ofExcept (namesOf shown)
  let symbol ← Calling.ofExcept (symbolOf g root)
  let flag (name : String) : Bool := (given name (.bool false) ms).isTruthy
  let r : Request := {
    roots := [symbol.name]
    direction
    maxDepth
    ignore
    ignorePatterns := ignorePatterns.map (·.source)
    shown
    trim := flag "trim"
    noExtern := flag "no_extern"
    goal
    allLocations := flag "all_locations" }
  let e ← Calling.onStation (Service.extract g symbol.name r)
  return excerptReport e

/-- The symbols whose names match a pattern. -/
def find (arguments : Json) : Calling Json := do
  let ms ←
    match arguments with
    | .object ms => pure ms
    | _ => throw .wrongKind
  let patternValue ← Calling.ofExcept (required "pattern" ms)
  let patterns ← Calling.ofExcept (patternsOf (← get).world.fits [patternValue])
  let g ← theGraph
  let found := g.matching fun name => Filters.matchesAny patterns name
  let limit ← Calling.ofExcept (limitOf (given "limit" (.int 50) ms))
  return .object [
    ("results", .list ((Graph.limited limit found).map g.symbolReport)),
    ("total", .int found.length)]

/-- The counts of the graph. -/
def stats : Calling Json := return (← theGraph).countsReport

/-- The result of a tool. -/
def result (tool : String) (arguments : Json) : Calling Json :=
  if tool = extractOffer.name then extract arguments
  else if tool = findOffer.name then find arguments
  else if tool = statsOffer.name then stats
  else return .object [("error", .text s!"Unknown tool: {tool}")]

/-- The answer to a call. -/
def call (tool : String) (arguments : Json) : Calling String := do
  try
    let v ← result tool arguments
    return v.pretty
  catch fault =>
    match fault.told? with
    | some text => return Json.line (.object [("error", .text text)])
    | none => throw fault

end CallExcerpt.Tools
