import CallExcerpt.Command.Numeral
import CallExcerpt.Command.Options
import CallExcerpt.Patience
import CallExcerpt.Request.Wire
import CallExcerpt.Text.Capital

/-! # Invocations

    What a command line asks for: a command with its options, each value read
    as what it stands for. A command line that asks for nothing the program
    knows has no invocation.
-/

namespace CallExcerpt.Command

open Number (Binary64)

/-- What a command line asks for. -/
inductive Invocation where
  /-- How to use the program. -/
  | help
  /-- The version. -/
  | version
  /-- The counts of a graph. -/
  | stats (graph : Path) (json : Bool)
  /-- The symbols whose names match a pattern. -/
  | find (graph : Path) (pattern : String) (limit : Int) (json : Bool)
  /-- Excerpts of a graph. -/
  | extract (graph : Path) (request : Request) (logFile : Option Path) (verbose : Bool)
  /-- A request to a service. -/
  | submit (request : Request) (pipe : Option Path)
  /-- A service. -/
  | serve (graph : Path) (pipe logFile : Option Path) (verbose : Bool) (budget : Binary64)

/-! ## Options -/

/-- Asks how to use a command. -/
def helpSwitch : Switch := { key := "help", long := "--help", valued := false }

/-- The options before the command. -/
def frontSwitches : List Switch := [
  { key := "version", long := "--version", short := 'V', valued := false }, helpSwitch]

/-- The graph source. -/
def graphSwitch : Switch :=
  { key := "graph", long := "--graph", short := 'g', setting := "CALLSLICE_GRAPH" }

/-- The request pipe. -/
def pipeSwitch : Switch := { key := "pipe", long := "--fifo", setting := "CALLSLICE_FIFO" }

/-- The log file and how much goes into it. -/
def logSwitches : List Switch := [
  { key := "log-file", long := "--log-file", setting := "CALLSLICE_LOG_FILE" },
  { key := "verbose", long := "--verbose", short := 'v', valued := false }]

/-- Results as JSON. -/
def jsonSwitch : Switch := { key := "json", long := "--json", short := 'j', valued := false }

/-- The options that make up a request. -/
def requestSwitches : List Switch := [
  { key := "root", long := "--root", short := 'r' },
  { key := "root-pattern", long := "--root-pattern", short := 'R' },
  { key := "direction", long := "--direction", short := 'D' },
  { key := "depth", long := "--depth", short := 'd' },
  { key := "ignore", long := "--ignore", short := 'i' },
  { key := "ignore-pattern", long := "--ignore-pattern", short := 'I' },
  { key := "show", long := "--show", short := 's' },
  { key := "show-pattern", long := "--show-pattern", short := 'S' },
  { key := "trim", long := "--trim", short := 't', valued := false },
  { key := "no-extern", long := "--no-extern", valued := false },
  { key := "end", long := "--end", short := 'e' },
  { key := "all-locations", long := "--all-locations", short := 'l', valued := false },
  { key := "output", long := "--output", short := 'o' },
  { key := "format", long := "--format", short := 'f' },
  { key := "font", long := "--font" },
  { key := "size", long := "--size" },
  { key := "rankdir", long := "--rankdir" },
  { key := "keep", long := "--keep", short := 'k', valued := false }]

/-! ## Values -/

/-- The value of a key, read; `default` if it is not set, and nothing if it cannot be read. -/
def value? {α : Type} (l : Line) (key : String) (read : String → Option α) (default : α) :
    Option α :=
  match l.last? key with
  | none => some default
  | some s => read s

/-- A path; no system takes one that holds the character with the number zero. -/
def readPath? (s : String) : Option Path := if s.contains '\x00' then none else some (Path.ofString s)

/-- The path that a key sets, if it sets one; nothing if that cannot be read. -/
def pathOf? (l : Line) (key : String) : Option (Option Path) :=
  value? l key (fun s => (readPath? s).map some) none

/-- The names in all values of a key. -/
def namesOf (l : Line) (key : String) : List String := (l.all key).flatMap Wire.splitNames

/-- The request that a command line describes. -/
def requestOf? (l : Line) : Option Request := do
  let plain : Request := {}
  let direction ← value? l "direction" Direction.ofWord? plain.direction
  let maxDepth ← value? l "depth" (fun s => (Numeral.readWhole? s).map some) none
  let format := (l.last? "format").getD plain.format
  let output ← pathOf? l "output"
  return {
    roots := namesOf l "root"
    rootPatterns := l.all "root-pattern"
    direction
    maxDepth
    ignore := namesOf l "ignore"
    ignorePatterns := l.all "ignore-pattern"
    shown := namesOf l "show"
    shownPatterns := l.all "show-pattern"
    trim := l.has "trim"
    noExtern := l.has "no-extern"
    allLocations := l.has "all-locations"
    goal := l.last? "end"
    output := output.getD (Request.defaultOutput format)
    format
    font := (l.last? "font").getD plain.font
    size := l.last? "size"
    rankdir := Text.inCapitals ((l.last? "rankdir").getD plain.rankdir)
    keep := l.has "keep" }

/-! ## Commands -/

/-- The options of a command. -/
def switchesOf? (command : String) : Option (List Switch) :=
  match command with
  | "extract" => some (helpSwitch :: graphSwitch :: requestSwitches ++ logSwitches)
  | "submit" => some (helpSwitch :: pipeSwitch :: requestSwitches)
  | "daemon" => some ([helpSwitch, graphSwitch, pipeSwitch,
      { key := "idle-budget", long := "--idle-budget" }] ++ logSwitches)
  | "stats" => some [helpSwitch, graphSwitch, jsonSwitch]
  | "find" => some [helpSwitch, graphSwitch, jsonSwitch,
      { key := "limit", long := "--limit", short := 'n' }]
  | _ => none

/-- What a command with sorted words asks for. -/
def invocationOf? (command : String) (l : Line) : Option Invocation := do
  let graph? ← pathOf? l "graph"
  let pipe ← pathOf? l "pipe"
  let logFile ← pathOf? l "log-file"
  let verbose := l.has "verbose"
  match command, l.operands with
  | "stats", [] => return .stats (← graph?) (l.has "json")
  | "find", [pattern] =>
    let limit ← value? l "limit" Numeral.readWhole? 50
    return .find (← graph?) pattern limit (l.has "json")
  | "extract", [] =>
    let request ← requestOf? l
    return .extract (← graph?) request logFile verbose
  | "submit", [] =>
    let request ← requestOf? l
    return .submit request pipe
  | "daemon", [] =>
    let budget ← value? l "idle-budget" Numeral.readDecimal? ({} : Patience).idleBudget
    return .serve (← graph?) pipe logFile verbose budget
  | _, _ => none

/-- What the words of a command line ask for, given the settings of the environment. Of the help
    and the version, the one that stands first is told. -/
def read? (settings : List (String × String)) (words : List String) : Option Invocation := do
  let front ← sortWords? frontSwitches false words
  match front.given, front.operands with
  | (key, _) :: _, _ => return if key = helpSwitch.key then .help else .version
  | [], [] => none
  | [], command :: words =>
    let known ← switchesOf? command
    let l ← sortWords? known true words
    if l.has helpSwitch.key then return .help
    else invocationOf? command (l.withSettings known settings)

end CallExcerpt.Command
