import CallExcerpt.Files.Path
import CallExcerpt.Filter.Basic
import CallExcerpt.Walk.Basic
import CallExcerpt.Dot.Description

/-! # Requests

    What is asked of the program: the roots, what the walk is to do, the
    filters, and how and where the excerpts are written. `validate` refuses
    the combinations that make no sense, the first one it meets.
-/

namespace CallExcerpt

/-- A request for excerpts. -/
structure Request where
  /-- The names of the roots. -/
  roots : List String := []
  /-- Patterns that select more roots. -/
  rootPatterns : List String := []
  /-- Which way the walk goes. -/
  direction : Direction := .forward
  /-- The number of calls that the walk follows from a root at most. -/
  maxDepth : Option Int := none
  /-- Names that are kept out. -/
  ignore : List String := []
  /-- Patterns of names that are kept out. -/
  ignorePatterns : List String := []
  /-- Names that are shown. -/
  shown : List String := []
  /-- Patterns of names that are shown. -/
  shownPatterns : List String := []
  /-- Is noise kept out? -/
  trim : Bool := false
  /-- Are externs kept out? -/
  noExtern : Bool := false
  /-- Are the places of the calls written beside the arrows? -/
  allLocations : Bool := false
  /-- The symbol that the walk looks for. -/
  goal : Option String := none
  /-- Where the excerpt is written. -/
  output : Path := Path.ofString "callgraph.svg"
  /-- The format in which it is written. -/
  format : String := "svg"
  /-- The font of all texts. -/
  font : String := "Helvetica"
  /-- The size of the page. -/
  size : Option String := none
  /-- Where the drawing grows. -/
  rankdir : String := "LR"
  /-- Is the description kept beside the output? -/
  keep : Bool := false
  deriving Repr, DecidableEq

namespace Request

/-! ## Formats -/

/-- The format that writes the description itself. -/
def plainFormat : String := "plain"

/-- The formats that a layout engine draws. -/
def drawnFormats : List String := ["svg", "png", "pdf", "ps", "jpg", "gif", "dot"]

/-- The ways in which a drawing may grow. -/
def rankdirs : List String := ["TB", "LR", "BT", "RL"]

/-- The suffix of a description. -/
def descriptionSuffix : String := ".gv"

/-- Where an excerpt is written unless the request says otherwise. -/
def defaultOutput (format : String) : Path :=
  Path.ofString ("callgraph" ++ if format = plainFormat then descriptionSuffix else "." ++ format)

/-! ## Validation -/

/-- What makes no sense in a request. -/
inductive Fault where
  /-- There is neither a root nor a pattern of roots. -/
  | noRoot
  /-- The drawing cannot grow that way. -/
  | unknownRankdir (rankdir : String)
  /-- There is no such format. -/
  | unknownFormat (format : String)
  /-- A drawing would go to standard output. -/
  | drawingToStandardOutput
  /-- The drawing would be written over the description that is kept. -/
  | clash (output : Path)
  /-- The depth is below zero. -/
  | negativeDepth (depth : Int)
  deriving Repr, DecidableEq

/-- The fault in words. -/
def Fault.message : Fault → String
  | .noRoot => "No root function specified"
  | .unknownRankdir rankdir =>
    let known := String.intercalate ", " rankdirs
    s!"Unknown layout direction '{rankdir}' (expected one of {known})"
  | .unknownFormat format => s!"Unknown output format '{format}'"
  | .drawingToStandardOutput => s!"Only the '{plainFormat}' format can be written to stdout"
  | .clash output => s!"Output {output} clashes with the kept {descriptionSuffix} description"
  | .negativeDepth depth =>
    if Text.isWritable depth then s!"Max depth must be >= 0, got {depth}" else Text.cannotWriteNumber

/-- Is the description itself the output? -/
def isPlain (r : Request) : Bool := r.format = plainFormat

/-- Refuses a request that makes no sense. -/
def validate (r : Request) : Except Fault Unit :=
  if r.roots.isEmpty && r.rootPatterns.isEmpty then .error .noRoot
  else if !rankdirs.contains r.rankdir then .error (.unknownRankdir r.rankdir)
  else if !(r.isPlain || drawnFormats.contains r.format) then .error (.unknownFormat r.format)
  else if r.output = Path.dash && !r.isPlain then .error .drawingToStandardOutput
  else if r.keep && !r.isPlain && r.output.suffix = descriptionSuffix then .error (.clash r.output)
  else match r.maxDepth with
    | some depth => if depth < 0 then .error (.negativeDepth depth) else .ok ()
    | none => .ok ()

/-! ## The parts of a request -/

/-- The filters that a request asks for. -/
def filters (r : Request) : Filters.Spec where
  ignore := r.ignore
  ignorePatterns := r.ignorePatterns
  shown := r.shown
  shownPatterns := r.shownPatterns
  trim := r.trim
  noExtern := r.noExtern

/-- What the walks of a request are to do. -/
def plan (r : Request) : Plan where
  direction := r.direction
  maxDepth := r.maxDepth
  goal := r.goal
  allLocations := r.allLocations

/-- The options of the drawings of a request. -/
def drawing (r : Request) : Dot.Options where
  rankdir := r.rankdir
  font := r.font
  size := r.size

end Request

end CallExcerpt
