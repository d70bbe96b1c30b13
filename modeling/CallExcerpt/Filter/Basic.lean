import CallExcerpt.Filter.Noise
import CallExcerpt.Graph.Basic
import CallExcerpt.Pattern.Compiled

/-! # Filters

    Filters keep symbols out of an excerpt, or let a walk show a symbol
    without going on from it. Four rules are tried in order, and the first one
    that applies gives the verdict:

    1. externs are out, and the symbol's definition is not known;
    2. the name is to be ignored;
    3. a pattern of names to be ignored is found in it;
    4. noise is out, and the name is noise.

    Whether a symbol is shown is asked only of those that no rule keeps out.
-/

namespace CallExcerpt

/-- What the rules say of a symbol. -/
inductive Verdict where
  /-- Kept out as an extern. -/
  | external
  /-- Kept out by name. -/
  | ignored
  /-- Kept out by a pattern. -/
  | ignoredPattern
  /-- Kept out as noise. -/
  | trimmed
  /-- Not kept out. -/
  | included
  deriving Repr, DecidableEq

namespace Verdict

/-- The word for a verdict. -/
def word : Verdict → String
  | .external => "extern"
  | .ignored => "ignored"
  | .ignoredPattern => "ignored-pattern"
  | .trimmed => "trimmed"
  | .included => "included"

/-- Is the symbol kept out? -/
def isExcluded (v : Verdict) : Bool := v ≠ .included

end Verdict

/-- Filters ready for use. -/
structure Filters where
  /-- Names that are kept out. -/
  ignore : List String := []
  /-- Patterns of names that are kept out. -/
  ignorePatterns : List Pattern := []
  /-- Names that are shown. -/
  shown : List String := []
  /-- Patterns of names that are shown. -/
  shownPatterns : List Pattern := []
  /-- Names that are kept out as noise. -/
  noise : List String := []
  /-- Are externs kept out? -/
  noExtern : Bool := false

namespace Filters

/-- Is one of the patterns found in the name? -/
def matchesAny (patterns : List Pattern) (name : String) : Bool := patterns.any (·.isFoundIn name)

/-- Is the symbol shown without going on from it? -/
def isShown (f : Filters) (name : String) : Bool :=
  f.shown.contains name || matchesAny f.shownPatterns name

/-- The verdict of the rules that go by the name. -/
def verdictByName (f : Filters) (name : String) : Verdict :=
  if f.ignore.contains name then .ignored
  else if matchesAny f.ignorePatterns name then .ignoredPattern
  else if f.noise.contains name then .trimmed
  else .included

/-- A pattern that could not be read. -/
structure Fault where
  /-- The text of the pattern. -/
  pattern : String
  /-- What is wrong with it. -/
  fault : Pattern.Fault
  deriving Repr, DecidableEq

/-- The fault in words; some problems are told without the pattern. -/
def Fault.message (f : Fault) : String :=
  if f.fault.problem.isApart then f.fault.problem.message
  else s!"Invalid pattern '{f.pattern}': {f.fault.message f.pattern}"

/-- Reads one pattern, if it fits into the room that there is for reading it. -/
def compileOne (source : String) (fits : String → Bool := fun _ => true) : Except Fault Pattern :=
  if fits source then
    match Pattern.parse source with
    | .ok p => .ok p
    | .error fault => .error ⟨source, fault⟩
  else .error ⟨source, ⟨.nestedTooDeeply, none⟩⟩

/-- Reads patterns; the first one that cannot be read stops all. -/
def compileAll (sources : List String) (fits : String → Bool := fun _ => true) :
    Except Fault (List Pattern) :=
  sources.mapM fun source => compileOne source fits

/-- Filters as they are asked for: patterns in writing. -/
structure Spec where
  /-- Names that are kept out. -/
  ignore : List String := []
  /-- Patterns of names that are kept out. -/
  ignorePatterns : List String := []
  /-- Names that are shown. -/
  shown : List String := []
  /-- Patterns of names that are shown. -/
  shownPatterns : List String := []
  /-- Is noise kept out? -/
  trim : Bool := false
  /-- Are externs kept out? -/
  noExtern : Bool := false
  deriving Repr, DecidableEq

/-- Makes filters ready for use. -/
def compile (s : Spec) (fits : String → Bool := fun _ => true) : Except Fault Filters := do
  let ignorePatterns ← compileAll s.ignorePatterns fits
  let shownPatterns ← compileAll s.shownPatterns fits
  return {
    ignore := s.ignore
    ignorePatterns
    shown := s.shown
    shownPatterns
    noise := if s.trim then Noise.names else []
    noExtern := s.noExtern }

end Filters

/-- Filters at work, with the externs that they met. -/
structure Screen where
  /-- The filters. -/
  filters : Filters := {}
  /-- The externs that were kept out so far; they stay out. -/
  externs : List String := []

namespace Screen

/-- The verdict on a symbol, and the filters after it. -/
def classify (s : Screen) (symbol : Symbol) : Verdict × Screen :=
  if s.externs.contains symbol.name then (.external, s)
  else if s.filters.noExtern && symbol.isExtern then
    (.external, { s with externs := s.externs ++ [symbol.name] })
  else (s.filters.verdictByName symbol.name, s)

/-- Is the symbol shown without going on from it? -/
def isShown (s : Screen) (name : String) : Bool := s.filters.isShown name

end Screen

end CallExcerpt
