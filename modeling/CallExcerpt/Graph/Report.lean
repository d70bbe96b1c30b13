import CallExcerpt.Graph.Basic
import CallExcerpt.Json.Basic

/-! # Reports on a graph

    What is told of a graph and of its symbols as JSON.
-/

namespace CallExcerpt.Graph

/-- A text that may be absent. -/
def optionalText : Option String → Json
  | none => .null
  | some s => .text s

/-- The counts of a graph. -/
def countsReport (g : Graph) : Json :=
  .object [
    ("nodes", .int g.symbolCount),
    ("edges", .int g.callCount),
    ("externs", .int g.externCount)]

/-- A symbol with the numbers of its callers and callees. -/
def symbolReport (g : Graph) (s : Symbol) : Json :=
  .object [
    ("name", .text s.name),
    ("location", optionalText s.location),
    ("extern", .bool s.isExtern),
    ("callers", .int (g.callers s.name).length),
    ("callees", .int (g.callees s.name).length)]

end CallExcerpt.Graph
