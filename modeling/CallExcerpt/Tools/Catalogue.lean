import CallExcerpt.Json.Basic

/-! # The catalogue of tools

    The tools that the program offers to an assistant: for each one its name,
    what it is for, and the schema of its arguments.
-/

namespace CallExcerpt.Tools

/-- A tool as it is offered. -/
structure Offer where
  /-- The name under which the tool is called. -/
  name : String
  /-- What the tool is for. -/
  purpose : String
  /-- The schema of its arguments. -/
  schema : Json

/-- An argument of a type, with a description. -/
def argument (type description : String) : Json :=
  .object [("type", .text type), ("description", .text description)]

/-- An argument that is a list of texts. -/
def textsArgument (description : String) : Json :=
  .object [
    ("type", .text "array"),
    ("items", .object [("type", .text "string")]),
    ("description", .text description)]

/-- The schema of an object with some arguments, of which some are required. -/
def schemaOf (arguments : List (String × Json)) (required : List String) : Json :=
  .object ([("type", .text "object"), ("properties", .object arguments)]
    ++ if required.isEmpty then [] else [("required", .list (required.map .text))])

/-- Draws an excerpt. -/
def extractOffer : Offer where
  name := "callslice_extract"
  purpose := "Extract a filtered call subgraph rooted at a function. Forward direction "
    ++ "follows what the function calls, reverse follows what calls it. Returns "
    ++ "edges, nodes, source files and a Graphviz description."
  schema := schemaOf [
    ("root", argument "string" "Root function name"),
    ("direction", .object [
      ("type", .text "string"),
      ("enum", .list [.text "forward", .text "reverse"]),
      ("default", .text "forward")]),
    ("max_depth", argument "integer" "Maximum traversal depth (default: unbounded)"),
    ("ignore", textsArgument "Functions to exclude"),
    ("ignore_patterns", textsArgument "Regexes to exclude"),
    ("show", textsArgument "Functions to show, not expand"),
    ("trim", argument "boolean" "Exclude built-in noise functions (locks, barriers, ...)"),
    ("no_extern", argument "boolean" "Exclude functions without a known definition"),
    ("end_function", argument "string" "Keep only paths that reach this function"),
    ("all_locations", argument "boolean" "Include call-site locations on edges")] ["root"]

/-- Looks symbols up by a pattern. -/
def findOffer : Offer where
  name := "callslice_find"
  purpose := "Search for functions whose names match a regular expression."
  schema := schemaOf [
    ("pattern", argument "string" "Regular expression"),
    ("limit", .object [("type", .text "integer"), ("default", .int 50)])] ["pattern"]

/-- Counts. -/
def statsOffer : Offer where
  name := "callslice_stats"
  purpose := "Get node, edge and extern counts of the loaded call graph."
  schema := schemaOf [] []

/-- All tools. -/
def catalogue : List Offer := [extractOffer, findOffer, statsOffer]

end CallExcerpt.Tools
