import CallExcerpt.Dot.Quoting
import CallExcerpt.Graph.Styling
import CallExcerpt.Walk.Arrow

/-! # Graph descriptions

    The text that a layout engine draws: a header with the options of the
    whole drawing, a statement for each arrow in order, and a statement with
    its attributes, by key, for each symbol.
-/

namespace CallExcerpt.Dot

/-- The options of a whole drawing. -/
structure Options where
  /-- Where the drawing grows: to the right, unless it says otherwise. -/
  rankdir : String := "LR"
  /-- The font of all texts. -/
  font : String := "Helvetica"
  /-- The size of the page; an empty one counts as none. -/
  size : Option String := none
  /-- The name of the graph. -/
  name : String := "callgraph"
  deriving Repr, DecidableEq

/-- The statement of the page's size, if it has one. -/
def sizeLines : Option String → List String
  | none => []
  | some size => if size = "" then [] else ["\tsize=" ++ quote size ++ ";"]

/-- The lines before the first statement. -/
def header (o : Options) : List String :=
  ["digraph " ++ quote o.name ++ " \x7b", "\trankdir=" ++ o.rankdir ++ ";"]
    ++ sizeLines o.size
    ++ ["graph", "node", "edge"].map fun kind =>
      "\t" ++ kind ++ " [fontname=" ++ quote o.font ++ "];"

/-- The label of an arrow in brackets; an empty one counts as none. -/
def labelText : Option String → String
  | none => ""
  | some label => if label = "" then "" else " [label=" ++ quoteLabel label ++ "]"

/-- The statement of an arrow. -/
def arrowLine (a : Arrow) : String :=
  "\t" ++ quote a.source ++ " -> " ++ quote a.target ++ labelText a.label ++ ";"

/-- Attributes by key. -/
def sorted (style : Style) : Style := style.mergeSort fun a b => decide (a.1 ≤ b.1)

/-- Attributes in brackets, if there are any. -/
def styleText (style : Style) : String :=
  if style.isEmpty then ""
  else " [" ++ String.intercalate ", " ((sorted style).map fun a => a.1 ++ "=" ++ quote a.2) ++ "]"

/-- The statement of a symbol. -/
def symbolLine (name : String) (style : Style) : String :=
  "\t" ++ quote name ++ styleText style ++ ";"

/-- The description of arrows and of symbols with their attributes. -/
def render (o : Options) (arrows : List Arrow) (symbols : List (String × Style)) : String :=
  let lines := header o ++ arrows.map arrowLine ++ symbols.map (fun s => symbolLine s.1 s.2)
    ++ ["\x7d"]
  String.join (lines.map (· ++ "\n"))

end CallExcerpt.Dot
