import CallExcerpt.Filter.Basic
import CallExcerpt.Graph.Styling
import CallExcerpt.Walk.Tally

/-! # Walks

    A walk goes through a graph from a root, depth first, and draws an arrow
    for each call that it follows. It keeps its own stack of frames, one for
    each symbol on the way from the root to where it stands.

    * A symbol is expanded once: a call to one that was expanded before is not
      drawn again.
    * A symbol that is kept out is passed over; one that is shown, and one
      beyond the depth, is not gone on from.
    * If the walk has a goal, it keeps only what leads there: an arrow to a
      symbol that did not reach the goal is taken back, once all below the
      symbol is done. What was drawn below has then been taken back already,
      so that the arrow is the latest one.

    `step?` makes one move. A walk works on a desk, where its arrows, the
    drawing attributes and the filters lie; what it did there stays when the
    walk fails.
-/

namespace CallExcerpt

/-! ## Styles -/

namespace Role

/-- The style of the symbol where the walk begins. -/
def root : Style := [("style", "filled"), ("fillcolor", "lightblue")]

/-- The style of a symbol that is shown without going on. -/
def shown : Style := [("shape", "box"), ("peripheries", "2")]

/-- The style of a symbol whose definition is not known. -/
def external : Style := [("style", "dashed"), ("fontcolor", "gray40")]

/-- The style of the goal. -/
def goal : Style := [("style", "filled"), ("fillcolor", "palegreen")]

end Role

/-- What a walk is to do. -/
structure Plan where
  /-- Which way it goes along calls. -/
  direction : Direction := .forward
  /-- The number of calls that it follows from the root at most. -/
  maxDepth : Option Int := none
  /-- The symbol that it looks for. -/
  goal : Option String := none
  /-- Are the places of the calls written beside the arrows? -/
  allLocations : Bool := false
  deriving Repr, DecidableEq

/-- Does the walk keep only what leads to a goal? -/
def Plan.prunes (p : Plan) : Bool := p.goal.isSome

/-- What can go wrong on a walk. -/
inductive WalkFault where
  /-- The root is no symbol of the graph. -/
  | unknownSymbol (name : String)
  /-- Nothing leads from the root to the goal. -/
  | noPath (root goal : String) (takenBack : Nat)
  /-- There was no arrow to take back. -/
  | nothingDrawn
  deriving Repr, DecidableEq

/-- The fault in words. -/
def WalkFault.message : WalkFault → String
  | .unknownSymbol name => s!"Symbol '{name}' not found"
  | .noPath root goal takenBack =>
    s!"No path from '{root}' reaches '{goal}' ({takenBack} edges retracted)"
  | .nothingDrawn => "No emitted edge to retract"

/-- A symbol on the way from the root to where the walk stands. -/
structure Frame where
  /-- The symbol. -/
  name : String
  /-- The number of calls from the root. -/
  depth : Nat
  /-- The calls that were not looked at. -/
  pending : List Call
  /-- Did something below reach the goal? -/
  reached : Bool := false
  /-- The symbol to which an arrow was drawn and which is not settled. -/
  child : Option String := none
  deriving Repr, DecidableEq

/-- What a walk works with. -/
structure Desk where
  /-- The arrows. -/
  sheet : Sheet := {}
  /-- All that happened to the sheet, the latest first. -/
  strokes : List Stroke := []
  /-- The drawing attributes. -/
  styling : Styling := {}
  /-- The filters. -/
  screen : Screen := {}

/-- A walk on its way. -/
structure Walk extends Desk where
  /-- The frames, the latest one first. -/
  frames : List Frame := []
  /-- The symbols that were expanded. -/
  visited : List String := []
  /-- For symbols that were settled, whether they reach the goal. -/
  reached : List (String × Bool) := []
  /-- The account of the excerpt. -/
  tally : Tally

namespace Walk

variable (g : Graph) (plan : Plan)

/-- The calls that a walk follows from a symbol at a depth. -/
def relationsAt (name : String) (depth : Nat) : List Call :=
  match plan.maxDepth with
  | some bound => if bound ≤ depth then [] else g.relations plan.direction name
  | none => g.relations plan.direction name

/-- A walk that stands at its root. -/
def start (root : Symbol) (desk : Desk) : Walk :=
  let shown := desk.screen.isShown root.name
  let styling := desk.styling.mark root.name Role.root
  { desk with
    styling := if shown then styling.mark root.name Role.shown else styling
    frames := [{
      name := root.name
      depth := 0
      pending := if shown then [] else relationsAt g plan root.name 0 }]
    visited := [root.name]
    reached := if plan.goal = some root.name then [(root.name, true)] else []
    tally := Tally.start root }

/-- The arrow of a call that is followed from one symbol to the next. -/
def arrowOf (source target : String) (call : Call) : Arrow :=
  let locations := if plan.allLocations then call.locations call.callee else []
  { source
    target
    caller := call.caller
    callee := call.callee
    label := if locations.isEmpty then none else some (Text.joinWith '\n' locations) }

/-- Draws the arrow of a call from one symbol to the next. -/
def draw (w : Walk) (source : String) (child : Symbol) (call : Call) : Walk :=
  let arrow := arrowOf plan source child.name call
  let origin := (g.find? source).getD { name := source }
  let styling := if child.isExtern then w.styling.mark child.name Role.external else w.styling
  let isGoal := plan.goal = some child.name
  { w with
    sheet := w.sheet.push arrow
    strokes := .drawn arrow :: w.strokes
    tally := w.tally.retain origin child
    styling := if isGoal then styling.mark child.name Role.goal else styling
    reached := if isGoal then Table.put child.name true w.reached else w.reached }

/-- Does the walk go on from a symbol to which it has drawn an arrow? -/
def descends (w : Walk) (name : String) : Bool :=
  !w.screen.isShown name && plan.goal ≠ some name && !(g.relations plan.direction name).isEmpty

/-- Follows a call from the symbol of the first frame. -/
def follow (w : Walk) (frame : Frame) (rest : List Frame) (call : Call) (child : Symbol) : Walk :=
  let w := w.draw g plan frame.name child call
  let styling :=
    if w.screen.isShown child.name then w.styling.mark child.name Role.shown else w.styling
  let parent := { frame with child := some child.name }
  if w.descends g plan child.name then
    let below : Frame := {
      name := child.name
      depth := frame.depth + 1
      pending := relationsAt g plan child.name (frame.depth + 1) }
    { w with styling, visited := w.visited ++ [child.name], frames := below :: parent :: rest }
  else { w with styling, frames := parent :: rest }

/-- Looks at the next call of the first frame. -/
def examine (w : Walk) (frame : Frame) (rest : List Frame) (call : Call) (pending : List Call) :
    Walk :=
  let frame := { frame with pending }
  match g.find? (call.far plan.direction) with
  | none => { w with frames := frame :: rest }
  | some child =>
    let (verdict, screen) := w.screen.classify child
    let w := { w with screen }
    if verdict.isExcluded || w.visited.contains child.name then { w with frames := frame :: rest }
    else w.follow g plan frame rest call child

/-- Keeps the arrow to a child if the goal was reached there, and takes it back otherwise. -/
def settle (w : Walk) (frame : Frame) (rest : List Frame) (child : String) :
    Except WalkFault Walk :=
  let frame := { frame with child := none }
  if !plan.prunes then .ok { w with frames := frame :: rest }
  else if (w.reached.lookup child).getD false then
    .ok { w with frames := { frame with reached := true } :: rest }
  else
    match w.sheet.pop? with
    | none => .error .nothingDrawn
    | some (arrow, sheet) =>
      .ok { w with
        frames := frame :: rest
        sheet
        strokes := .takenBack arrow :: w.strokes
        tally := w.tally.release arrow.source arrow.target
        reached :=
          if (w.reached.lookup child).isSome then w.reached else Table.put child false w.reached }

/-- Leaves the symbol of the first frame. -/
def leave (w : Walk) (frame : Frame) (rest : List Frame) : Walk :=
  { w with
    frames := rest
    reached := if frame.reached then Table.put frame.name true w.reached else w.reached }

/-- One move; nothing if no frame is left. -/
def step? (w : Walk) : Option (Except WalkFault Walk) :=
  match w.frames with
  | [] => none
  | frame :: rest =>
    match frame.child with
    | some child => some (w.settle plan frame rest child)
    | none =>
      match frame.pending with
      | [] => some (.ok (w.leave frame rest))
      | call :: pending => some (.ok (w.examine g plan frame rest call pending))

end Walk

end CallExcerpt
