import CallExcerpt.Request.Artifact
import CallExcerpt.Walk.Work

/-! # Excerpts

    What comes out for one root: the arrows, the symbols at their ends, the
    source files of these, and the description. An excerpt that has been
    written also knows where.
-/

namespace CallExcerpt

/-- What became of an excerpt. -/
inductive Status where
  /-- It was drawn, and written where that was asked for. -/
  | ok
  /-- Nothing was left of it. -/
  | empty
  /-- The layout engine did not draw it. -/
  | notRendered
  deriving Repr, DecidableEq

/-- The word for a status. -/
def Status.word : Status → String
  | .ok => "ok"
  | .empty => "empty"
  | .notRendered => "render-failed"

/-- What comes out for one root. -/
structure Excerpt where
  /-- The root. -/
  root : String
  /-- What became of it. -/
  status : Status := .ok
  /-- The description. -/
  description : String := ""
  /-- The arrows. -/
  arrows : List Arrow := []
  /-- The root and the ends of the arrows. -/
  members : List String := []
  /-- The source files of the members. -/
  files : List String := []
  /-- Where it was written. -/
  artifact : Option Path := none
  /-- Where its description was kept. -/
  kept : Option Path := none
  /-- Why it is empty or not rendered. -/
  error : Option String := none
  deriving Repr, DecidableEq

namespace Excerpt

/-- The excerpt in a word. -/
def summary (e : Excerpt) : String :=
  s!"ExtractionResult(root={Text.quoted e.root}, status={e.status.word}, edges={e.arrows.length}, members={e.members.length})"

/-- The excerpt of a walk that has ended, with the attributes that the symbols have then. -/
def ofWalk (drawing : Dot.Options) (w : Walk) : Excerpt :=
  let arrows := w.sheet.toList
  let members := w.tally.members
  { root := w.tally.root
    description := Dot.render drawing arrows (members.map fun n => (n, w.styling.of n))
    arrows
    members
    files := w.tally.files }

/-- The excerpt of a root of which nothing is left. -/
def nothing (root : String) (why : String) : Excerpt := { root, status := .empty, error := some why }

/-- What a walk for an excerpt gives: the walk or its failure, and the attributes and the filters
    after it. The attributes that the walk set are taken back in any case. -/
structure Outcome where
  /-- The walk that has ended, or why it failed. -/
  walk : Except WalkFault Walk
  /-- The drawing attributes after it. -/
  styling : Styling
  /-- The filters after it. -/
  screen : Screen

/-- Walks for the excerpt of a root. -/
def walk (g : Graph) (r : Request) (styling : Styling) (screen : Screen) (root : String) : Outcome :=
  match Walk.extract g r.plan root { styling, screen } with
  | .ok w desk => ⟨.ok w, desk.styling.reset, desk.screen⟩
  | .error fault desk => ⟨.error fault, desk.styling.reset, desk.screen⟩

end Excerpt

end CallExcerpt
