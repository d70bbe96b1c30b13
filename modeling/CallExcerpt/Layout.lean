import CallExcerpt.World

/-! # Layout

    A layout engine is a program that draws a description into a file. It
    succeeds if it ends with code zero; what it says on failure becomes part
    of the failure.
-/

namespace CallExcerpt.Layout

/-- The command that draws a description into a file. -/
def command (program format : String) (description output : Path) : List String :=
  [program, "-T" ++ format, "-o", output.toString, description.toString]

/-- What is told of an engine that ended with a code other than zero. -/
def detail (code : Int) (complaints : Option String) : String :=
  let said := Text.strip (complaints.getD "")
  if said = "" then s!"exit status {code}" else said

/-- Calls the engine. -/
def call (program format : String) (description output : Path) : Action Reply := fun w =>
  let words := command program format description output
  if w.engine.takes words then
    let (reply, engine) := w.engine.call program
    let made : EngineCall := {
      command := words
      description := (w.disk.file? w.base description).map Content.octets }
    let disk :=
      match reply.drawn? with
      | some octets =>
        match OnDisk.writeFile w.base output octets w.disk with
        | .ok _ disk => disk
        | .error _ disk => disk
      | none => w.disk
    .ok reply { w with engine, calls := w.calls ++ [made], disk }
  else .error (.system .nullByte) w

/-- Draws a description into a file, with the engine that was asked for or else the one of the
    settings. -/
def run (engine : Option String) (format : String) (description output : Path) : Action Path := do
  let asked := engine.getD ""
  let w ← get
  let program := if asked = "" then w.engineProgram else asked
  Action.onDisk .system (OnDisk.ensureDirectories w.base output.parent)
  let words := command program format description output
  Action.note .layout .debug ("Running " ++ Text.joinWith ' ' words)
  match ← call program format description output with
  | .unavailable reason => throw (.engineUnavailable program reason)
  | .garbled fault _ => throw (.garbled fault)
  | .ended code complaints _ =>
    if code ≠ 0 then throw (.engineFailed program description (detail code complaints))
    else return output

end CallExcerpt.Layout
