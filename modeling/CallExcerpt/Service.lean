import CallExcerpt.Excerpt
import CallExcerpt.Layout
import CallExcerpt.Patience

/-! # The service

    The service keeps a graph and draws excerpts of it, one request at a time.
    A request that makes no sense is refused before anything is written. Its
    roots are worked on one after another; what goes wrong with the excerpt
    or the layout of one root is told in its result and keeps the others from
    nothing. The service also takes requests as records from a channel: a
    failure is logged then, and the service goes on.
-/

namespace CallExcerpt

/-- The world and the drawing attributes of the symbols. -/
structure Station where
  /-- The world. -/
  world : World := {}
  /-- The drawing attributes. -/
  styling : Styling := {}

/-- Works at a station, or fails. -/
abbrev Serving := EStateM Failure Station

namespace Serving

/-- An action on the world. -/
def onWorld {α : Type} (x : Action α) : Serving α :=
  fun s =>
    match x s.world with
    | .ok a world => .ok a { s with world }
    | .error e world => .error e { s with world }

/-- Fails unless a computation succeeds. -/
def ofExcept {ε α : Type} (failure : ε → Failure) (x : Except ε α) : Serving α :=
  onWorld (Action.ofExcept failure x)

/-- Logs a message of the service. -/
def note (level : Level) (text : String) : Serving Unit := onWorld (Action.note .service level text)

end Serving

namespace Service

/-- Loads the graph of a source. -/
def loadGraph (path : Path) : Action Graph := do
  let w ← get
  let g ← Action.ofExcept .source (Source.load w.disk w.base path)
  Action.note .loader .info s!"Loaded {g.summary} from {path}"
  return g

/-! ## Roots -/

/-- The symbol of a name, if there is one. -/
def resolve (g : Graph) (name : String) : Except Failure Symbol :=
  match g.find? name with
  | some s => .ok s
  | none => .error (.walk (.unknownSymbol name))

/-- The names that a pattern of roots selects. -/
def selection (g : Graph) (p : Pattern) : Except Failure (List String) :=
  match g.matching p.isFoundIn with
  | [] => .error (.noMatch p.source)
  | symbols => .ok (symbols.map (·.name))

/-- The roots of a request: those that it names, then what its patterns select, each once. -/
def roots (g : Graph) (r : Request) (fits : String → Bool := fun _ => true) :
    Except Failure (List String) := do
  let named ← r.roots.mapM (resolve g)
  let patterns ← (Filters.compileAll r.rootPatterns fits).mapError .pattern
  let selected ← patterns.mapM (selection g)
  return (named.map (·.name) ++ selected.flatten).eraseDups

/-! ## One root -/

/-- Draws the excerpt of a root; the filters after it. -/
def draw (g : Graph) (r : Request) (screen : Screen) (root : String) :
    Serving (Except WalkFault Excerpt × Screen) := do
  let outcome := Excerpt.walk g r (← get).styling screen root
  modify fun s => { s with styling := outcome.styling }
  match outcome.walk with
  | .error fault => return (.error fault, outcome.screen)
  | .ok w =>
    Serving.onWorld (Action.note .traversal .debug w.summary)
    return (.ok (Excerpt.ofWalk r.drawing w), outcome.screen)

/-- The excerpt of a root. -/
def extract (g : Graph) (root : String) (r : Request) : Serving Excerpt := do
  let filters ← Serving.ofExcept .pattern (Filters.compile r.filters (← get).world.fits)
  let (result, _) ← draw g r { filters } root
  Serving.ofExcept .walk result

/-! ## Writing -/

/-- Writes a text to a file, with the directories above it. -/
def writeText (path : Path) (text : String) : Action Unit := do
  let w ← get
  let failure (cause : SystemFault) : Failure :=
    if cause.isOfSystem then .cannotWrite path cause else .system cause
  Action.onDisk failure do
    OnDisk.ensureDirectories w.base path.parent
    OnDisk.writeFile w.base path (Text.Utf8.encode text)

/-- A path that must have a name. -/
def named (path : Path) : Option Path → Except Failure Path
  | some p => .ok p
  | none => .error (.nameless path)

/-- Writes the description of an excerpt as the output itself. -/
def writePlain (e : Excerpt) (artifact : Path) : Action Excerpt := do
  let e ←
    if artifact = Path.dash then do
      Action.print e.description
      pure e
    else do
      writeText artifact e.description
      pure { e with artifact := some artifact }
  Action.note .service .info s!"Wrote {artifact} ({e.arrows.length} edges)"
  return e

/-- Has an excerpt drawn by the layout engine. -/
def writeDrawing (e : Excerpt) (artifact : Path) (r : Request) (workplace : Path) :
    Action Excerpt := do
  let kept ←
    if r.keep then do
      let p ← Action.ofExcept id (named artifact (artifact.withSuffix? Request.descriptionSuffix))
      pure (some p)
    else pure none
  let description := kept.getD (workplace.child (Request.descriptionName e.root))
  writeText description e.description
  let e := { e with kept }
  try
    let drawn ← Layout.run none r.format description artifact
    Action.note .service .info s!"Rendered {drawn} ({e.arrows.length} edges)"
    return { e with artifact := some drawn }
  catch failure =>
    if failure.family = .render then
      Action.note .service .error failure.message
      match kept with
      | some p => Action.note .service .info s!"Kept graph description at {p}"
      | none => pure ()
      return { e with status := .notRendered, error := some failure.message }
    else throw failure

/-- Writes an excerpt as the request says. -/
def write (r : Request) (several : Bool) (workplace : Path) (e : Excerpt) : Action Excerpt := do
  let artifact ←
    Action.ofExcept id (named r.output (Request.artifact? r.output e.root several))
  if r.isPlain then writePlain e artifact else writeDrawing e artifact r workplace

/-! ## Requests -/

/-- Draws and writes the excerpts of roots in order. -/
def work (g : Graph) (r : Request) (several : Bool) (workplace : Path) (screen : Screen) :
    List String → Serving (List Excerpt)
  | [] => return []
  | root :: rest => do
    let (result, screen) ← draw g r screen root
    let first ←
      match result with
      | .ok e => Serving.onWorld (write r several workplace e)
      | .error fault =>
        match fault with
        | .noPath _ _ _ => do
          Serving.note .warning fault.message
          pure (Excerpt.nothing root fault.message)
        | _ => throw (.walk fault)
    let others ← work g r several workplace screen rest
    return first :: others

/-- The location of the working files of the next request. -/
def workplace (w : World) : Location := w.temporary ++ [w.fresh]

/-- Does something with a directory for working files, which is removed in any case. If it cannot be
    removed, that is the failure. -/
def withWorkplace {α : Type} (x : Path → Serving α) : Serving α := do
  let place := workplace (← get).world
  let path := World.pathOf place
  Serving.onWorld (Action.onDisk .noWorkingDirectory (OnDisk.makeDirectory [] path))
  try x path
  finally Serving.onWorld (Action.onDisk .system (OnDisk.removeAll place))

/-- Handles a request: one result for each of its roots. -/
def handle (g : Graph) (r : Request) : Serving (List Excerpt) := do
  let fits := (← get).world.fits
  Serving.ofExcept .request r.validate
  let filters ← Serving.ofExcept .pattern (Filters.compile r.filters fits)
  match r.goal with
  | some goal => do
    let _ ← Serving.ofExcept id (resolve g goal)
  | none => pure ()
  let roots ← Serving.ofExcept id (roots g r fits)
  withWorkplace fun place => work g r (1 < roots.length) place { filters } roots

/-! ## Records -/

/-- Handles a request of a record. A failure is logged. -/
def handleRecord (g : Graph) (record : String) : Serving (List Excerpt) := do
  try
    let r ← Serving.ofExcept .record (Wire.decode record)
    Serving.note .info s!"Request for {Text.joinWith Wire.nameSeparator (r.roots ++ r.rootPatterns)}"
    handle g r
  catch failure =>
    if failure.isOwn then Serving.note .error s!"Request failed: {failure.message}"
    else
      Serving.onWorld (Action.log {
        part := .service
        level := .error
        text := "Unexpected error while handling request"
        cause := some failure })
    return []

/-- What a serving loop does with its channel. -/
inductive Wait where
  /-- It waits for a record, for some seconds at most. -/
  | receive (seconds : Number.Binary64)
  /-- It opens the channel anew. -/
  | reopen
  deriving Repr, DecidableEq

/-- A serving loop on its way. -/
structure Watch where
  /-- The seconds since the last record, or since the channel was opened anew. -/
  idle : Number.Binary64 := Number.Binary64.ofInt 0
  /-- The number of records that were handled. -/
  handled : Nat := 0
  /-- What was done with the channel, the latest first. -/
  waits : List Wait := []
  deriving Repr, DecidableEq

/-- Does the loop go on? -/
def Watch.goesOn (w : Watch) (limit : Option Nat) : Bool :=
  match limit with
  | none => true
  | some n => w.handled < n

/-- A wait in vain. -/
def Watch.pass (w : Watch) (seconds : Number.Binary64) : Watch :=
  { w with idle := w.idle.add seconds }

/-- How a serving loop listens: what comes of a wait, and of opening the channel anew, on an occasion
    that the channel meets. -/
structure Listening (κ ω : Type) where
  /-- The record that arrives within so many seconds, if one does. -/
  receive : Number.Binary64 → ω → κ → Except Failure (Option String × κ)
  /-- The channel opened anew. -/
  reopen : ω → κ → Except Failure κ

/-- Answers that are known beforehand, one for each occasion. A wait may be refused all the same. -/
def scripted (refused : Number.Binary64 → Option Failure) : Listening Unit (Option String) where
  receive seconds answer c :=
    match refused seconds with
    | some failure => .error failure
    | none => .ok (answer, c)
  reopen _ c := .ok c

/-- Serves records from a channel until a number of them was handled, or the occasions are over. The
    last value says whether the loop has come to its end. What goes wrong with the channel breaks
    the loop off. -/
def serveFrom {κ ω : Type} (listening : Listening κ ω) (g : Graph) (path : Path) (p : Patience)
    (limit : Option Nat) (w : Watch) (c : κ) : List ω → Serving (Watch × κ × Bool)
  | [] =>
    if w.goesOn limit then
      return ({ w with waits := .receive (p.interval w.idle) :: w.waits }, c, false)
    else return (w, c, true)
  | occasion :: rest => do
    if w.goesOn limit then
      let seconds := p.interval w.idle
      let w := { w with waits := .receive seconds :: w.waits }
      let (answer, c) ← Serving.ofExcept id (listening.receive seconds occasion c)
      match answer with
      | some record =>
        let _ ← handleRecord g record
        serveFrom listening g path p limit
          { w with idle := Number.Binary64.ofInt 0, handled := w.handled + 1 } c rest
      | none =>
        let w := w.pass seconds
        if p.idleBudget.atMost w.idle then
          Serving.note .debug s!"Idle for {w.idle.onePlace}s, reopening {path}"
          let c ← Serving.ofExcept id (listening.reopen occasion c)
          serveFrom listening g path p limit
            { w with idle := Number.Binary64.ofInt 0, waits := .reopen :: w.waits } c rest
        else serveFrom listening g path p limit w c rest
    else return (w, c, true)

/-- Tells where the service waits for requests. -/
def announce (path : Path) : Serving Unit :=
  Serving.note .info s!"Waiting for requests on {path}"

/-- Serves records from the channel at a path. -/
def serveOn {κ ω : Type} (listening : Listening κ ω) (g : Graph) (path : Path) (p : Patience)
    (limit : Option Nat) (c : κ) (occasions : List ω) : Serving (Watch × κ × Bool) := do
  announce path
  serveFrom listening g path p limit {} c occasions

/-- Serves records that are known beforehand; the second value says whether the loop has come to its
    end, and not the answers. -/
def serve (g : Graph) (path : Path) (p : Patience) (limit : Option Nat)
    (answers : List (Option String))
    (refused : Number.Binary64 → Option Failure := fun _ => none) : Serving (Watch × Bool) := do
  let (w, _, ended) ← serveOn (scripted refused) g path p limit () answers
  return (w, ended)

end Service

end CallExcerpt
