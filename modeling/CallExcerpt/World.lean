import CallExcerpt.Failure
import CallExcerpt.Text.Capital
import CallExcerpt.Text.Lines

/-! # The world around the program

    What the program finds and what it leaves behind: the disk, the settings
    of its environment, what it wrote to its two outputs, the messages that it
    logged, and the layout engine with the calls made to it. An `Action` works
    on the world; what it did before it failed stays done.
-/

namespace CallExcerpt

/-! ## Messages -/

/-- How much a message matters. -/
inductive Level where
  /-- For those who look for faults. -/
  | debug
  /-- All goes as it should. -/
  | info
  /-- Something is odd. -/
  | warning
  /-- Something failed. -/
  | error
  deriving Repr, DecidableEq

namespace Level

/-- The word for a level. -/
def word : Level → String
  | .debug => "DEBUG"
  | .info => "INFO"
  | .warning => "WARNING"
  | .error => "ERROR"

/-- The number of a level: the more a message matters, the higher. -/
def number : Level → Nat
  | .debug => 10
  | .info => 20
  | .warning => 30
  | .error => 40

end Level

/-- The part of the program that a message comes from. -/
inductive Part where
  /-- The program as a whole. -/
  | whole
  /-- The reading of graph sources. -/
  | loader
  /-- The walks. -/
  | traversal
  /-- The layout engine's calls. -/
  | layout
  /-- The service. -/
  | service
  /-- The request channel. -/
  | channel
  deriving Repr, DecidableEq

/-- The name under which a part logs. -/
def Part.name : Part → String
  | .whole => "callslice"
  | .loader => "callslice.core.graph.loader"
  | .traversal => "callslice.core.graph.traversal"
  | .layout => "callslice.render.layout"
  | .service => "callslice.server.daemon"
  | .channel => "callslice.server.channel"

/-- A logged message. -/
structure Note where
  /-- Where it comes from. -/
  part : Part
  /-- How much it matters. -/
  level : Level
  /-- What it says. -/
  text : String
  /-- The failure that it reports, if nobody expected it. -/
  cause : Option Failure := none

namespace Note

/-- A text with blanks after it up to a width. -/
def padded (width : Nat) (s : String) : String :=
  s ++ String.ofList (List.replicate (width - s.length) ' ')

/-- The lines of a note in a log file. They carry no time, and of the steps that led to a failure
    only the last line is kept. -/
def lines (n : Note) : String :=
  let head := s!"{padded 28 n.part.name}  {padded 7 n.level.word}  {n.text}\n"
  match n.cause with
  | none => head
  | some f => head ++ s!"<traceback>\n{f.family.word}: {f.message}\n"

end Note

/-- A log file. -/
structure LogFile where
  /-- Where it is. -/
  path : Path
  /-- Messages below this number are left out. -/
  threshold : Nat
  deriving Repr, DecidableEq

/-! ## The layout engine -/

/-- What happens when a layout engine is called. -/
inductive Reply where
  /-- It runs and ends with a code, after it wrote its complaints, and perhaps the file that it
      was asked for. -/
  | ended (code : Int) (complaints : Option String) (drawn : Option (List UInt8))
  /-- It runs, perhaps it writes the file, and what it says is no text. -/
  | garbled (fault : Text.Utf8.Fault) (drawn : Option (List UInt8))
  /-- It cannot be started. -/
  | unavailable (reason : String)
  deriving Repr, DecidableEq

/-- The file that was written. -/
def Reply.drawn? : Reply → Option (List UInt8)
  | .ended _ _ drawn | .garbled _ drawn => drawn
  | .unavailable _ => none

/-- What a program does when it is run. -/
structure Run where
  /-- The code with which it ends. -/
  code : Int
  /-- What it writes to standard output. -/
  printed : List UInt8 := []
  /-- What it writes to standard error. -/
  complained : List UInt8 := []
  /-- The file that it writes, if it does. -/
  drawn : Option (List UInt8) := none
  deriving Repr, DecidableEq

/-- What its caller is told of a run: what was written is read as text, standard output first. -/
def Run.reply (r : Run) : Reply :=
  match Text.Utf8.decode r.printed, Text.Utf8.decode r.complained with
  | .error fault, _ | .ok _, .error fault => .garbled fault r.drawn
  | .ok _, .ok said => .ended r.code (some (String.ofList (Text.unifyLineEnds said))) r.drawn

/-- A layout engine. -/
inductive Engine where
  /-- Programs by name; all others are missing. -/
  | installed (programs : List (String × Run))
  /-- Replies in order, the last one for all later calls; one that was told none is missing. -/
  | scripted (first : Reply) (later : List Reply)
  deriving Repr, DecidableEq

namespace Engine

/-- The programs of a system without a layout engine: one that always succeeds and one that
    always fails. -/
def bare : Engine := .installed [("true", { code := 0 }), ("false", { code := 1 })]

/-- Can the words of a call be handed over? The system refuses those with the character that ends
    words inside it; replies that are told in advance come without the system. -/
def takes (e : Engine) (words : List String) : Bool :=
  match e with
  | .installed _ => words.all fun word => !word.contains '\x00'
  | .scripted _ _ => true

/-- The reply to a call, and the engine after it. -/
def call (e : Engine) (program : String) : Reply × Engine :=
  match e with
  | .installed programs =>
    let missing := SystemFault.refused .noEntry program
    (((programs.lookup program).map Run.reply).getD (.unavailable missing.message), e)
  | .scripted reply [] => (reply, e)
  | .scripted reply (next :: later) => (reply, .scripted next later)

end Engine

/-- A call of a layout engine. -/
structure EngineCall where
  /-- The program and its arguments. -/
  command : List String
  /-- The description that it was to draw, if it was there. -/
  description : Option (List UInt8)
  deriving Repr, DecidableEq

/-! ## The world -/

/-- The world around the program. -/
structure World where
  /-- The disk. -/
  disk : Disk := {}
  /-- The working directory. -/
  base : Location := []
  /-- The directory for working files. -/
  temporary : Location := []
  /-- The name of the next directory of working files. -/
  fresh : String := "callslice-XXXXXXXX"
  /-- The settings of the environment. -/
  settings : List (String × String) := []
  /-- The home directories of the users that the system knows. -/
  homes : List (String × String) := [("root", "/root")]
  /-- The user at work. -/
  user : String := "root"
  /-- The layout engine. -/
  engine : Engine := Engine.bare
  /-- The calls of the layout engine. -/
  calls : List EngineCall := []
  /-- Is there room to read a pattern? One that is nested deeply needs more than others. -/
  fits : String → Bool := fun _ => true
  /-- What was written to standard output. -/
  printed : String := ""
  /-- What keeps a text from standard output, and the number of its characters that get there all
      the same; it may depend on what was written before. -/
  outlet : String → String → Option (Nat × SystemFault) := fun _ _ => none
  /-- What was written to standard error. -/
  complained : String := ""
  /-- The messages that were logged, in order. -/
  notes : List Note := []
  /-- The log file, if there is one. -/
  logFile : Option LogFile := none

/-- Works on the world, or fails. -/
abbrev Action := EStateM Failure World

namespace Action

/-- An operation on the disk whose refusal is a failure. -/
def onDisk {α : Type} (failure : SystemFault → Failure) (x : OnDisk α) : Action α :=
  fun w =>
    match x w.disk with
    | .ok a disk => .ok a { w with disk }
    | .error e disk => .error (failure e) { w with disk }

/-- Fails unless a computation succeeds. -/
def ofExcept {ε α : Type} (failure : ε → Failure) : Except ε α → Action α
  | .ok a => pure a
  | .error e => throw (failure e)

/-- Adds a note to what was logged. A note for the log file that the disk refuses is lost. -/
def log (n : Note) : Action Unit :=
  modify fun w =>
    let disk :=
      match w.logFile with
      | none => w.disk
      | some file =>
        if n.level.number < file.threshold then w.disk
        else match OnDisk.appendFile w.base file.path (Text.Utf8.encode n.lines) w.disk with
          | .ok _ disk => disk
          | .error _ disk => disk
    { w with notes := w.notes ++ [n], disk }

/-- Logs a message. -/
def note (part : Part) (level : Level) (text : String) : Action Unit := log { part, level, text }

/-- Writes to standard output, as much as it takes. -/
def print (s : String) : Action Unit := do
  let w ← get
  match w.outlet w.printed s with
  | none => set { w with printed := w.printed ++ s }
  | some (taken, cause) =>
    set { w with printed := w.printed ++ String.ofList (s.toList.take taken) }
    throw (.system cause)

end Action

namespace World

/-- The path of a location. -/
def pathOf (l : Location) : Path := { anchor := .root, parts := l }

/-- Names from a directory on, with double dots taken away. -/
def collapse (l : Location) : List String → Location
  | [] => l
  | n :: ns => if n = ".." then collapse l.dropLast ns else collapse (l ++ [n]) ns

/-- A path from the root on, without double dots. -/
def absolute (w : World) (p : Path) : Path :=
  match p.anchor with
  | .relative => pathOf (collapse w.base p.parts)
  | anchor => { anchor, parts := collapse [] p.parts }

/-- The home directory of a user, or of the one at work if no name is given. -/
def home? (w : World) (user : String) : Option String :=
  if user = "" then w.settings.lookup "HOME" <|> w.homes.lookup w.user else w.homes.lookup user

/-- A path with a home directory in place of the tilde at its front; nothing if the directory is
    not known. -/
def expandHome? (w : World) (p : Path) : Option Path :=
  match p.anchor, p.parts with
  | .relative, first :: rest =>
    match first.toList with
    | '~' :: user => do
      let home ← w.home? (String.ofList user)
      let home := (home.toList.reverse.dropWhile (· = '/')).reverse
      if home.head? = some '~' then none
      else
        let front := if home.isEmpty then pathOf [] else Path.ofString (String.ofList home)
        some { front with parts := front.parts ++ rest }
    | _ => some p
  | _, _ => some p

/-! ## Settings -/

/-- Where the request pipe is, unless a setting or an option says otherwise. -/
def defaultPipe (w : World) : Path :=
  let runtime := (w.settings.lookup "XDG_RUNTIME_DIR").getD ""
  (if runtime = "" then pathOf w.temporary else Path.ofString runtime).child "callslice.fifo"

/-- The layout engine's program. -/
def engineProgram (w : World) : String := (w.settings.lookup "CALLSLICE_DOT").getD "dot"

end World

/-! ## Log files -/

namespace LogFile

/-- The number of a level by its name, in letters of any case; unknown names mean the level of
    information. One name stands for a text that is no level. -/
def threshold? (name : String) : Except String Nat :=
  match Text.inCapitals name with
  | "CRITICAL" | "FATAL" => .ok 50
  | "ERROR" => .ok 40
  | "WARNING" | "WARN" => .ok 30
  | "INFO" => .ok 20
  | "DEBUG" => .ok 10
  | "NOTSET" => .ok 0
  | "BASIC_FORMAT" => .error "%(levelname)s:%(name)s:%(message)s"
  | _ => .ok 20

/-- The least number of messages that a level lets through; a level of zero leaves it to the rule
    for all programs, which asks for warnings. -/
def effective (level : Nat) : Nat := if level = 0 then Level.warning.number else level

/-- Begins to log to a file, or to none; the number of the level. The file is made at once. -/
def setUp (level : String) (path : Option Path) : Action Nat := do
  match path with
  | none => pure ()
  | some path =>
    let w ← get
    Action.onDisk .system (OnDisk.ensureDirectories w.base path.parent)
    Action.onDisk .system (OnDisk.appendFile w.base (w.absolute path) [])
  match threshold? level with
  | .error text => throw (.unknownLevel text)
  | .ok number =>
    modify fun w => { w with logFile := path.map fun p => ⟨w.absolute p, effective number⟩ }
    return number

end LogFile

end CallExcerpt
