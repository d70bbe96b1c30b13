import CallExcerpt.Channel.Inbox
import CallExcerpt.Channel.Timeout

/-! # Request channels

    The receiving end of a named pipe, with the inbox that makes records out
    of what it reads, and the sending of one record. A pipe whose last writer
    has left would tell the end of its input for ever, so the channel opens it
    anew then: the new end before the old one is closed, which keeps the pipe
    and all that is queued in it.
-/

namespace CallExcerpt

namespace Channel

/-- What can go wrong with a channel. -/
inductive Fault where
  /-- The channel is not open. -/
  | notOpen
  /-- The system does not wait for so long. -/
  | noWait (fault : Timeout.Fault)
  /-- There is something else than a pipe at the path. -/
  | notAPipe (path : Path)
  /-- The pipe could not be made or opened. -/
  | cannotOpen (path : Path) (cause : SystemFault)
  /-- The pipe could not be opened anew. -/
  | cannotReopen (path : Path) (cause : SystemFault)
  /-- There is no pipe to send to. -/
  | noChannel (path : Path)
  /-- Nobody reads from the pipe. -/
  | nobodyListens (path : Path)
  /-- The pipe did not take the record. -/
  | cannotWrite (path : Path) (cause : SystemFault)
  /-- The system refused what the channel cannot speak for. -/
  | system (cause : SystemFault)
  deriving Repr, DecidableEq

/-- The fault in words. -/
def Fault.message : Fault → String
  | .notOpen => "Request channel is not open"
  | .noWait fault => fault.message
  | .notAPipe path => s!"{path} exists and is not a FIFO"
  | .cannotOpen path cause => s!"Cannot open request channel {path}: {cause.message}"
  | .cannotReopen path cause => s!"Cannot reopen request channel {path}: {cause.message}"
  | .noChannel path => s!"No request channel at {path}; is the daemon running?"
  | .nobodyListens path => s!"No daemon is listening on {path}"
  | .cannotWrite path cause => s!"Cannot write to request channel {path}: {cause.message}"
  | .system cause => cause.message

/-- The most octets that are read at a time. -/
def readSize : Nat := 65536

end Channel

/-- The receiving end of a channel. -/
structure Channel where
  /-- The path of the pipe. -/
  path : Path
  /-- The open end, if the channel is open. -/
  reader : Option ReadEnd := none
  /-- Was the pipe made by the channel? -/
  created : Bool := false
  /-- The records that arrive. -/
  inbox : Inbox := {}
  deriving Repr, DecidableEq

/-- A channel and the disk where its pipe is. -/
structure Channel.Site where
  /-- The disk. -/
  disk : Disk
  /-- The working directory. -/
  base : Location
  /-- The channel. -/
  channel : Channel

/-- An operation of a channel. -/
abbrev OnChannel := EStateM Channel.Fault Channel.Site

namespace OnChannel

/-- An operation on the disk whose refusal is a fault of the channel. -/
def onDisk {α : Type} (fault : SystemFault → Channel.Fault) (x : OnDisk α) : OnChannel α :=
  fun s =>
    match x s.disk with
    | .ok a disk => .ok a { s with disk }
    | .error e disk => .error (fault e) { s with disk }

/-- What the channel says of a refusal: it speaks for the system only. -/
def refusal (fault : SystemFault → Channel.Fault) (cause : SystemFault) : Channel.Fault :=
  if cause.isOfSystem then fault cause else .system cause

/-- Changes the channel. -/
def update (f : Channel → Channel) : OnChannel Unit := modify fun s => { s with channel := f s.channel }

/-- Makes the pipe if there is nothing at its path. -/
def ensurePipe (path : Path) : OnChannel Unit := do
  let s ← get
  let failed := refusal (.cannotOpen path)
  match s.disk.lookRefused? s.base path, s.disk.entryAt? s.base path with
  | some e, _ => throw (.cannotOpen path (.refused e path.toString))
  | _, some (.pipe _) => return
  | _, some _ => throw (.notAPipe path)
  | _, none =>
    onDisk failed (OnDisk.ensureDirectories s.base path.parent)
    onDisk failed (OnDisk.makePipe s.base path)
    update fun c => { c with created := true }

/-- Opens the channel for reading. -/
def openChannel : OnChannel Unit := do
  let s ← get
  let path := s.channel.path
  ensurePipe path
  let reader ← onDisk (refusal (.cannotOpen path)) (OnDisk.openReader s.base path)
  update fun c => { c with reader := some reader }

/-- Opens the pipe anew, with the old end closed after that. -/
def reopen : OnChannel Unit := do
  let s ← get
  match s.channel.reader with
  | none => throw .notOpen
  | some old =>
    let path := s.channel.path
    let reader ← onDisk (refusal (.cannotReopen path)) (OnDisk.openReader s.base path)
    onDisk .system (OnDisk.closeReader old)
    update fun c => { c with reader := some reader }

/-- Takes in what is there; the end of the input opens the pipe anew. -/
def look : OnChannel Unit := do
  match (← get).channel.reader with
  | none => throw .notOpen
  | some reader =>
    let arrival ← onDisk .system (OnDisk.read reader Channel.readSize)
    update fun c => { c with inbox := c.inbox.accept arrival }
    if arrival = .hangUp then reopen

/-- The first record that is pending, if there is one. -/
def take : OnChannel (Option String) := do
  match (← get).channel.inbox.take? with
  | none => return none
  | some (record, inbox) =>
    update fun c => { c with inbox }
    return some record

/-- The next record, if one arrives within so many seconds. A record that is pending comes at once.
    The disk is as it is at the end of the wait. -/
def receive (seconds : Number.Binary64 := Number.Binary64.ofInt 0) : OnChannel (Option String) := do
  match ← take with
  | some record => return some record
  | none =>
    if (← get).channel.reader.isNone then throw .notOpen
    match Timeout.millis seconds with
    | .error fault => throw (.noWait fault)
    | .ok _ =>
      look
      take

/-- Closes the channel, and removes the pipe if the channel made it. -/
def close : OnChannel Unit := do
  let s ← get
  match s.channel.reader with
  | some reader => onDisk .system (OnDisk.closeReader reader)
  | none => pure ()
  update fun c => { c with reader := none }
  if s.channel.created then
    onDisk .system (OnDisk.removeName s.base s.channel.path)
    update fun c => { c with created := false }

end OnChannel

namespace Channel

/-- What the sender says of a refusal to open the pipe. -/
def sendFault (path : Path) : SystemFault → Fault
  | .refused .noEntry _ => .noChannel path
  | .refused .noReader _ => .nobodyListens path
  | cause => OnChannel.refusal (.cannotOpen path) cause

/-- Sends one record to the pipe at a path. -/
def send (base : Location) (path : Path) (record : String) (disk : Disk) : Except Fault Unit × Disk :=
  match OnDisk.openWriter base path disk with
  | .error cause disk => (.error (sendFault path cause), disk)
  | .ok writer disk =>
    match OnDisk.write writer (Text.Utf8.encode record) disk with
    | .ok _ disk =>
      match OnDisk.closeWriter writer disk with
      | .ok _ disk | .error _ disk => (.ok (), disk)
    | .error cause disk =>
      match OnDisk.closeWriter writer disk with
      | .ok _ disk | .error _ disk => (.error (.cannotWrite path cause), disk)

end Channel

end CallExcerpt
