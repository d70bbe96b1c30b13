import CallExcerpt.Service

/-! # Reception

    A service at work on its channel: the channel is opened, visitors send
    their texts, and the service handles the records that arrive until nothing
    is left to read. The channel is closed in any case.
-/

namespace CallExcerpt.Reception

/-- An operation of a channel in the world: its result, and the channel after it. -/
def onChannel {α : Type} (x : OnChannel α) (c : Channel) :
    Action (Except Channel.Fault α × Channel) :=
  fun w =>
    match x ⟨w.disk, w.base, c⟩ with
    | .ok a s => .ok (.ok a, s.channel) { w with disk := s.disk }
    | .error e s => .ok (.error e, s.channel) { w with disk := s.disk }

/-- Opens a channel. -/
def openChannel (c : Channel) : Action (Except Channel.Fault Unit × Channel) := do
  let (result, c) ← onChannel OnChannel.openChannel c
  match result with
  | .ok _ => Action.note .channel .debug s!"Opened request channel {c.path}"
  | .error _ => pure ()
  return (result, c)

/-- The next record on an open channel, or nothing if nothing is left to read, after at most so
    many readings. -/
def nextRecord : Nat → OnChannel (Option String)
  | 0 => return none
  | readings + 1 => do
    match ← OnChannel.take with
    | some record => return some record
    | none =>
      match (← get).channel.reader with
      | none => throw .notOpen
      | some reader =>
        let arrival ← OnChannel.onDisk .system (OnDisk.read reader Channel.readSize)
        OnChannel.update fun c => { c with inbox := c.inbox.accept arrival }
        match arrival with
        | .nothing => return none
        | .octets _ => nextRecord readings
        | .hangUp =>
          OnChannel.reopen
          nextRecord readings

/-- The number of readings after which nothing is left to read: each takes octets, or finds that
    the writers have left. -/
def readings (d : Disk) : Nat := (d.pipes.flatMap fun p => p.queue).length + 3

/-- Sends a record to the pipe at a path; a record that nobody takes is lost. -/
def send (path : Path) (record : String) : Action (Except Channel.Fault Unit) :=
  fun w =>
    let (result, disk) := Channel.send w.base path record w.disk
    .ok result { w with disk }

/-- The result of a channel's operation, whose fault is a failure. -/
def unlessFailed {α : Type} : Except Channel.Fault α → Serving α := Serving.ofExcept .channel

/-- The most records that are handled at one reception. A request may write to the channel's own
    pipe, and so ask for more. -/
def mostRecords : Nat := 100000

/-- Handles records until nothing is left to read, at most so many. -/
def attendFrom (g : Graph) (c : Channel) : Nat → Serving Channel
  | 0 => return c
  | records + 1 => do
    let disk := (← get).world.disk
    let (next, c) ← Serving.onWorld (onChannel (nextRecord (readings disk)) c)
    match ← unlessFailed next with
    | none => return c
    | some record =>
      let _ ← Service.handleRecord g record
      attendFrom g c records

/-- Serves the visitors of a channel that is open. -/
def attend (g : Graph) (c : Channel) (visitors : List String) : Serving Channel := do
  for text in visitors do
    let _ ← Serving.onWorld (send c.path text)
  Service.announce c.path
  attendFrom g c mostRecords

/-- Opens a channel, serves its visitors and closes it. -/
def serve (g : Graph) (path : Path) (visitors : List String) : Serving Unit := do
  let (opened, c) ← Serving.onWorld (openChannel { path })
  unlessFailed opened
  try
    let c ← attend g c visitors
    let (closed, _) ← Serving.onWorld (onChannel OnChannel.close c)
    unlessFailed closed
  catch failure =>
    let _ ← Serving.onWorld (onChannel OnChannel.close c)
    throw failure

end CallExcerpt.Reception
