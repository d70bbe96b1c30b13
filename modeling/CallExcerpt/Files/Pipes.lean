import CallExcerpt.Files.Disk

/-! # Named pipes

    The ends of a named pipe. A pipe keeps what was written until it is read,
    as long as one end is open. An end is opened without waiting: for writing
    only while somebody has the pipe open for reading.

    A reading end is at the end of its input when the pipe is empty, nobody
    has it open for writing, and somebody had since the end was opened.
-/

namespace CallExcerpt

/-- An open reading end. -/
structure ReadEnd where
  /-- The number of the pipe. -/
  pipe : Nat
  /-- The number of openings for writing that are no news to this end. -/
  known : Nat
  deriving Repr, DecidableEq

/-- An open writing end. -/
inductive WriteEnd where
  /-- Of the pipe with a number. -/
  | pipe (number : Nat)
  /-- Of a file; it writes over the file's first octets. -/
  | file (place : Location)
  deriving Repr, DecidableEq

/-- What a reading end finds. -/
inductive Arrival where
  /-- Nothing for now. -/
  | nothing
  /-- Octets. -/
  | octets (octets : List UInt8)
  /-- The end of the input. -/
  | hangUp
  deriving Repr, DecidableEq

namespace Pipe

/-- A pipe that nobody has open loses what was not read. -/
def settle (p : Pipe) : Pipe := if p.readers = 0 && p.writers = 0 then { p with queue := [] } else p

end Pipe

namespace OnDisk

/-- Changes the pipe with a number. -/
def modifyPipe (number : Nat) (f : Pipe → Pipe) : OnDisk Unit :=
  modify fun d => { d with pipes := d.pipes.modify number f }

/-- The pipe with a number. -/
def pipeOf (number : Nat) : OnDisk Pipe := return (← get).pipes[number]?.getD {}

/-- Opens a pipe for reading. A writer who is there already counts as news. -/
def openReader (base : Location) (p : Path) : OnDisk ReadEnd := do
  let l ← locate base p
  match (← get).find? l with
  | some (.pipe number) =>
    let pipe ← pipeOf number
    modifyPipe number fun q => { q with readers := q.readers + 1 }
    return ⟨number, if pipe.writers = 0 then pipe.openings else pipe.openings - 1⟩
  | some .directory => throw (.refused .isDirectory p.toString)
  | _ => throw (.refused .noEntry p.toString)

/-- Closes a reading end. -/
def closeReader (r : ReadEnd) : OnDisk Unit :=
  modifyPipe r.pipe fun q => { q with readers := q.readers - 1 }.settle

/-- Opens a pipe or a file for writing. -/
def openWriter (base : Location) (p : Path) : OnDisk WriteEnd := do
  let l ← locate base p
  match (← get).find? l with
  | none => throw (.refused .noEntry p.toString)
  | some .directory => throw (.refused .isDirectory p.toString)
  | some (.file _) => return .file l
  | some (.pipe number) =>
    if (← pipeOf number).readers = 0 then throw (.refused .noReader p.toString)
    modifyPipe number fun q => { q with writers := q.writers + 1, openings := q.openings + 1 }
    return .pipe number

/-- Writes octets. -/
def write (w : WriteEnd) (octets : List UInt8) : OnDisk Unit := do
  match w with
  | .pipe number =>
    if (← pipeOf number).readers = 0 then throw .brokenPipe
    modifyPipe number fun q => { q with queue := q.queue ++ octets }
  | .file place =>
    modify fun d =>
      match d.find? place with
      | some (.file content) =>
        d.put place (.file (.plain (octets ++ content.octets.drop octets.length)))
      | _ => d

/-- Closes a writing end. -/
def closeWriter (w : WriteEnd) : OnDisk Unit :=
  match w with
  | .pipe number => modifyPipe number fun q => { q with writers := q.writers - 1 }.settle
  | .file _ => return

/-- Reads what is there, at most `limit` octets. -/
def read (r : ReadEnd) (limit : Nat) : OnDisk Arrival := do
  let pipe ← pipeOf r.pipe
  if pipe.queue.isEmpty then
    return if pipe.writers = 0 && r.known < pipe.openings then .hangUp else .nothing
  else
    modifyPipe r.pipe fun q => { q with queue := q.queue.drop limit }
    return .octets (pipe.queue.take limit)

end OnDisk

end CallExcerpt
