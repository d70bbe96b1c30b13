import CallExcerpt.Files.Gzip
import CallExcerpt.Files.Path
import CallExcerpt.Table
import CallExcerpt.Text.Utf8

/-! # The disk

    A tree of directories, files and named pipes, kept as a table from
    locations to entries, with the operations that the program asks for and
    the ways in which they fail. What an operation did before it failed
    stays done.

    Some refusals can be told from the tree: a name is missing, or something
    else is in the way. Others cannot, and are said by the disk's `Limits`:
    rights, space, the device. A file is written in three steps, each with its
    own refusals: its path is followed, it is opened, which empties it, and it
    is filled, perhaps in part only.
-/

namespace CallExcerpt

/-! ## Failures of the system -/

/-- Why the system refuses an operation for which there is nothing wrong with the tree. -/
inductive Reason where
  /-- The user has no right to do it. -/
  | denied
  /-- Nobody has. -/
  | notPermitted
  /-- The device failed. -/
  | device
  /-- There is no space left. -/
  | noSpace
  /-- The file would be larger than is allowed. -/
  | tooLarge
  /-- Nothing may be written there. -/
  | readOnly
  /-- The user has no more space. -/
  | quota
  /-- The way is a circle of links. -/
  | circle
  deriving Repr, DecidableEq

/-- The number that the system gives to a reason. -/
def Reason.number : Reason → Nat
  | .notPermitted => 1
  | .device => 5
  | .denied => 13
  | .tooLarge => 27
  | .noSpace => 28
  | .readOnly => 30
  | .circle => 40
  | .quota => 122

/-- The reason in the system's words. -/
def Reason.text : Reason → String
  | .notPermitted => "Operation not permitted"
  | .device => "Input/output error"
  | .denied => "Permission denied"
  | .tooLarge => "File too large"
  | .noSpace => "No space left on device"
  | .readOnly => "Read-only file system"
  | .circle => "Too many levels of symbolic links"
  | .quota => "Disk quota exceeded"

/-- Why an operation on a path was refused. -/
inductive SystemError where
  /-- There is nothing at the path. -/
  | noEntry
  /-- Nobody reads from the pipe. -/
  | noReader
  /-- There is something at the path already. -/
  | alreadyThere
  /-- A name before the last one is no directory. -/
  | notDirectory
  /-- The path is a directory. -/
  | isDirectory
  /-- A name is longer than the system allows. -/
  | nameTooLong
  /-- The system has another reason. -/
  | limited (reason : Reason)
  deriving Repr, DecidableEq

/-- The number that the system gives to an error. -/
def SystemError.number : SystemError → Nat
  | .noEntry => 2
  | .noReader => 6
  | .alreadyThere => 17
  | .notDirectory => 20
  | .isDirectory => 21
  | .nameTooLong => 36
  | .limited reason => reason.number

/-- The error in the system's words. -/
def SystemError.text : SystemError → String
  | .noEntry => "No such file or directory"
  | .noReader => "No such device or address"
  | .alreadyThere => "File exists"
  | .notDirectory => "Not a directory"
  | .isDirectory => "Is a directory"
  | .nameTooLong => "File name too long"
  | .limited reason => reason.text

/-- Does the error only tell that there is nothing at the path? -/
def SystemError.isAbsence : SystemError → Bool
  | .noEntry | .notDirectory | .limited .circle => true
  | _ => false

/-- A refused operation. -/
inductive SystemFault where
  /-- The system refused it for the path. -/
  | refused (error : SystemError) (path : String)
  /-- All readers have left the pipe. -/
  | brokenPipe
  /-- The path holds the character that ends names inside the system. -/
  | nullByte
  /-- An entry that was opened could not be worked on to the end. -/
  | broken (reason : Reason)
  /-- A text cannot be put in octets; the words say what keeps it from that. -/
  | notEncoded (words : String)
  /-- The directories that are missing are too many to be made at once. -/
  | tooDeep
  deriving Repr, DecidableEq

/-- The fault in words. -/
def SystemFault.message : SystemFault → String
  | .refused error path => s!"[Errno {error.number}] {error.text}: {Text.quoted path}"
  | .brokenPipe => "[Errno 32] Broken pipe"
  | .nullByte => "embedded null byte"
  | .broken reason => s!"[Errno {reason.number}] {reason.text}"
  | .notEncoded words => words
  | .tooDeep => "maximum recursion depth exceeded"

/-- Does the fault come from the system? The others arise before it is asked. -/
def SystemFault.isOfSystem : SystemFault → Bool
  | .nullByte | .notEncoded _ | .tooDeep => false
  | _ => true

/-! ## Entries -/

/-- The names from the root down to an entry. -/
abbrev Location := List String

/-- What a file holds. -/
structure Content where
  plain ::
  /-- The octets of the file. -/
  octets : List UInt8
  deriving Repr, DecidableEq

/-- What a compressed file holds; one that is not whole lacks what stands at its end. -/
def Content.compressed (payload : List UInt8) (whole : Bool) : Content :=
  .plain (Gzip.pack payload |>.take (if whole then (Gzip.pack payload).length
    else (Gzip.pack payload).length - (Gzip.trailer payload).length))

/-- A named pipe. -/
structure Pipe where
  /-- The octets that were written and not yet read. -/
  queue : List UInt8 := []
  /-- The number of open reading ends. -/
  readers : Nat := 0
  /-- The number of open writing ends. -/
  writers : Nat := 0
  /-- The number of times that a writing end was opened. -/
  openings : Nat := 0
  deriving Repr, DecidableEq

/-- What stands at a location. -/
inductive Entry where
  /-- A directory. -/
  | directory
  /-- A file. -/
  | file (content : Content)
  /-- The name of the pipe with a number. -/
  | pipe (number : Nat)
  deriving Repr, DecidableEq

/-- The entries below the root. -/
abbrev Tree := List (Location × Entry)

/-- What keeps the system from working on an entry. -/
structure Hindrance where
  /-- Why. -/
  reason : Reason
  /-- Was the entry opened before that? -/
  opened : Bool
  deriving Repr, DecidableEq

/-- The fault of a hindrance. -/
def Hindrance.fault (h : Hindrance) (p : Path) : SystemFault :=
  if h.opened then .broken h.reason else .refused (.limited h.reason) p.toString

/-- What keeps octets from being taken in. -/
inductive Trouble where
  /-- The system takes no more. -/
  | refused (reason : Reason)
  /-- They are none: the text cannot be put in octets. -/
  | notEncoded (words : String)
  deriving Repr, DecidableEq

/-- The fault of a trouble. -/
def Trouble.fault : Trouble → SystemFault
  | .refused reason => .broken reason
  | .notEncoded words => .notEncoded words

/-- How many octets are taken in before a trouble. -/
structure Overflow where
  /-- The number of octets. -/
  taken : Nat
  /-- What keeps the others from being taken in. -/
  trouble : Trouble
  deriving Repr, DecidableEq

/-- What is left of a directory that the system does not let go. -/
structure Remnant where
  /-- Why. -/
  reason : Reason
  /-- The path that it tells of. -/
  path : String
  /-- Is an entry still there? -/
  kept : Location → Bool

/-- What the system refuses though there is nothing wrong with the tree. But for the way to an entry
    it may depend on all that is there. -/
structure Limits where
  /-- To go through a directory. -/
  passing : Location → Option Reason := fun _ => none
  /-- To read a file. -/
  reading : Tree → Location → Option Hindrance := fun _ _ => none
  /-- To make an entry, or to open it for writing. -/
  opening : Tree → Location → Option Reason := fun _ _ => none
  /-- To take in octets. -/
  filling : Tree → Location → List UInt8 → Option Overflow := fun _ _ _ => none
  /-- To remove a directory with all that is below it. -/
  removing : Tree → Location → Option Remnant := fun _ _ => none
  /-- To make a directory with more than so many directories above it at once. -/
  climbing : Option Nat := none

/-- All entries of a disk, and the pipes by number; a pipe outlives its name. -/
structure Disk where
  /-- The entries below the root. -/
  entries : Tree := []
  /-- The pipes by number. -/
  pipes : List Pipe := []
  /-- What the system refuses. -/
  limits : Limits := {}

namespace Disk

/-- What stands at a location; the root is a directory. -/
def find? (d : Disk) (l : Location) : Option Entry :=
  if l.isEmpty then some .directory else d.entries.lookup l

/-- The disk with an entry at a location. -/
def put (d : Disk) (l : Location) (e : Entry) : Disk := { d with entries := Table.put l e d.entries }

/-- The disk without the entry at a location and all below it, but for those that are kept. -/
def removeTree (d : Disk) (l : Location) (kept : Location → Bool := fun _ => false) : Disk :=
  { d with entries := d.entries.filter fun e => !l.isPrefixOf e.1 || kept e.1 }

/-- The longest name that the system allows, in octets. -/
def maxName : Nat := 255

/-- The longest path that the system allows, in octets, its end included. -/
def maxPath : Nat := 4096

/-- Follows names from a directory; only the last one may lead to nothing. -/
def follow (d : Disk) (l : Location) : List String → Except SystemError Location
  | [] => .ok l
  | n :: ns =>
    match d.find? l with
    | none => .error .noEntry
    | some .directory =>
      match d.limits.passing l with
      | some reason => .error (.limited reason)
      | none =>
        if n = ".." then d.follow l.dropLast ns
        else if maxName < n.utf8ByteSize then .error .nameTooLong
        else d.follow (l ++ [n]) ns
    | some _ => .error .notDirectory

/-- The location of a path, seen from a working directory. -/
def locate (d : Disk) (base : Location) (p : Path) : Except SystemError Location :=
  if maxPath ≤ p.toString.utf8ByteSize then .error .nameTooLong
  else match p.anchor with
    | .relative => d.follow base p.parts
    | _ => d.follow [] p.parts

/-- What stands at a path. -/
def entryAt? (d : Disk) (base : Location) (p : Path) : Option Entry :=
  if p.toString.contains '\x00' then none
  else match d.locate base p with
    | .ok l => d.find? l
    | .error _ => none

/-- Why the system refuses to tell what stands at a path, if it does. -/
def lookRefused? (d : Disk) (base : Location) (p : Path) : Option SystemError :=
  if p.toString.contains '\x00' then none
  else match d.locate base p with
    | .ok _ => none
    | .error e => if e.isAbsence then none else some e

/-- Is there a directory at the path? -/
def isDirectory (d : Disk) (base : Location) (p : Path) : Bool := d.entryAt? base p = some .directory

/-- The content of the file at the path, if there is one. -/
def file? (d : Disk) (base : Location) (p : Path) : Option Content :=
  match d.entryAt? base p with
  | some (.file content) => some content
  | _ => none

/-- Why the system refuses to read the entry at a path, if it does. -/
def readRefused? (d : Disk) (base : Location) (p : Path) : Option SystemFault :=
  match d.locate base p with
  | .ok l => (d.limits.reading d.entries l).map (·.fault p)
  | .error _ => none

end Disk

/-! ## Operations -/

/-- An operation on the disk. -/
abbrev OnDisk := EStateM SystemFault Disk

namespace OnDisk

/-- The location of a path, or the system's refusal. -/
def locate (base : Location) (p : Path) : OnDisk Location := do
  if p.toString.contains '\x00' then throw .nullByte
  match (← get).locate base p with
  | .ok l => return l
  | .error e => throw (.refused e p.toString)

/-- Goes on unless the system refuses to make the entry at a location, or to open it for writing. -/
def permit (l : Location) (p : Path) : OnDisk Unit := do
  let d ← get
  match d.limits.opening d.entries l with
  | some reason => throw (.refused (.limited reason) p.toString)
  | none => return

/-- Makes one directory. -/
def makeDirectory (base : Location) (p : Path) : OnDisk Unit := do
  let l ← locate base p
  match (← get).find? l with
  | some _ => throw (.refused .alreadyThere p.toString)
  | none =>
    permit l p
    modify fun d => d.put l .directory

/-- Makes a directory that may be there already. -/
def ensureDirectory (base : Location) (p : Path) : OnDisk Unit := do
  try makeDirectory base p
  catch fault =>
    match fault with
    | .refused .noEntry _ => throw fault
    | .refused _ _ => if !(← get).isDirectory base p then throw fault
    | _ => throw fault

/-- Makes a directory with the first `parents` of the directories above it, from the nearest one
    on; all may be there already. It cannot go higher, and if there are `more` it fails if it has
    to. -/
def ensureDirectoriesFrom (base : Location) (p : Path) (more : Bool) : Nat → OnDisk Unit
  | 0 => do
    try ensureDirectory base p
    catch fault =>
      match more, fault with
      | true, .refused .noEntry _ => throw .tooDeep
      | _, _ => throw fault
  | parents + 1 => do
    try ensureDirectory base p
    catch fault =>
      match fault with
      | .refused .noEntry _ =>
        ensureDirectoriesFrom base p.parent more parents
        ensureDirectory base p
      | _ => throw fault

/-- Makes a directory with all directories above it. -/
def ensureDirectories (base : Location) (p : Path) : OnDisk Unit := do
  let parents := p.parts.length
  let most := (← get).limits.climbing.getD parents
  ensureDirectoriesFrom base p (most < parents) (min most parents)

/-- Adds octets to what is queued in a pipe, as a writer who comes and leaves. -/
def queueIn (number : Nat) (octets : List UInt8) : OnDisk Unit :=
  modify fun d => { d with
    pipes := d.pipes.modify number fun q =>
      { q with queue := q.queue ++ octets, openings := q.openings + 1 } }

/-- Opens the entry at a path for writing: a file that was there is emptied, and one that was not is
    made. -/
def openForWriting (base : Location) (p : Path) : OnDisk Location := do
  let l ← locate base p
  match (← get).find? l with
  | some .directory => throw (.refused .isDirectory p.toString)
  | some (.pipe _) =>
    permit l p
    return l
  | _ =>
    permit l p
    modify fun d => d.put l (.file (.plain []))
    return l

/-- Adds octets at the end of what is open at a location, as many as the system takes. -/
def fill (l : Location) (octets : List UInt8) : OnDisk Unit := do
  let d ← get
  let overflow := d.limits.filling d.entries l octets
  let taken := overflow.elim octets fun o => octets.take o.taken
  match d.find? l with
  | some (.pipe number) => queueIn number taken
  | some (.file content) => set (d.put l (.file (.plain (content.octets ++ taken))))
  | _ => return
  match overflow with
  | some o => throw o.trouble.fault
  | none => return

/-- Writes a file, in place of the one that was there. What is written to a pipe is queued. -/
def writeFile (base : Location) (p : Path) (octets : List UInt8) : OnDisk Unit := do
  let l ← openForWriting base p
  fill l octets

/-- Opens the entry at a path for writing at its end; a file that was not there is made. -/
def openForAdding (base : Location) (p : Path) : OnDisk Location := do
  let l ← locate base p
  match (← get).find? l with
  | some .directory => throw (.refused .isDirectory p.toString)
  | some _ =>
    permit l p
    return l
  | none =>
    permit l p
    modify fun d => d.put l (.file (.plain []))
    return l

/-- Adds octets at the end of a file, which is made if it is missing, or to a pipe. -/
def appendFile (base : Location) (p : Path) (octets : List UInt8) : OnDisk Unit := do
  let l ← openForAdding base p
  fill l octets

/-- Makes a named pipe. -/
def makePipe (base : Location) (p : Path) : OnDisk Unit := do
  let l ← locate base p
  match (← get).find? l with
  | some _ => throw (.refused .alreadyThere p.toString)
  | none =>
    permit l p
    modify fun d => { d.put l (.pipe d.pipes.length) with pipes := d.pipes ++ [({} : Pipe)] }

/-- Removes a directory with all that is below it, or what the system lets go of it. -/
def removeAll (l : Location) : OnDisk Unit := do
  let d ← get
  match d.limits.removing d.entries l with
  | none => set (d.removeTree l)
  | some remnant =>
    set (d.removeTree l remnant.kept)
    throw (.refused (.limited remnant.reason) remnant.path)

/-- Removes the name of a file or a pipe, if it is there. -/
def removeName (base : Location) (p : Path) : OnDisk Unit := do
  let d ← get
  if p.toString.contains '\x00' then throw .nullByte
  match d.locate base p with
  | .error .noEntry => return
  | .error e => throw (.refused e p.toString)
  | .ok l =>
    match d.find? l with
    | none => return
    | some .directory => throw (.refused .isDirectory p.toString)
    | some _ => set { d with entries := Table.erase l d.entries }

end OnDisk

end CallExcerpt
