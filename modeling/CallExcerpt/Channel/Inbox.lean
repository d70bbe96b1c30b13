import CallExcerpt.Files.Pipes
import CallExcerpt.Request.Wire

/-! # Inboxes

    An inbox makes records out of what arrives on a pipe. Octets are read as
    UTF-8, whatever the cuts between them; the text falls into pieces at
    record separators; pieces of blanks only are dropped. At the end of the
    input what is left counts as a record, and octets that wait for the rest
    of their character are dropped, so that the next writer starts afresh.
-/

namespace CallExcerpt

/-- What is known of the records that arrive. -/
structure Inbox where
  /-- The octets that wait for the rest of their character. -/
  decoder : Text.Utf8.Decoder := {}
  /-- The text after the last record. -/
  buffer : List Char := []
  /-- The records that nobody has taken, the first one first. -/
  pending : List String := []
  deriving Repr, DecidableEq

namespace Inbox

/-- The records among some pieces. -/
def records (pieces : List (List Char)) : List String :=
  (pieces.filter fun p => !p.all Text.isBlank).map String.ofList

/-- The inbox after more text. -/
def addText (i : Inbox) (cs : List Char) : Inbox :=
  let pieces := Text.pieces Wire.recordSeparator (i.buffer ++ cs)
  { i with
    buffer := pieces.getLast?.getD []
    pending := i.pending ++ records pieces.dropLast }

/-- The inbox after more octets. -/
def addOctets (i : Inbox) (octets : List UInt8) : Inbox :=
  let (cs, decoder) := i.decoder.feed octets
  { i with decoder }.addText cs

/-- The inbox after the end of the input. -/
def finish (i : Inbox) : Inbox where
  pending := i.pending ++ records [i.buffer]

/-- The inbox after an arrival. -/
def accept (i : Inbox) : Arrival → Inbox
  | .nothing => i
  | .octets octets => i.addOctets octets
  | .hangUp => i.finish

/-- Takes the first record that is pending. -/
def take? (i : Inbox) : Option (String × Inbox) :=
  match i.pending with
  | [] => none
  | r :: rs => some (r, { i with pending := rs })

end Inbox

end CallExcerpt
