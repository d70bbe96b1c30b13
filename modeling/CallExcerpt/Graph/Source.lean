import CallExcerpt.Files.Disk
import CallExcerpt.Graph.Document
import CallExcerpt.Json.Reader
import CallExcerpt.Text.Lines

/-! # Graph sources

    A graph source is a file that holds a graph document as JSON in UTF-8; if
    its name ends in `.gz`, compressed. Reading goes through four stages, and
    each has its own way to fail: the octets, the text, the value, the graph.
-/

namespace CallExcerpt.Source

/-- Why a source gives no graph. -/
inductive Fault where
  /-- There is no file at the path. -/
  | notFound (path : Path)
  /-- The system refused to read the file. -/
  | notRead (path : Path) (cause : SystemFault)
  /-- The compressed file gives no octets. -/
  | notUnpacked (path : Path) (fault : Gzip.Fault)
  /-- The octets are no text. -/
  | notText (path : Path) (fault : Text.Utf8.Fault)
  /-- The text is no value. -/
  | notValue (path : Path) (text : List Char) (flaw : Json.Flaw)
  /-- A number in the text has too many digits. -/
  | longNumber (digits : Nat)
  /-- The text spells half of a pair, which has no place in a text of this library. -/
  | loneHalf
  /-- The value is no document. -/
  | document (fault : Document.Fault)
  /-- The system refused to look at the path. -/
  | system (cause : SystemFault)

/-- What is said of a file that could not be read. -/
def unreadable (path : Path) (reason : String) : String :=
  s!"Cannot read graph source {path}: {reason}"

/-- The fault in words. -/
def Fault.message : Fault → String
  | .notFound path => s!"Graph source not found: {path}"
  | .notRead path cause => unreadable path cause.message
  | .notUnpacked path fault => if fault.isApart then fault.message else unreadable path fault.message
  | .notText path fault => unreadable path fault.message
  | .notValue path text flaw => unreadable path (flaw.message text)
  | .longNumber digits => (Json.Problem.longNumber digits).message
  | .loneHalf => Json.Problem.loneHalf.message
  | .document fault => fault.message
  | .system cause => cause.message

/-- The suffix of compressed files. -/
def compressedSuffix : String := ".gz"

/-- The octets inside a compressed file. -/
def inflate (path : Path) (content : Content) : Except Fault (List UInt8) :=
  (Gzip.unpack content.octets).mapError (.notUnpacked path)

/-- The octets that a source holds. -/
def readOctets (path : Path) (content : Content) : Except Fault (List UInt8) :=
  if path.suffix = compressedSuffix then inflate path content else .ok content.octets

/-- The text of octets. -/
def readText (path : Path) (octets : List UInt8) : Except Fault (List Char) :=
  match Text.Utf8.decode octets with
  | .ok cs => .ok (Text.unifyLineEnds cs)
  | .error fault => .error (.notText path fault)

/-- The fault of a text that is not read as a value. -/
def ofFlaw (path : Path) (text : List Char) (flaw : Json.Flaw) : Fault :=
  match flaw.problem with
  | .longNumber digits => .longNumber digits
  | .loneHalf => .loneHalf
  | _ => .notValue path text flaw

/-- The value that a text spells. -/
def readValue (path : Path) (text : List Char) : Except Fault Json :=
  (Json.parse text).mapError (ofFlaw path text)

/-- The graph of a document. -/
def readGraph (document : Json) : Except Fault Graph :=
  match Document.read document with
  | .ok g => .ok g
  | .error fault => .error (.document fault)

/-- The graph that a file's content describes. -/
def read (path : Path) (content : Content) : Except Fault Graph := do
  let octets ← readOctets path content
  let text ← readText path octets
  let document ← readValue path text
  readGraph document

/-- The graph of the file at a path. A path that the system does not take leads to no file, and so
    does one where it finds nothing. It may refuse to look, and it may refuse to read. -/
def load (disk : Disk) (base : Location) (path : Path) : Except Fault Graph :=
  match disk.lookRefused? base path with
  | some e => .error (.system (.refused e path.toString))
  | none =>
    match disk.file? base path with
    | none => .error (.notFound path)
    | some content =>
      match disk.readRefused? base path with
      | some cause => .error (.notRead path cause)
      | none => read path content

end CallExcerpt.Source
