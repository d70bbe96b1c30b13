import CallExcerpt.Channel.Basic
import CallExcerpt.Graph.Source
import CallExcerpt.Walk.Work

/-! # Failures

    All ways in which a request, a command or a tool call may fail, with their
    words. Some families are the program's own: they are told to whoever asked.
    The others come up from below and are unexpected.
-/

namespace CallExcerpt

/-- A failure. -/
inductive Failure where
  /-- The request makes no sense. -/
  | request (fault : Request.Fault)
  /-- The record is no request, or the request has no record. -/
  | record (fault : Wire.Fault)
  /-- A pattern could not be read. -/
  | pattern (fault : Filters.Fault)
  /-- The graph could not be loaded. -/
  | source (fault : Source.Fault)
  /-- The walk failed. -/
  | walk (fault : WalkFault)
  /-- A pattern of roots selects nothing. -/
  | noMatch (pattern : String)
  /-- The layout engine could not be started. -/
  | engineUnavailable (engine reason : String)
  /-- The layout engine failed on a description. -/
  | engineFailed (engine : String) (description : Path) (detail : String)
  /-- What the layout engine wrote is no text. -/
  | garbled (fault : Text.Utf8.Fault)
  /-- A description could not be written. -/
  | cannotWrite (path : Path) (cause : SystemFault)
  /-- There is no place for working files. -/
  | noWorkingDirectory (cause : SystemFault)
  /-- The request channel failed. -/
  | channel (fault : Channel.Fault)
  /-- The system refused an operation. -/
  | system (cause : SystemFault)
  /-- A file name was needed of a path that has none. -/
  | nameless (path : Path)
  /-- There is no such level of messages. -/
  | unknownLevel (text : String)
  /-- A value has no spelling for a message. -/
  | unspellable (cause : Json.Unspellable)
  deriving Inhabited

namespace Failure

/-- The failure in words. -/
def message : Failure → String
  | .request fault => fault.message
  | .record fault => fault.message
  | .pattern fault => fault.message
  | .source fault => fault.message
  | .walk fault => fault.message
  | .noMatch text => s!"No symbol matches root pattern '{text}'"
  | .engineUnavailable engine reason => s!"Layout engine '{engine}' is unavailable: {reason}"
  | .engineFailed engine description detail =>
    s!"Layout engine '{engine}' failed on {description}: {detail}"
  | .garbled fault => fault.message
  | .cannotWrite path cause => s!"Cannot write {path}: {cause.message}"
  | .noWorkingDirectory cause => s!"Cannot create working directory: {cause.message}"
  | .channel fault => fault.message
  | .system cause => cause.message
  | .nameless path => s!"PosixPath({Text.quoted path.toString}) has an empty name"
  | .unknownLevel text => s!"Unknown level: {Text.quoted text}"
  | .unspellable cause => cause.message

/-- The families of failures. -/
inductive Family where
  /-- A parameter, or a combination of them, makes no sense. -/
  | config
  /-- The graph source is missing or no graph. -/
  | input
  /-- There is no such symbol. -/
  | symbolNotFound
  /-- The excerpt is empty. -/
  | emptyResult
  /-- The layout engine is missing or failed. -/
  | render
  /-- Storage or the channel failed. -/
  | resource
  /-- A value is not fit for an operation. -/
  | value
  /-- A number is too large. -/
  | overflow
  /-- There is no room for something so deep. -/
  | recursion
  /-- An input ended too early. -/
  | endOfInput
  /-- Compressed data are bad. -/
  | compression
  /-- Octets are no text. -/
  | decoding
  /-- A text cannot be put in octets. -/
  | encoding
  /-- Something was taken from an empty sheet. -/
  | nothingThere
  /-- The system refused an operation. -/
  | system (error : SystemError)
  /-- A pipe lost its readers. -/
  | brokenPipe
  /-- The library does not speak of such a value. -/
  | unsupported
  deriving Repr, DecidableEq

/-- The word for a family. -/
def Family.word : Family → String
  | .config => "ConfigError"
  | .input => "InputError"
  | .symbolNotFound => "SymbolNotFoundError"
  | .emptyResult => "EmptyResultError"
  | .render => "RenderError"
  | .resource => "ResourceError"
  | .value => "ValueError"
  | .overflow => "OverflowError"
  | .recursion => "RecursionError"
  | .endOfInput => "EOFError"
  | .compression => "error"
  | .decoding => "UnicodeDecodeError"
  | .encoding => "UnicodeEncodeError"
  | .nothingThere => "IndexError"
  | .system .noEntry => "FileNotFoundError"
  | .system .alreadyThere => "FileExistsError"
  | .system .notDirectory => "NotADirectoryError"
  | .system .isDirectory => "IsADirectoryError"
  | .system (.limited .denied) | .system (.limited .notPermitted) => "PermissionError"
  | .system .noReader | .system .nameTooLong | .system (.limited _) => "OSError"
  | .brokenPipe => "BrokenPipeError"
  | .unsupported => "Unsupported"

/-- Is the family one of the program's own? -/
def Family.isOwn : Family → Bool
  | .config | .input | .symbolNotFound | .emptyResult | .render | .resource => true
  | _ => false

/-- The family of a refusal. -/
def familyOfCause : SystemFault → Family
  | .refused error _ => .system error
  | .brokenPipe => .brokenPipe
  | .nullByte => .value
  | .broken reason => .system (.limited reason)
  | .notEncoded _ => .encoding
  | .tooDeep => .recursion

/-- The family of a value without a spelling. -/
def familyOfUnspellable : Json.Unspellable → Family
  | .longNumber => .value
  | .noRoom _ => .recursion

/-- The family of a fault of a graph source. -/
def familyOfSource : Source.Fault → Family
  | .notUnpacked _ .cutShort => .endOfInput
  | .notUnpacked _ (.bad _) => .compression
  | .longNumber _ => .value
  | .loneHalf => .unsupported
  | .system cause => familyOfCause cause
  | .document (.unspellable cause) => familyOfUnspellable cause
  | _ => .input

/-- The family of a failure. -/
def family : Failure → Family
  | .record .depthTooLong => .value
  | .request (.negativeDepth depth) => if Text.isWritable depth then .config else .value
  | .request _ | .record _ => .config
  | .pattern fault =>
    match fault.fault.problem with
    | .countTooLarge => .overflow
    | .longCount _ | .bothAlphabets => .value
    | .nestedTooDeeply => .recursion
    | _ => .config
  | .source fault => familyOfSource fault
  | .unspellable cause => familyOfUnspellable cause
  | .walk (.unknownSymbol _) | .noMatch _ => .symbolNotFound
  | .walk (.noPath _ _ _) => .emptyResult
  | .walk .nothingDrawn => .nothingThere
  | .engineUnavailable _ _ | .engineFailed _ _ _ => .render
  | .garbled _ => .decoding
  | .cannotWrite _ _ | .noWorkingDirectory _ => .resource
  | .channel (.system cause) => familyOfCause cause
  | .channel (.noWait .notANumber) => .value
  | .channel (.noWait _) => .overflow
  | .channel _ => .resource
  | .system cause => familyOfCause cause
  | .nameless _ | .unknownLevel _ => .value

/-- Is the failure one of the program's own? -/
def isOwn (f : Failure) : Bool := f.family.isOwn

end Failure

end CallExcerpt
