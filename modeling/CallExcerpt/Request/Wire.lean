import CallExcerpt.Request.Basic
import CallExcerpt.Text.Blank
import CallExcerpt.Text.Numeral

/-! # Requests on the wire

    A request travels as one record: a tag and eighteen fields between unit
    separators, with a record separator at the end. Names are joined with
    semicolons; patterns, which may hold those, with group separators. A flag
    is a digit, and an empty field means that nothing was said.

    * `encode` refuses texts that hold a separator of the record.
    * `decode` takes any text and says what keeps it from being a request.
-/

namespace CallExcerpt.Wire

open Text (isWritable)

/-- What every record begins with. -/
def tag : String := "callslice/1"

/-- Stands between fields. -/
def fieldSeparator : Char := '\x1f'

/-- Ends a record. -/
def recordSeparator : Char := '\x1e'

/-- Stands between patterns. -/
def patternSeparator : Char := '\x1d'

/-- Stands between names. -/
def nameSeparator : Char := ';'

/-- The names of the fields in their order. -/
def fieldNames : List String := [
  "roots", "root_patterns", "direction", "max_depth", "ignore", "ignore_patterns", "show",
  "show_patterns", "trim", "no_extern", "all_locations", "end_function", "output",
  "output_format", "font", "size", "rankdir", "keep_intermediate"]

/-- Why a request has no record, or a text is none. -/
inductive Fault where
  /-- A name holds the separator of names. -/
  | separatorInName (field : String)
  /-- A text holds a separator of the record. -/
  | separatorInText (field : String)
  /-- The text does not begin with the tag. -/
  | noTag
  /-- The number of fields is wrong. -/
  | fieldCount (count : Nat)
  /-- A flag is no digit of the two. -/
  | notAFlag (field text : String)
  /-- There is no such direction. -/
  | unknownDirection (text : String)
  /-- The depth is no whole number. -/
  | notADepth (text : String)
  /-- The depth has too many digits to be written. -/
  | depthTooLong
  deriving Repr, DecidableEq

/-- The fault in words. -/
def Fault.message : Fault → String
  | .separatorInName field => s!"Field '{field}' contains a name with ';'"
  | .separatorInText field => s!"Field '{field}' contains a reserved separator character"
  | .noTag => s!"Not a {tag} request record"
  | .fieldCount count => s!"Expected {fieldNames.length} request fields, got {count}"
  | .notAFlag field text => s!"Field '{field}' must be 0 or 1, got '{text}'"
  | .unknownDirection text => s!"Unknown direction '{text}'"
  | .notADepth text => s!"Max depth must be an integer, got '{text}'"
  | .depthTooLong => Text.cannotWriteNumber

/-! ## Writing -/

/-- Does a text hold one of the characters? -/
def holds (separators : List Char) (text : String) : Bool := text.toList.any separators.contains

/-- A field's text, unless it holds a separator of the record. -/
def encodeText (field text : String) : Except Fault String :=
  if holds [fieldSeparator, recordSeparator] text then .error (.separatorInText field) else .ok text

/-- The text of a list of names. -/
def encodeNames (field : String) (names : List String) : Except Fault String :=
  if names.any (holds [nameSeparator]) then .error (.separatorInName field)
  else encodeText field (Text.joinWith nameSeparator names)

/-- The text of a list of patterns. -/
def encodePatterns (field : String) (patterns : List String) : Except Fault String :=
  if patterns.any (holds [fieldSeparator, recordSeparator, patternSeparator]) then
    .error (.separatorInText field)
  else encodeText field (Text.joinWith patternSeparator patterns)

/-- The text of a flag. -/
def encodeFlag (b : Bool) : String := if b then "1" else "0"

/-- The text of a depth. -/
def encodeDepth (field : String) : Option Int → Except Fault String
  | none => encodeText field ""
  | some n => if isWritable n then encodeText field (toString n) else .error .depthTooLong

/-- The fields of a request, each with its name, in their order. -/
def fields (r : Request) : List (Except Fault String) := [
  encodeNames "roots" r.roots,
  encodePatterns "root_patterns" r.rootPatterns,
  encodeText "direction" r.direction.word,
  encodeDepth "max_depth" r.maxDepth,
  encodeNames "ignore" r.ignore,
  encodePatterns "ignore_patterns" r.ignorePatterns,
  encodeNames "show" r.shown,
  encodePatterns "show_patterns" r.shownPatterns,
  encodeText "trim" (encodeFlag r.trim),
  encodeText "no_extern" (encodeFlag r.noExtern),
  encodeText "all_locations" (encodeFlag r.allLocations),
  encodeText "end_function" (r.goal.getD ""),
  encodeText "output" r.output.toString,
  encodeText "output_format" r.format,
  encodeText "font" r.font,
  encodeText "size" (r.size.getD ""),
  encodeText "rankdir" r.rankdir,
  encodeText "keep_intermediate" (encodeFlag r.keep)]

/-- The record of a request. -/
def encode (r : Request) : Except Fault String := do
  let texts ← (fields r).mapM id
  return (Text.joinWith fieldSeparator (tag :: texts)).push recordSeparator

/-! ## Reading -/

/-- The names in a text: pieces between semicolons without the blanks at their ends, and without
    those that are empty then. -/
def splitNames (text : String) : List String :=
  ((Text.splitAt nameSeparator text).map Text.strip).filter (· ≠ "")

/-- The patterns in a text; empty ones do not count. -/
def splitPatterns (text : String) : List String :=
  (Text.splitAt patternSeparator text).filter (· ≠ "")

/-- The flag that a text spells. -/
def decodeFlag (field text : String) : Except Fault Bool :=
  if text = "1" then .ok true else if text = "0" then .ok false else .error (.notAFlag field text)

/-- The direction that a text spells. -/
def decodeDirection (text : String) : Except Fault Direction :=
  match Direction.ofWord? text with
  | some d => .ok d
  | none => .error (.unknownDirection text)

/-- The depth that a text spells; an empty text spells none. -/
def decodeDepth (text : String) : Except Fault (Option Int) :=
  if text = "" then .ok none
  else match Text.readInteger? text with
    | some n => .ok (some n)
    | none => .error (.notADepth text)

/-- A text that says nothing if it is empty. -/
def said? (text : String) : Option String := if text = "" then none else some text

/-- May the character stand around a record? -/
def isAround (c : Char) : Bool := c = '\r' || c = '\n' || c = recordSeparator

/-- The request of eighteen fields. -/
def decodeFields : List String → Except Fault Request
  | [roots, rootPatterns, direction, maxDepth, ignore, ignorePatterns, shown, shownPatterns, trim,
      noExtern, allLocations, goal, output, format, font, size, rankdir, keep] => do
    let direction ← decodeDirection direction
    let maxDepth ← decodeDepth maxDepth
    let trim ← decodeFlag "trim" trim
    let noExtern ← decodeFlag "no_extern" noExtern
    let allLocations ← decodeFlag "all_locations" allLocations
    let keep ← decodeFlag "keep_intermediate" keep
    return {
      roots := splitNames roots
      rootPatterns := splitPatterns rootPatterns
      direction
      maxDepth
      ignore := splitNames ignore
      ignorePatterns := splitPatterns ignorePatterns
      shown := splitNames shown
      shownPatterns := splitPatterns shownPatterns
      trim
      noExtern
      allLocations
      goal := said? goal
      output := Path.ofString output
      format
      font
      size := said? size
      rankdir
      keep }
  | texts => .error (.fieldCount texts.length)

/-- The request of a record, with or without line ends and record separators around it. -/
def decode (text : String) : Except Fault Request :=
  match (Text.pieces fieldSeparator (Text.trimBoth isAround text.toList)).map String.ofList with
  | [] => .error .noTag
  | first :: texts => if first = tag then decodeFields texts else .error .noTag

end CallExcerpt.Wire
