import CallExcerpt.Number.Shortest
import CallExcerpt.Text.Numeral
import CallExcerpt.Text.Quoted

/-! # JSON values

    A value keeps the members of an object in the order of the text it was
    read from. Whole numbers and numbers with a fraction or an exponent are
    told apart.
-/

namespace CallExcerpt

open Number (Binary64)

/-- A JSON value. -/
inductive Json where
  /-- The absent value. -/
  | null
  /-- A truth value. -/
  | bool (b : Bool)
  /-- A number without point and exponent. -/
  | int (n : Int)
  /-- A number with a point or an exponent. -/
  | float (x : Binary64)
  /-- A text. -/
  | text (s : String)
  /-- A list of values. -/
  | list (items : List Json)
  /-- An object: names with values, each name once. -/
  | object (members : List (String × Json))
  deriving Inhabited

namespace Json

/-- The value of a name among members. -/
def lookup (name : String) (members : List (String × Json)) : Option Json :=
  (members.find? (·.1 = name)).map (·.2)

/-- Members with one more: a name that is there keeps its place and takes the new value. -/
def insert (members : List (String × Json)) (name : String) (value : Json) :
    List (String × Json) :=
  if members.any (·.1 = name) then
    members.map fun m => if m.1 = name then (name, value) else m
  else members ++ [(name, value)]

/-! ## How a message shows a value -/

/-- Why a value has no spelling. -/
inductive Unspellable where
  /-- A whole number in it has too many digits. -/
  | longNumber
  /-- It has more levels than there is room for; the word is for what was asked. -/
  | noRoom (word : String)
  deriving Repr, DecidableEq

/-- The reason in words. -/
def Unspellable.message : Unspellable → String
  | .longNumber => Text.cannotWriteNumber
  | .noRoom word => s!"maximum recursion depth exceeded while getting the {word} of an object"

/-- The spelling of a truth value. -/
def spellBool (b : Bool) : String := if b then "True" else "False"

mutual

/-- The spelling of a value inside a message: texts in quotes, lists in brackets, objects in
    braces. -/
def spelling : Json → String
  | .null => "None"
  | .bool b => spellBool b
  | .int n => toString n
  | .float x => x.text
  | .text s => Text.quoted s
  | .list items => "[" ++ spellingItems items ++ "]"
  | .object members => "\x7b" ++ spellingMembers members ++ "\x7d"

/-- The spellings of list items between commas. -/
def spellingItems : List Json → String
  | [] => ""
  | [v] => spelling v
  | v :: vs => spelling v ++ ", " ++ spellingItems vs

/-- The spellings of object members between commas. -/
def spellingMembers : List (String × Json) → String
  | [] => ""
  | [(k, v)] => Text.quoted k ++ ": " ++ spelling v
  | (k, v) :: ms => Text.quoted k ++ ": " ++ spelling v ++ ", " ++ spellingMembers ms

end

/-- The room below a level, where there is only so much of it. -/
def inside (room : Option Nat) : Option Nat := room.map (· - 1)

mutual

/-- What keeps a value from being spelled, the first thing from the left: each level of the value
    needs room, and each whole number must not be too long. -/
def unspellable? : Option Nat → Json → Option Unspellable
  | some 0, _ => some (.noRoom "repr")
  | _, .int n => if Text.isWritable n then none else some .longNumber
  | room, .list items => unspellableItem? (inside room) items
  | room, .object members => unspellableMember? (inside room) members
  | _, _ => none

/-- What keeps list items from being spelled. -/
def unspellableItem? (room : Option Nat) : List Json → Option Unspellable
  | [] => none
  | v :: vs => (unspellable? room v).or (unspellableItem? room vs)

/-- What keeps object members from being spelled. -/
def unspellableMember? (room : Option Nat) : List (String × Json) → Option Unspellable
  | [] => none
  | (_, v) :: ms => (unspellable? room v).or (unspellableMember? room ms)

end

/-- The spelling of a value, if it has one where there is room for so many levels. -/
def spelled (room : Option Nat) (v : Json) : Except Unspellable String :=
  match unspellable? room v with
  | none => .ok v.spelling
  | some cause => .error cause

/-- The words of a value: a text is itself, any other value its spelling. -/
def wording : Json → String
  | .text s => s
  | v => v.spelling

/-- What keeps a value from being put in words. -/
def wordless? (room : Option Nat) : Json → Option Unspellable
  | .text _ => none
  | v => if room = some 0 then some (.noRoom "str") else unspellable? room v

/-- The words of a value, if it has any where there is room for so many levels. -/
def asText (room : Option Nat) (v : Json) : Except Unspellable String :=
  match wordless? room v with
  | none => .ok v.wording
  | some cause => .error cause

/-- Is there something in the value? Absent, false, zero and empty values hold nothing. -/
def isTruthy : Json → Bool
  | .null => false
  | .bool b => b
  | .int n => n ≠ 0
  | .float (.finite _ mantissa _) => mantissa ≠ 0
  | .float _ => true
  | .text s => s ≠ ""
  | .list items => !items.isEmpty
  | .object members => !members.isEmpty

end Json

end CallExcerpt
