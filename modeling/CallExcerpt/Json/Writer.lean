import CallExcerpt.Json.Basic

/-! # Writing JSON

    Values in ASCII, either on one line or with each item on a line of its
    own, indented by two blanks for each level.
-/

namespace CallExcerpt.Json

/-- A code unit in hexadecimal after its backslash. -/
def writtenUnit (n : Nat) : List Char := '\\' :: 'u' :: Text.hex 4 n

/-- One character of a string. -/
def writtenChar (c : Char) : List Char :=
  if c = '"' || c = '\\' then ['\\', c]
  else if c = '\n' then ['\\', 'n']
  else if c = '\r' then ['\\', 'r']
  else if c = '\t' then ['\\', 't']
  else if c.toNat = 12 then ['\\', 'f']
  else if c.toNat = 8 then ['\\', 'b']
  else if 32 ≤ c.toNat && c.toNat < 127 then [c]
  else if c.toNat < 0x10000 then writtenUnit c.toNat
  else
    let n := c.toNat - 0x10000
    writtenUnit (0xD800 + n / 0x400) ++ writtenUnit (0xDC00 + n % 0x400)

/-- A string between its quotes. -/
def writtenString (s : String) : String :=
  String.ofList ('"' :: s.toList.flatMap writtenChar ++ ['"'])

/-- A number in writing. -/
def writtenFloat : Number.Binary64 → String
  | .nan => "NaN"
  | .infinite negative => if negative then "-Infinity" else "Infinity"
  | x => x.text

/-- How items are set apart. -/
structure Layout where
  /-- The blanks before each item, per level; nothing keeps all on one line. -/
  indent? : Option Nat

/-- The break before an item at a level. -/
def Layout.lineBreak (l : Layout) (level : Nat) : String :=
  match l.indent? with
  | none => ""
  | some n => "\n" ++ String.ofList (List.replicate (n * level) ' ')

/-- What stands between two items at a level. -/
def Layout.separator (l : Layout) (level : Nat) : String :=
  match l.indent? with
  | none => ", "
  | some _ => "," ++ l.lineBreak level

mutual

/-- A value at a level. -/
def written (l : Layout) (level : Nat) : Json → String
  | .null => "null"
  | .bool b => if b then "true" else "false"
  | .int n => toString n
  | .float x => writtenFloat x
  | .text s => writtenString s
  | .list [] => "[]"
  | .list vs =>
    "[" ++ l.lineBreak (level + 1) ++ writtenItems l (level + 1) vs ++ l.lineBreak level ++ "]"
  | .object [] => "\x7b\x7d"
  | .object ms =>
    "\x7b" ++ l.lineBreak (level + 1) ++ writtenMembers l (level + 1) ms ++ l.lineBreak level
      ++ "\x7d"

/-- The items of a list. -/
def writtenItems (l : Layout) (level : Nat) : List Json → String
  | [] => ""
  | [v] => written l level v
  | v :: vs => written l level v ++ l.separator level ++ writtenItems l level vs

/-- The members of an object. -/
def writtenMembers (l : Layout) (level : Nat) : List (String × Json) → String
  | [] => ""
  | [(k, v)] => writtenString k ++ ": " ++ written l level v
  | (k, v) :: ms =>
    writtenString k ++ ": " ++ written l level v ++ l.separator level ++ writtenMembers l level ms

end

/-- A value on one line. -/
def line (v : Json) : String := written ⟨none⟩ 0 v

/-- A value with each item on a line of its own. -/
def pretty (v : Json) : String := written ⟨some 2⟩ 0 v

end CallExcerpt.Json
