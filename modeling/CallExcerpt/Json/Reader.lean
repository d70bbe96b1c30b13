import CallExcerpt.Json.Basic

/-! # Reading JSON

    A reader over the characters of a text that knows its place, so that each
    fault names the line, the column and the number of characters before it.
    Beside the standard grammar it takes the names of the numbers that are
    not finite. It takes no whole number of too many digits.

    An escape may spell half of a pair without the other half. That is no
    character, and so it has no place in a text: the reader notes it, and takes
    no value that has one.
-/

namespace CallExcerpt.Json

open Number (Binary64)

/-- What can be wrong with a JSON text. -/
inductive Problem where
  /-- The text begins with a byte-order mark. -/
  | byteOrderMark
  /-- No value begins here. -/
  | value
  /-- No member name begins here. -/
  | propertyName
  /-- No colon stands after a member name. -/
  | colon
  /-- No comma stands after an item. -/
  | comma
  /-- Something stands after the value. -/
  | extraData
  /-- A string has no end. -/
  | unterminatedString
  /-- A control character stands in a string. -/
  | controlCharacter
  /-- A backslash stands before a character that needs none. -/
  | escape
  /-- A code point is not written with four hexadecimal digits. -/
  | unicodeEscape
  /-- A whole number has too many digits. -/
  | longNumber (digits : Nat)
  /-- Half of a pair stands alone. -/
  | loneHalf
  /-- The steps of the reader ran out; a reader of a whole text has enough. -/
  | exhausted
  deriving Repr, DecidableEq

/-- The problem in words. -/
def Problem.message : Problem → String
  | .byteOrderMark => "Unexpected UTF-8 BOM (decode using utf-8-sig)"
  | .value => "Expecting value"
  | .propertyName => "Expecting property name enclosed in double quotes"
  | .colon => "Expecting ':' delimiter"
  | .comma => "Expecting ',' delimiter"
  | .extraData => "Extra data"
  | .unterminatedString => "Unterminated string starting at"
  | .controlCharacter => "Invalid control character at"
  | .escape => "Invalid \\escape"
  | .unicodeEscape => "Invalid \\uXXXX escape"
  | .longNumber digits => Text.cannotReadNumber digits
  | .loneHalf => "Half of a surrogate pair"
  | .exhausted => "Nested too deeply"

/-- A problem and the number of characters before it. -/
structure Flaw where
  /-- What is wrong. -/
  problem : Problem
  /-- Where it is. -/
  position : Nat
  deriving Repr, DecidableEq

/-- The line of a position in a text, from one. -/
def lineOf (cs : List Char) (position : Nat) : Nat := (cs.take position).count '\n' + 1

/-- The column of a position in its line, from one. -/
def columnOf (cs : List Char) (position : Nat) : Nat :=
  ((cs.take position).reverse.takeWhile (· ≠ '\n')).length + 1

/-- The flaw in words, with its place in the text. -/
def Flaw.message (cs : List Char) (f : Flaw) : String :=
  s!"{f.problem.message}: line {lineOf cs f.position} column {columnOf cs f.position} (char {f.position})"

/-- A place in a text: the number of characters before it, and those after it. -/
structure Place where
  /-- The number of characters before. -/
  position : Nat
  /-- The characters from here on. -/
  rest : List Char
  /-- Where half of a pair stood alone, if it did. -/
  half : Option Nat := none

/-- A blank between tokens. -/
def isSpace (c : Char) : Bool := c = ' ' || c = '\t' || c = '\n' || c = '\r'

/-- The place after the blanks. -/
def Place.skipSpaces (p : Place) : Place :=
  let n := (p.rest.takeWhile isSpace).length
  { p with position := p.position + n, rest := p.rest.drop n }

/-- The place `n` characters on. -/
def Place.forward (p : Place) (n : Nat) : Place :=
  { p with position := p.position + n, rest := p.rest.drop n }

/-! ## Strings -/

/-- The character that a letter stands for after a backslash. -/
def escaped? : Char → Option Char
  | '"' => some '"'
  | '\\' => some '\\'
  | '/' => some '/'
  | 'b' => some (Char.ofNat 8)
  | 'f' => some (Char.ofNat 12)
  | 'n' => some '\n'
  | 'r' => some '\r'
  | 't' => some '\t'
  | _ => none

/-- The value of a hexadecimal digit. -/
def hexValue? (c : Char) : Option Nat :=
  if '0' ≤ c && c ≤ '9' then some (c.toNat - '0'.toNat)
  else if 'a' ≤ c && c ≤ 'f' then some (c.toNat - 'a'.toNat + 10)
  else if 'A' ≤ c && c ≤ 'F' then some (c.toNat - 'A'.toNat + 10)
  else none

/-- The number that four hexadecimal digits spell. -/
def unit? (a b c d : Char) : Option Nat := do
  let a ← hexValue? a
  let b ← hexValue? b
  let c ← hexValue? c
  let d ← hexValue? d
  some (((a * 16 + b) * 16 + c) * 16 + d)

/-- The first half of a pair that spells one code point. -/
def isHighHalf (n : Nat) : Bool := 0xD800 ≤ n && n ≤ 0xDBFF

/-- The second half of a pair that spells one code point. -/
def isLowHalf (n : Nat) : Bool := 0xDC00 ≤ n && n ≤ 0xDFFF

/-- The character of a code unit, with the replacement character for half of a pair. -/
def unitChar (n : Nat) : Char := if isHighHalf n || isLowHalf n then Char.ofNat 0xFFFD else Char.ofNat n

/-- The place after a code unit, which may be half of a pair that stands alone. -/
def Place.afterUnit (p : Place) (n position : Nat) : Place :=
  if isHighHalf n || isLowHalf n then { p with half := some position } else p

/-- The character of a pair. -/
def pairChar (high low : Nat) : Char :=
  Char.ofNat (0x10000 + (high - 0xD800) * 0x400 + (low - 0xDC00))

/-- The rest of a string whose opening quote stands at `start`. -/
def stringBody (start position : Nat) : List Char → Except Flaw (List Char × Place)
  | [] => .error ⟨.unterminatedString, start⟩
  | '"' :: r => .ok ([], { position := position + 1, rest := r })
  | ['\\'] => .error ⟨.unterminatedString, start⟩
  | '\\' :: 'u' :: a :: b :: c :: d :: '\\' :: 'u' :: a' :: b' :: c' :: d' :: e :: r => do
    let some n := unit? a b c d | .error ⟨.unicodeEscape, position + 1⟩
    if isHighHalf n then
      let some m := unit? a' b' c' d' | .error ⟨.unicodeEscape, position + 7⟩
      if isLowHalf m then
        let (cs, p) ← stringBody start (position + 12) (e :: r)
        return (pairChar n m :: cs, p)
      else
        let (cs, p) ← stringBody start (position + 6) ('\\' :: 'u' :: a' :: b' :: c' :: d' :: e :: r)
        return (unitChar n :: cs, p.afterUnit n position)
    else
      let (cs, p) ← stringBody start (position + 6) ('\\' :: 'u' :: a' :: b' :: c' :: d' :: e :: r)
      return (unitChar n :: cs, p.afterUnit n position)
  | '\\' :: 'u' :: a :: b :: c :: d :: e :: r => do
    let some n := unit? a b c d | .error ⟨.unicodeEscape, position + 1⟩
    let (cs, p) ← stringBody start (position + 6) (e :: r)
    return (unitChar n :: cs, p.afterUnit n position)
  | '\\' :: 'u' :: _ => .error ⟨.unicodeEscape, position + 1⟩
  | '\\' :: c :: r => do
    let some e := escaped? c | .error ⟨.escape, position⟩
    let (cs, p) ← stringBody start (position + 2) r
    return (e :: cs, p)
  | c :: r => do
    if c.toNat < 0x20 then .error ⟨.controlCharacter, position⟩
    else
      let (cs, p) ← stringBody start (position + 1) r
      return (c :: cs, p)

/-- A string whose opening quote is the first character of the place. -/
def string (p : Place) : Except Flaw (String × Place) := do
  let (cs, p') ← stringBody p.position (p.position + 1) (p.rest.drop 1)
  return (String.ofList cs, { p' with half := p.half <|> p'.half })

/-! ## Numbers -/

/-- The number of digits at the front. -/
def digitCount (cs : List Char) : Nat := (cs.takeWhile Char.isDigit).length

/-- The number that decimal digits spell. -/
def naturalOf (cs : List Char) : Nat := cs.foldl (fun n c => 10 * n + (c.toNat - '0'.toNat)) 0

/-- The length of a fraction at the front: the point and the digits after it, or nothing. -/
def fractionLength : List Char → Nat
  | '.' :: r => if digitCount r = 0 then 0 else 1 + digitCount r
  | _ => 0

/-- The length of an exponent at the front: the letter, a sign and digits, or nothing. -/
def exponentLength : List Char → Nat
  | c :: r =>
    if c = 'e' || c = 'E' then
      let signed := match r with
        | '+' :: _ | '-' :: _ => 1
        | _ => 0
      let n := digitCount (r.drop signed)
      if n = 0 then 0 else 1 + signed + n
    else 0
  | [] => 0

/-- The value of an exponent's characters. -/
def exponentValue : List Char → Int
  | _ :: '-' :: ds => -Int.ofNat (naturalOf ds)
  | _ :: '+' :: ds => Int.ofNat (naturalOf ds)
  | _ :: ds => Int.ofNat (naturalOf ds)
  | [] => 0

/-- A number at the front of the place. -/
def number (p : Place) : Except Flaw (Json × Place) := do
  let (negative, body) := match p.rest with
    | '-' :: r => (true, r)
    | r => (false, r)
  let whole := match body with
    | '0' :: _ => 1
    | _ => digitCount body
  if whole = 0 then .error ⟨.value, p.position⟩
  else
    let wholeDigits := body.take whole
    let afterWhole := body.drop whole
    let fraction := fractionLength afterWhole
    let fractionDigits := (afterWhole.take fraction).drop 1
    let afterFraction := afterWhole.drop fraction
    let exponent := exponentLength afterFraction
    let next := p.forward ((if negative then 1 else 0) + whole + fraction + exponent)
    if fraction = 0 && exponent = 0 then
      if Text.maxDigits < whole then .error ⟨.longNumber whole, p.position⟩
      let n := Int.ofNat (naturalOf wholeDigits)
      return (.int (if negative then -n else n), next)
    else
      let power := exponentValue (afterFraction.take exponent) - Int.ofNat fractionDigits.length
      return (.float (Binary64.ofDecimal negative (naturalOf (wholeDigits ++ fractionDigits)) power), next)

/-- The names of values and what they stand for. -/
def literals : List (List Char × Json) := [
  ("null".toList, .null), ("true".toList, .bool true), ("false".toList, .bool false),
  ("NaN".toList, .float .nan), ("Infinity".toList, .float (.infinite false)),
  ("-Infinity".toList, .float (.infinite true))]

/-- A named value, or else a number, at the front of the place. -/
def literalOrNumber (p : Place) : Except Flaw (Json × Place) :=
  match literals.find? fun l => l.1.isPrefixOf p.rest with
  | some (name, v) => .ok (v, p.forward name.length)
  | none => number p

/-! ## Values -/

mutual

/-- A value at the front of the place. -/
def value : Nat → Place → Except Flaw (Json × Place)
  | 0, p => .error ⟨.exhausted, p.position⟩
  | fuel + 1, p =>
    match p.rest with
    | [] => .error ⟨.value, p.position⟩
    | '"' :: _ => do
      let (s, p') ← string p
      return (.text s, p')
    | '[' :: _ =>
      let q := (p.forward 1).skipSpaces
      match q.rest with
      | ']' :: _ => .ok (.list [], q.forward 1)
      | _ => do
        let (vs, q') ← items fuel q
        return (.list vs, q')
    | '\x7b' :: _ =>
      let q := (p.forward 1).skipSpaces
      match q.rest with
      | '\x7d' :: _ => .ok (.object [], q.forward 1)
      | _ => do
        let (ms, q') ← members fuel q []
        return (.object ms, q')
    | _ => literalOrNumber p

/-- The items of a list, up to its closing bracket. -/
def items : Nat → Place → Except Flaw (List Json × Place)
  | 0, p => .error ⟨.exhausted, p.position⟩
  | fuel + 1, p => do
    let (v, q) ← value fuel p
    let q := q.skipSpaces
    match q.rest with
    | ']' :: _ => return ([v], q.forward 1)
    | ',' :: _ =>
      let (vs, q') ← items fuel (q.forward 1).skipSpaces
      return (v :: vs, q')
    | _ => .error ⟨.comma, q.position⟩

/-- The members of an object, up to its closing brace, added to those before. -/
def members : Nat → Place → List (String × Json) → Except Flaw (List (String × Json) × Place)
  | 0, p, _ => .error ⟨.exhausted, p.position⟩
  | fuel + 1, p, before =>
    match p.rest with
    | '"' :: _ => do
      let (name, q) ← string p
      let q := q.skipSpaces
      match q.rest with
      | ':' :: _ =>
        let (v, q) ← value fuel (q.forward 1).skipSpaces
        let q := q.skipSpaces
        let now := insert before name v
        match q.rest with
        | '\x7d' :: _ => return (now, q.forward 1)
        | ',' :: _ => members fuel (q.forward 1).skipSpaces now
        | _ => .error ⟨.comma, q.position⟩
      | _ => .error ⟨.colon, q.position⟩
    | _ => .error ⟨.propertyName, p.position⟩

end

/-- The value that a whole text spells. -/
def parse (cs : List Char) : Except Flaw Json := do
  if cs.head? = some (Char.ofNat 0xFEFF) then .error ⟨.byteOrderMark, 0⟩
  else
    let (v, p) ← value (2 * cs.length + 2) (Place.skipSpaces { position := 0, rest := cs })
    let p := p.skipSpaces
    if !p.rest.isEmpty then .error ⟨.extraData, p.position⟩
    else match p.half with
      | some position => .error ⟨.loneHalf, position⟩
      | none => return v

end CallExcerpt.Json
