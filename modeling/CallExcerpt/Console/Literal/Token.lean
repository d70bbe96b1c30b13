import CallExcerpt.Text.CharacterName
import CallExcerpt.Text.Identifier
import CallExcerpt.Text.Numeral

/-! # Symbols of plain values

    A plain value is written with numbers, texts, octets, words, dots,
    brackets and signs. Of a symbol only its sort is kept, since nothing has
    to be known of the values but whether a text is one. Square brackets do
    not occur: the values stand in tags, which a square bracket ends.
-/

namespace CallExcerpt.Console.Literal

/-- A symbol of a value in writing. -/
inductive Token where
  /-- A number, real or imaginary. -/
  | number (imaginary : Bool)
  /-- A text. -/
  | text
  /-- Octets. -/
  | octets
  /-- A word. -/
  | word (name : String)
  /-- Three dots. -/
  | dots
  /-- A bracket or a sign. -/
  | mark (c : Char)
  deriving Repr, DecidableEq

/-! ## Numbers -/

/-- The digits at the front, with single underscores between them, and what follows. -/
def digits (p : Char → Bool) : List Char → List Char × List Char
  | '_' :: c :: cs =>
    if p c then
      let (ds, rest) := digits p cs
      (c :: ds, rest)
    else ([], '_' :: c :: cs)
  | c :: cs =>
    if p c then
      let (ds, rest) := digits p cs
      (c :: ds, rest)
    else ([], c :: cs)
  | [] => ([], [])

/-- Digits that do not begin with an underscore. -/
def plainDigits (p : Char → Bool) (cs : List Char) : List Char × List Char :=
  if cs.head? = some '_' then ([], cs) else digits p cs

/-- The bases with a letter: their digits. -/
def based? (letter : Char) : Option (Char → Bool) :=
  if letter = 'x' || letter = 'X' then
    some fun c => c.isDigit || ('a' ≤ c && c ≤ 'f') || ('A' ≤ c && c ≤ 'F')
  else if letter = 'o' || letter = 'O' then some fun c => '0' ≤ c && c ≤ '7'
  else if letter = 'b' || letter = 'B' then some fun c => c = '0' || c = '1'
  else none

/-- An exponent at the front, if there is one: whether there is, and what follows. -/
def exponent (cs : List Char) : Bool × List Char :=
  match cs with
  | e :: rest =>
    if e = 'e' || e = 'E' then
      let unsigned := match rest with
        | '+' :: r | '-' :: r => r
        | r => r
      match plainDigits Char.isDigit unsigned with
      | ([], _) => (false, cs)
      | (_, rest) => (true, rest)
    else (false, cs)
  | [] => (false, [])

/-- The end of a number: the mark of imaginary ones, and nothing that belongs to a word. -/
def numberEnd? (whole : Bool) (cs : List Char) : Option (Token × List Char) :=
  let (imaginary, rest) := match cs with
    | c :: r => if c = 'j' || c = 'J' then (true, r) else (false, cs)
    | [] => (false, [])
  if !whole && !imaginary then none
  else if (rest.head?.map Text.continuesIdentifier).getD false then none
  else some (.number imaginary, rest)

/-- A number at the front. -/
def number? (cs : List Char) : Option (Token × List Char) :=
  match cs with
  | '0' :: letter :: rest =>
    match based? letter with
    | some p =>
      match digits p rest with
      | ([], _) => none
      | (_, rest) =>
        if (rest.head?.map Text.continuesIdentifier).getD false then none
        else some (.number false, rest)
    | none => decimal
  | _ => decimal
where
  /-- A number in tens. -/
  decimal : Option (Token × List Char) :=
    let (front, rest) := plainDigits Char.isDigit cs
    match rest with
    | '.' :: r =>
      let (fraction, rest) := plainDigits Char.isDigit r
      if front.isEmpty && fraction.isEmpty then none else numberEnd? true (exponent rest).2
    | _ =>
      if front.isEmpty then none
      else
        let (found, rest) := exponent rest
        let isPlain := front.length ≤ Text.maxDigits && (front.head? ≠ some '0' || front.all (· = '0'))
        numberEnd? (found || isPlain) rest

/-! ## Texts -/

/-- How a text is written. -/
structure Quotation where
  /-- Its quotation mark. -/
  quote : Char
  /-- Does it stand three times? -/
  triple : Bool
  /-- Do backslashes stand for themselves? -/
  raw : Bool
  /-- Are octets written? -/
  octets : Bool

/-- The digits of a code point after a backslash and a letter. -/
def codeDigits? (n : Nat) (cs : List Char) : Option (List Char) :=
  let ds := cs.take n
  if ds.length = n && ds.all ((based? 'x').getD fun _ => false) then
    match Text.CharacterName.hexNumber? (ds.map Text.CharacterName.plainCapital) with
    | some code => if code ≤ 0x10FFFF then some (cs.drop n) else none
    | none => none
  else none

/-- What follows an escape, whose backslash has been read. -/
def escapeEnd? (octets : Bool) : List Char → Option (List Char)
  | [] => none
  | 'x' :: cs => codeDigits? 2 cs
  | c :: cs =>
    if octets then if c.toNat < 128 then some cs else none
    else if c = 'u' then codeDigits? 4 cs
    else if c = 'U' then codeDigits? 8 cs
    else if c = 'N' then
      match cs with
      | '\x7b' :: rest =>
        let name := rest.takeWhile (· ≠ '\x7d')
        match rest.drop name.length with
        | _ :: after => (Text.CharacterName.codeOf? (String.ofList name)).map fun _ => after
        | [] => none
      | _ => none
    else some cs

/-- What follows a text, of which `fuel` characters may be read. -/
def textEnd? (q : Quotation) : Nat → List Char → Option (List Char)
  | 0, _ => none
  | _, [] => none
  | fuel + 1, c :: cs =>
    if c = q.quote then
      if !q.triple then some cs
      else
        match cs with
        | a :: b :: rest => if a = q.quote && b = q.quote then some rest else textEnd? q fuel cs
        | _ => none
    else if c = '\n' && !q.triple then none
    else if q.octets && 128 ≤ c.toNat then none
    else if c = '\\' then
      if q.raw then
        match cs with
        | d :: rest => if q.octets && 128 ≤ d.toNat then none else textEnd? q fuel rest
        | [] => none
      else (escapeEnd? q.octets cs).bind (textEnd? q fuel)
    else textEnd? q fuel cs

/-- A text at the front, after its letters. -/
def text? (raw octets : Bool) (cs : List Char) : Option (Token × List Char) :=
  match cs with
  | quote :: rest =>
    let triple := rest.take 2 = [quote, quote]
    let token : Token := if octets then .octets else .text
    (textEnd? ⟨quote, triple, raw, octets⟩ (cs.length + 1) (if triple then rest.drop 2 else rest)).map
      fun rest => (token, rest)
  | [] => none

/-- The letters that may stand before a text: whether backslashes stand for themselves, and
    whether octets are written. -/
def letters : List (String × Bool × Bool) := [
  ("", false, false), ("u", false, false), ("r", true, false), ("b", false, true),
  ("br", true, true), ("rb", true, true)]

/-! ## Symbols -/

/-- Is the character a quotation mark? -/
def isQuote (c : Char) : Bool := c = '"' || c = '\''

/-- A word at the front, or a text with letters before it. -/
def word? (cs : List Char) : Option (Token × List Char) :=
  let name := cs.takeWhile Text.continuesIdentifier
  let rest := cs.drop name.length
  if (rest.head?.map isQuote).getD false then
    match letters.lookup (String.ofList (name.map Char.toLower)) with
    | some (raw, octets) => text? raw octets rest
    | none => none
  else if (name.head?.map Text.startsIdentifier).getD false then
    some (.word (String.ofList name), rest)
  else none

/-- The most brackets that may be open at a time. -/
def maxBrackets : Nat := 200

/-- Is the character a gap between symbols of a line? -/
def isGap (c : Char) : Bool := c = ' ' || c = '\t' || c = '\x0c'

/-- Puts a symbol before others, if there are any to come. -/
def before (t : Token) : Option (List Token) → Option (List Token)
  | some ts => some (t :: ts)
  | none => none

/-- The symbols of a text inside so many brackets, of which `fuel` may be read. Outside of all
    brackets nothing but remarks may follow the end of a line. -/
def tokens (depth : Nat) : Nat → List Char → Option (List Token)
  | _, [] => some []
  | 0, _ => none
  | fuel + 1, c :: cs =>
    if isGap c then tokens depth fuel cs
    else if c = '\n' then
      (tokens depth fuel cs).filter fun ts => 0 < depth || ts.isEmpty
    else if c = '#' then tokens depth fuel (cs.dropWhile (· ≠ '\n'))
    else if c = '\\' then if cs.head? = some '\n' then tokens depth fuel (cs.drop 1) else none
    else if c = '.' && cs.take 2 = ['.', '.'] then before .dots (tokens depth fuel (cs.drop 2))
    else if c = '(' || c = '\x7b' then
      if depth < maxBrackets then before (.mark c) (tokens (depth + 1) fuel cs) else none
    else if c = ')' || c = '\x7d' then before (.mark c) (tokens (depth - 1) fuel cs)
    else if c = ',' || c = ':' || c = '+' || c = '-' then
      before (.mark c) (tokens depth fuel cs)
    else
      match if c.isDigit || c = '.' then number? (c :: cs) else word? (c :: cs) with
      | some (t, rest) => before t (tokens depth fuel rest)
      | none => none

/-! ## Lines -/

/-- A text whose lines end in one way. -/
def withPlainEnds : List Char → List Char
  | '\r' :: '\n' :: cs => '\n' :: withPlainEnds cs
  | '\r' :: cs => '\n' :: withPlainEnds cs
  | c :: cs => c :: withPlainEnds cs
  | [] => []

/-- A text without the lines at its front that hold nothing but a remark; `fuel` of them may be
    dropped. -/
def dropRemarks : Nat → List Char → List Char
  | 0, cs => cs
  | fuel + 1, cs =>
    let line := cs.dropWhile isGap
    if line.head? = some '#' || line.head? = some '\n' then
      dropRemarks fuel ((line.dropWhile (· ≠ '\n')).drop 1)
    else cs

/-- The symbols of a text. Its first one begins a line, and the text holds no NUL. -/
def symbols? (cs : List Char) : Option (List Token) :=
  let cs := dropRemarks cs.length (withPlainEnds cs)
  if cs.contains (Char.ofNat 0) || (cs.head?.map isGap).getD false then none
  else tokens 0 (cs.length + 1) cs

end CallExcerpt.Console.Literal
