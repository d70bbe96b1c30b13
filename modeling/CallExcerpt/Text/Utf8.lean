/-! # Reading UTF-8

    A machine that takes one octet at a time and holds the octets of a
    character until it is complete, so that a text may arrive in cuts at any
    place. Two readers are built on it:

    * `Decoder.feed` never fails: octets that cannot be part of a character
      give the replacement character, one for each longest run that could
      have begun one.
    * `decode` takes a whole text and says where it stops being UTF-8.
-/

namespace CallExcerpt.Text.Utf8

/-- Stands for octets that make no character. -/
def replacement : Char := Char.ofNat 0xFFFD

/-- The number of octets of the character that an octet begins; none if it begins no character. -/
def lengthFrom (lead : Nat) : Option Nat :=
  if lead < 0x80 then some 1
  else if 0xC2 ≤ lead && lead ≤ 0xDF then some 2
  else if 0xE0 ≤ lead && lead ≤ 0xEF then some 3
  else if 0xF0 ≤ lead && lead ≤ 0xF4 then some 4
  else none

/-- The octets that may follow a first octet: they leave out the long spellings,
    the surrogates and what lies beyond the last code point. -/
def secondRange (lead : Nat) : Nat × Nat :=
  if lead = 0xE0 then (0xA0, 0xBF)
  else if lead = 0xED then (0x80, 0x9F)
  else if lead = 0xF0 then (0x90, 0xBF)
  else if lead = 0xF4 then (0x80, 0x8F)
  else (0x80, 0xBF)

/-- May the octet come next after the held ones? -/
def continues (held : List Nat) (b : Nat) : Bool :=
  match held with
  | [] => (lengthFrom b).isSome
  | [lead] => (secondRange lead).1 ≤ b && b ≤ (secondRange lead).2
  | _ => 0x80 ≤ b && b ≤ 0xBF

/-- The code point of a complete sequence of octets. -/
def codePoint : List Nat → Nat
  | [a] => a
  | [a, b] => (a - 0xC0) * 64 + (b - 0x80)
  | [a, b, c] => ((a - 0xE0) * 64 + (b - 0x80)) * 64 + (c - 0x80)
  | [a, b, c, d] => (((a - 0xF0) * 64 + (b - 0x80)) * 64 + (c - 0x80)) * 64 + (d - 0x80)
  | _ => 0xFFFD

/-- Is a run of octets, each allowed after those before it, a whole character? -/
def isWhole (held : List Nat) : Bool :=
  match held with
  | [] => false
  | lead :: _ => lengthFrom lead = some held.length

/-- The start of a surrogate: two octets that no third can complete. -/
def isSurrogateStart (held : List Nat) : Bool :=
  match held with
  | [0xED, b] => 0xA0 ≤ b && b ≤ 0xBF
  | _ => false

/-- The characters that the held octets give when nothing can complete them. -/
def abandoned (held : List Nat) : List Char :=
  if held.isEmpty then []
  else if isSurrogateStart held then [replacement, replacement]
  else [replacement]

/-! ## The decoder that never fails -/

/-- The octets that wait for the rest of their character. -/
structure Decoder where
  /-- The waiting octets, the first one first; never a whole character. -/
  held : List Nat := []
  deriving Repr, DecidableEq

namespace Decoder

/-- An octet that begins afresh. -/
def start (b : Nat) : List Char × Decoder :=
  match lengthFrom b with
  | some 1 => ([Char.ofNat b], {})
  | some _ => ([], { held := [b] })
  | none => ([replacement], {})

/-- One octet: the characters it settles, and what waits after it. -/
def step (d : Decoder) (b : Nat) : List Char × Decoder :=
  if d.held.isEmpty then start b
  else if continues d.held b && !isSurrogateStart d.held then
    let held := d.held ++ [b]
    if isWhole held then ([Char.ofNat (codePoint held)], {}) else ([], { held })
  else if isSurrogateStart (d.held ++ [b]) then ([], { held := d.held ++ [b] })
  else
    let (cs, d') := start b
    (abandoned d.held ++ cs, d')

/-- Octets in order: the characters they settle, and what waits after them. -/
def feed (d : Decoder) : List UInt8 → List Char × Decoder
  | [] => ([], d)
  | b :: bs =>
    let (cs, d') := d.step b.toNat
    let (cs', d'') := d'.feed bs
    (cs ++ cs', d'')

end Decoder

/-- The characters of octets that are all there: what waits at the end is given up. -/
def decodeLossy (octets : List UInt8) : List Char :=
  let (cs, d) := ({} : Decoder).feed octets
  cs ++ abandoned d.held

/-! ## The decoder that says where it stops -/

/-- Why octets are not UTF-8. -/
inductive Reason where
  /-- An octet that begins no character. -/
  | invalidStart
  /-- An octet that cannot follow those before it. -/
  | invalidContinuation
  /-- The octets end within a character. -/
  | unexpectedEnd
  deriving Repr, DecidableEq

/-- The first place where octets are not UTF-8. -/
structure Fault where
  /-- The first octet of the bad run. -/
  octet : Nat
  /-- Its place in the text. -/
  position : Nat
  /-- The number of octets in the bad run. -/
  size : Nat
  /-- What is wrong with the run. -/
  reason : Reason
  deriving Repr, DecidableEq

/-- The reason in words. -/
def Reason.message : Reason → String
  | .invalidStart => "invalid start byte"
  | .invalidContinuation => "invalid continuation byte"
  | .unexpectedEnd => "unexpected end of data"

/-- The two digits of an octet. -/
def octetText (b : Nat) : String :=
  let digits := Nat.toDigits 16 b
  String.ofList (List.replicate (2 - digits.length) '0' ++ digits)

/-- The fault in words. -/
def Fault.message (f : Fault) : String :=
  let place :=
    if f.size = 1 then s!"byte 0x{octetText f.octet} in position {f.position}"
    else s!"bytes in position {f.position}-{f.position + f.size - 1}"
  s!"'utf-8' codec can't decode {place}: {f.reason.message}"

/-- Reads on at a place, with the octets that wait for the rest of their character. -/
def decodeFrom (position : Nat) (held : List Nat) : List UInt8 → Except Fault (List Char)
  | [] =>
    match held with
    | [] => .ok []
    | lead :: _ => .error ⟨lead, position - held.length, held.length, .unexpectedEnd⟩
  | b :: bs =>
    let held' := held ++ [b.toNat]
    if continues held b.toNat then
      if isWhole held' then
        (decodeFrom (position + 1) [] bs).map (Char.ofNat (codePoint held') :: ·)
      else decodeFrom (position + 1) held' bs
    else match held with
      | [] => .error ⟨b.toNat, position, 1, .invalidStart⟩
      | lead :: _ => .error ⟨lead, position - held.length, held.length, .invalidContinuation⟩

/-- The text of the octets, or the first place where they are not UTF-8. -/
def decode (octets : List UInt8) : Except Fault (List Char) := decodeFrom 0 [] octets

/-- The octets of a text. -/
def encode (s : String) : List UInt8 := s.toList.flatMap String.utf8EncodeChar

end CallExcerpt.Text.Utf8
