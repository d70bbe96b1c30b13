import CallExcerpt.Text.Printable

/-! # Quoted text

    How a message shows a text so that its ends and its odd characters can be
    seen: between single quotes, or double quotes if it holds single ones
    only; a backslash before the quote in use and the backslash itself; line
    ends and tabs by their letters; what does not print by its number.
-/

namespace CallExcerpt.Text

/-- A number in lower-case hexadecimal with at least `width` digits. -/
def hex (width n : Nat) : List Char :=
  let digits := Nat.toDigits 16 n
  List.replicate (width - digits.length) '0' ++ digits

/-- The quote to use: double only if the text has single quotes and no double ones. -/
def quoteFor (cs : List Char) : Char :=
  if cs.contains '\'' && !cs.contains '"' then '"' else '\''

/-- How one character shows between the given quotes. -/
def shownChar (quote c : Char) : List Char :=
  if c = quote || c = '\\' then ['\\', c]
  else if c = '\n' then ['\\', 'n']
  else if c = '\r' then ['\\', 'r']
  else if c = '\t' then ['\\', 't']
  else if isPrintable c then [c]
  else if c.toNat < 0x100 then '\\' :: 'x' :: hex 2 c.toNat
  else if c.toNat < 0x10000 then '\\' :: 'u' :: hex 4 c.toNat
  else '\\' :: 'U' :: hex 8 c.toNat

/-- The text between quotes. -/
def quoted (s : String) : String :=
  let quote := quoteFor s.toList
  String.ofList (quote :: s.toList.flatMap (shownChar quote) ++ [quote])

/-- Octets between quotes, after the letter that marks them. -/
def quotedOctets (octets : List UInt8) : String :=
  let cs := octets.map fun b => Char.ofNat b.toNat
  let quote := quoteFor cs
  let shown (c : Char) := if c.toNat < 127 then shownChar quote c else '\\' :: 'x' :: hex 2 c.toNat
  String.ofList ('b' :: quote :: cs.flatMap shown ++ [quote])

end CallExcerpt.Text
