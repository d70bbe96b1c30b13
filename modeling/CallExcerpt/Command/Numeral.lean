import CallExcerpt.Number.Reading

/-! # Numbers on a command line

    The value of an option may be a number. Its digits are those of the first
    128 code points; single underscores may stand within it, blanks around it.

    A whole number may have zeros and underscores before its digits, and a
    point with zeros after them, if it has no minus sign. With a minus sign it
    has no needless zero.
-/

namespace CallExcerpt.Command.Numeral

open Number (Binary64)

/-- Do two underscores stand side by side? -/
def hasTwins : List Char → Bool
  | '_' :: '_' :: _ => true
  | _ :: cs => hasTwins cs
  | [] => false

/-- A text without its underscores, unless one of them stands at an end or beside another. -/
def joined (cs : List Char) : List Char :=
  if cs.head? = some '_' || cs.getLast? = some '_' || hasTwins cs then cs else cs.filter (· ≠ '_')

/-- A text without blanks around it. -/
def trimmed (s : String) : List Char := Text.trimBoth Text.isNumberBlank s.toList

/-! ## Whole numbers -/

/-- A number without the zeros and underscores at its front, as long as something is left before
    its point or its end; nothing for a text that begins otherwise. -/
def withoutLeadingZeros? (cs : List Char) : Option (List Char) :=
  match cs with
  | [] => none
  | '-' :: _ => some cs
  | '0' :: _ =>
    let zeros := cs.takeWhile fun c => c = '0' || c = '_'
    match cs.drop zeros.length with
    | [] => some (zeros.drop (zeros.length - 1))
    | '.' :: rest => some (zeros.drop (zeros.length - 1) ++ '.' :: rest)
    | c :: rest => if c.isDigit then some (c :: rest) else none
  | c :: _ => if c.isDigit then some cs else none

/-- A number without a point and the zeros after it. -/
def withoutFraction? (cs : List Char) : Option (List Char) :=
  let whole := cs.takeWhile (· ≠ '.')
  match cs.drop whole.length with
  | [] => some cs
  | _ :: zeros => if zeros ≠ [] && zeros.all (· = '0') then some whole else none

/-- The number that digits without needless zeros spell. -/
def natural? : List Char → Option Nat
  | [] => none
  | '0' :: _ :: _ => none
  | cs => if cs.all Char.isDigit then some (Text.ofDigits (cs.map fun c => c.toNat - 48)) else none

/-- The whole number that the value of an option spells. -/
def readWhole? (s : String) : Option Int := do
  let unsigned ←
    match trimmed s with
    | '+' :: '-' :: _ => none
    | '+' :: cs => some cs
    | cs => some cs
  let cs ← (withoutLeadingZeros? unsigned).bind withoutFraction?
  let cs := joined cs
  if Text.maxDigits < cs.length then none
  else
    match cs with
    | '-' :: cs => (natural? cs).map fun n => -Int.ofNat n
    | cs => (natural? cs).map Int.ofNat

/-! ## Decimal numbers -/

/-- The decimal number that a text without underscores spells. -/
def decimal? (cs : List Char) : Option Binary64 :=
  if cs.contains '_' || cs.any fun c => Text.isDecimalDigit c && !c.isDigit then none
  else Number.unspaced? cs

/-- The decimal number that the value of an option spells. -/
def readDecimal? (s : String) : Option Binary64 := decimal? (trimmed s) <|> decimal? (joined s.toList)

end CallExcerpt.Command.Numeral
