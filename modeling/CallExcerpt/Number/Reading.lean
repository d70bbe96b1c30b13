import CallExcerpt.Number.Binary64
import CallExcerpt.Text.Numeral

/-! # Decimal numbers in writing

    A decimal number is written with an optional sign, digits of any script
    with or without a point among them, and an optional exponent; single
    underscores may stand between digits, and blanks around the whole. The
    numbers that are not finite have names, in letters of any case.
-/

namespace CallExcerpt.Number

open Text (isDecimalDigit digitValue? ofDigits)

/-- The text without its underscores, if each one stands between two digits; `behindDigit` tells
    whether a digit stands just before. -/
def dropUnderscores? (behindDigit : Bool) : List Char → Option (List Char)
  | [] => some []
  | c :: cs =>
    if c = '_' then
      if behindDigit && (cs.head?.map isDecimalDigit).getD false then dropUnderscores? false cs
      else none
    else (dropUnderscores? (isDecimalDigit c) cs).map (c :: ·)

/-- The values of the digits at the front, and what follows them. -/
def splitDigits (cs : List Char) : List Nat × List Char :=
  ((cs.takeWhile isDecimalDigit).filterMap digitValue?, cs.dropWhile isDecimalDigit)

/-- A sign at the front, and what follows it. -/
def splitSign : List Char → Bool × List Char
  | '-' :: cs => (true, cs)
  | '+' :: cs => (false, cs)
  | cs => (false, cs)

/-- The exponent that a text spells, with the letter before it; none for the empty text. -/
def exponent? : List Char → Option Int
  | [] => some 0
  | c :: cs =>
    if c = 'e' || c = 'E' then
      let (negative, cs) := splitSign cs
      let (digits, rest) := splitDigits cs
      if digits.isEmpty || !rest.isEmpty then none
      else some (if negative then -Int.ofNat (ofDigits digits) else Int.ofNat (ofDigits digits))
    else none

/-- The number that digits with a point and an exponent spell. -/
def finite? (negative : Bool) (cs : List Char) : Option Binary64 :=
  let (whole, rest) := splitDigits cs
  let (fraction, rest) :=
    match rest with
    | '.' :: rest => splitDigits rest
    | rest => ([], rest)
  if whole.isEmpty && fraction.isEmpty then none
  else (exponent? rest).map fun e =>
    Binary64.ofDecimal negative (ofDigits (whole ++ fraction)) (e - Int.ofNat fraction.length)

/-- The number that a text without blanks around it spells. -/
def unspaced? (text : List Char) : Option Binary64 :=
  let (negative, cs) := splitSign text
  match String.ofList (cs.map Char.toLower) with
  | "inf" | "infinity" => some (.infinite negative)
  | "nan" => some .nan
  | _ => (dropUnderscores? false cs).bind (finite? negative)

/-- The number that a text spells, if it spells one. -/
def readDecimal? (s : String) : Option Binary64 :=
  unspaced? (Text.trimBoth Text.isNumberBlank s.toList)

end CallExcerpt.Number
