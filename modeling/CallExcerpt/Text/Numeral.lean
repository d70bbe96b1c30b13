import CallExcerpt.Text.Blank
import CallExcerpt.Text.Digit

/-! # Whole numbers in writing

    A whole number is written with an optional sign and decimal digits of any
    script, single underscores between digits, blanks around the whole.
-/

namespace CallExcerpt.Text

/-- The most digits that a written number may have. -/
def maxDigits : Nat := 4300

/-- Has a whole number so few digits that it can be written? -/
def isWritable (n : Int) : Bool := (Nat.toDigits 10 n.natAbs).length ≤ maxDigits

/-- What is said of a number with too many digits. -/
def tooManyDigits : String := s!"Exceeds the limit ({maxDigits} digits) for integer string conversion"

/-- What is said of a number with too many digits that is written. -/
def cannotWriteNumber : String :=
  tooManyDigits ++ "; use sys.set_int_max_str_digits() to increase the limit"

/-- What is said of a number with so many digits that is read. -/
def cannotReadNumber (digits : Nat) : String :=
  s!"{tooManyDigits}: value has {digits} digits; use sys.set_int_max_str_digits() to increase the limit"

/-- The blanks that may stand around a number: not the information separators. -/
def isNumberBlank (c : Char) : Bool := isBlank c && !(28 ≤ c.toNat && c.toNat ≤ 31)

/-- The digits of a number without sign; `lead` tells that no digit stands just before. -/
def digitsOf? (lead : Bool) : List Char → Option (List Nat)
  | [] => if lead then none else some []
  | c :: cs =>
    match digitValue? c with
    | some d => (digitsOf? false cs).map (d :: ·)
    | none => if c = '_' && !lead then digitsOf? true cs else none

/-- The number that the decimal digits make, the highest first. -/
def ofDigits (digits : List Nat) : Nat := digits.foldl (fun n d => 10 * n + d) 0

/-- The number without sign that a text spells. -/
def readNatural? (cs : List Char) : Option Nat := do
  let digits ← digitsOf? true cs
  if digits.length ≤ maxDigits then some (ofDigits digits) else none

/-- The whole number that a text spells, if it spells one. -/
def readInteger? (s : String) : Option Int :=
  match trimBoth isNumberBlank s.toList with
  | '-' :: cs => (readNatural? cs).map fun n => -Int.ofNat n
  | '+' :: cs => (readNatural? cs).map Int.ofNat
  | cs => (readNatural? cs).map Int.ofNat

end CallExcerpt.Text
