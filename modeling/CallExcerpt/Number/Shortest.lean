import CallExcerpt.Number.Binary64

/-! # The shortest decimal

    A binary floating-point number is written with the fewest decimal digits
    that read back as the same number, and of those with the digits nearest
    to it. From `10 ^ -4` up to `10 ^ 16` the point stands among the digits,
    beyond that an exponent is written.
-/

namespace CallExcerpt.Number

/-- The decimal digits of a number, the highest first. -/
def digitsText (n : Nat) : String := String.ofList (Nat.toDigits 10 n)

namespace Binary64

/-- The real numbers that round to `mantissa · 2 ^ exponent`, as the ends of an interval in
    quarters of the last place: the gap below a power of two is half as wide. -/
def interval (mantissa : Nat) (exponent : Int) : Nat × Nat :=
  let below := if mantissa = Nat.pow 2 52 && minExponent < exponent then 1 else 2
  (4 * mantissa - below, 4 * mantissa + 2)

/-- Does `digits · 10 ^ power` read back as `mantissa · 2 ^ exponent`? -/
def readsBack (mantissa : Nat) (exponent : Int) (digits : Nat) (power : Int) : Bool :=
  let (lo, hi) := interval mantissa exponent
  -- compare digits · 10 ^ power with lo · 2 ^ (exponent - 2) and hi · 2 ^ (exponent - 2)
  let tens := Nat.pow 10 power.natAbs
  let twos := Nat.pow 2 (exponent - 2).natAbs
  let side (bound : Nat) : Nat × Nat :=
    let left := if power < 0 then digits else digits * tens
    let right := if power < 0 then bound * tens else bound
    if exponent - 2 < 0 then (left * twos, right) else (left, right * twos)
  let (a, b) := side lo
  let (c, d) := side hi
  if mantissa % 2 = 0 then b ≤ a && c ≤ d else b < a && c < d

/-- The two neighbours of `mantissa · 2 ^ exponent` on the grid of step `10 ^ power`, with the
    nearer one first and the even one first in a tie. -/
def neighbours (mantissa : Nat) (exponent : Int) (power : Int) : List Nat :=
  let tens := Nat.pow 10 power.natAbs
  let twos := Nat.pow 2 exponent.natAbs
  let num := (if exponent < 0 then mantissa else mantissa * twos) * (if power < 0 then tens else 1)
  let den := (if exponent < 0 then twos else 1) * (if power < 0 then 1 else tens)
  let low := num / den
  let near := roundDiv num den
  if near = low then [low, low + 1] else [low + 1, low]

/-- The power of ten of the first digit of `mantissa · 2 ^ exponent`, one more at most. -/
def topPower (mantissa : Nat) (exponent : Int) : Int :=
  let tens (n : Nat) : Int := Int.ofNat (Nat.toDigits 10 n).length
  if exponent < 0 then tens mantissa - tens (Nat.pow 2 exponent.natAbs) + 1
  else tens (mantissa * Nat.pow 2 exponent.natAbs)

/-- Looks for digits on finer and finer grids; `fuel` grids at most. -/
def shortestFrom (mantissa : Nat) (exponent : Int) (power : Int) : Nat → Nat × Int
  | 0 => (0, 0)
  | fuel + 1 =>
    match (neighbours mantissa exponent power).find?
        fun d => d ≠ 0 && readsBack mantissa exponent d power with
    | some d => (d, power)
    | none => shortestFrom mantissa exponent (power - 1) fuel

/-- Drops the zeros at the end of the digits. -/
def dropZeros (digits : Nat) (power : Int) : Nat → Nat × Int
  | 0 => (digits, power)
  | fuel + 1 =>
    if digits ≠ 0 && digits % 10 = 0 then dropZeros (digits / 10) (power + 1) fuel
    else (digits, power)

/-- The fewest digits that read back, with the power of ten of the last one. -/
def shortest (mantissa : Nat) (exponent : Int) : Nat × Int :=
  let (digits, power) := shortestFrom mantissa exponent (topPower mantissa exponent) 25
  dropZeros digits power 25

/-- How the digits of a finite number are laid out. -/
def layOut (digits : Nat) (power : Int) : String :=
  let ds := Nat.toDigits 10 digits
  -- the decimal point stands after `point` digits
  let point : Int := Int.ofNat ds.length + power
  if -4 < point && point ≤ 16 then
    if point ≤ 0 then
      String.ofList ('0' :: '.' :: List.replicate point.natAbs '0' ++ ds)
    else if point.toNat < ds.length then
      String.ofList (ds.take point.toNat ++ '.' :: ds.drop point.toNat)
    else String.ofList (ds ++ List.replicate (point.toNat - ds.length) '0' ++ ['.', '0'])
  else
    let e := point - 1
    let places := Nat.toDigits 10 e.natAbs
    let places := if places.length < 2 then '0' :: places else places
    let sign := if e < 0 then '-' else '+'
    let tail := if ds.length = 1 then [] else '.' :: ds.drop 1
    String.ofList (ds.take 1 ++ tail ++ 'e' :: sign :: places)

/-- The number in writing. -/
def text : Binary64 → String
  | .nan => "nan"
  | .infinite negative => if negative then "-inf" else "inf"
  | .finite negative 0 _ => if negative then "-0.0" else "0.0"
  | .finite negative mantissa exponent =>
    let (digits, power) := shortest mantissa exponent
    (if negative then "-" else "") ++ layOut digits power

/-- The number with one decimal place, a tie to the even digit. -/
def onePlace (a : Binary64) : String :=
  match a.units? with
  | none => a.text
  | some x =>
    let tenths := roundDiv (x.natAbs * 10) (Nat.pow 2 1074)
    let sign := match a with
      | .finite true _ _ => "-"
      | _ => ""
    sign ++ digitsText (tenths / 10) ++ "." ++ digitsText (tenths % 10)

end Binary64

end CallExcerpt.Number
