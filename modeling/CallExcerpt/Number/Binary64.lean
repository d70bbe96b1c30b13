import CallExcerpt.Number.Rounding

/-! # Binary floating point with 53 bits

    The numbers `± m · 2 ^ e` with `m < 2 ^ 53` and `-1074 ≤ e ≤ 971`, with
    infinities and not-a-number, computed in whole numbers only: each
    operation takes the exact result and rounds it once, to nearest, ties to
    even.
-/

namespace CallExcerpt.Number

/-- A binary floating-point number of 64 bits. -/
inductive Binary64 where
  /-- `± mantissa · 2 ^ exponent`, the mantissa below `2 ^ 53` and, unless the exponent is the
      least, at least `2 ^ 52`. -/
  | finite (negative : Bool) (mantissa : Nat) (exponent : Int)
  /-- Beyond the largest finite number. -/
  | infinite (negative : Bool)
  /-- The result of an operation that has none. -/
  | nan
  deriving Repr, DecidableEq, Inhabited

namespace Binary64

/-- The least exponent. -/
def minExponent : Int := -1074

/-- The greatest exponent. -/
def maxExponent : Int := 971

/-- `num / den` with its last place at `2 ^ exponent`. -/
def scaled (num den : Nat) (exponent : Int) : Nat :=
  if exponent < 0 then roundDiv (num * Nat.pow 2 exponent.natAbs) den
  else roundDiv num (den * Nat.pow 2 exponent.natAbs)

/-- The number nearest to `± num / den`. -/
def ofRatio (negative : Bool) (num den : Nat) : Binary64 :=
  if num = 0 then .finite negative 0 minExponent
  else
    -- the quotient lies in [2 ^ (size - 1), 2 ^ (size + 1))
    let size : Int := Int.ofNat num.log2 - Int.ofNat den.log2
    let guess := size - 53
    let atGuess := scaled num den (max guess minExponent)
    let exponent := max (if atGuess < Nat.pow 2 53 then guess else guess + 1) minExponent
    let mantissa := scaled num den exponent
    let (mantissa, exponent) :=
      if mantissa = Nat.pow 2 53 then (Nat.pow 2 52, exponent + 1) else (mantissa, exponent)
    if maxExponent < exponent then .infinite negative else .finite negative mantissa exponent

/-- The number nearest to `± digits · 10 ^ power`. -/
def ofDecimal (negative : Bool) (digits : Nat) (power : Int) : Binary64 :=
  if digits = 0 then .finite negative 0 minExponent
  else
    let places : Int := Int.ofNat (Nat.toDigits 10 digits).length + power
    if 400 < places then .infinite negative
    else if places < -400 then .finite negative 0 minExponent
    else if power < 0 then ofRatio negative digits (Nat.pow 10 power.natAbs)
    else ofRatio negative (digits * Nat.pow 10 power.natAbs) 1

/-- The number nearest to a whole number. -/
def ofInt (n : Int) : Binary64 := ofRatio (n < 0) n.natAbs 1

/-- The value times `2 ^ 1074`; nothing for the numbers that are not finite. -/
def units? : Binary64 → Option Int
  | .finite negative mantissa exponent =>
    let n : Int := Int.ofNat (mantissa * Nat.pow 2 (exponent - minExponent).toNat)
    some (if negative then -n else n)
  | _ => none

/-- The sum, rounded once. -/
def add (a b : Binary64) : Binary64 :=
  match a.units?, b.units? with
  | some x, some y => ofRatio (x + y < 0) (x + y).natAbs (Nat.pow 2 1074)
  | _, _ =>
    match a, b with
    | .nan, _ | _, .nan => .nan
    | .infinite s, .infinite t => if s = t then a else .nan
    | .infinite _, _ => a
    | _, _ => b

/-- The product of numbers that are not below zero, rounded once. -/
def times (a b : Binary64) : Binary64 :=
  match a.units?, b.units? with
  | some x, some y => ofRatio false (x.natAbs * y.natAbs) (Nat.pow 2 2148)
  | _, _ => if a = .nan || b = .nan then .nan else .infinite false

/-- Is the first number less than the second? Nothing compares with not-a-number. -/
def less (a b : Binary64) : Bool :=
  match a.units?, b.units? with
  | some x, some y => x < y
  | _, _ =>
    match a, b with
    | .nan, _ | _, .nan => false
    | .infinite s, .infinite t => s && !t
    | .infinite s, _ => s
    | _, .infinite t => !t
    | _, _ => false

/-- Is the first number at most the second? -/
def atMost (a b : Binary64) : Bool :=
  match a, b with
  | .nan, _ | _, .nan => false
  | _, _ => !less b a

/-- The number times a natural number, rounded once, then to the nearest whole number;
    nothing for the numbers that are not finite. -/
def timesRounded? (a : Binary64) (factor : Nat) : Option Int :=
  match a.units? with
  | none => none
  | some x =>
    match (ofRatio (x < 0) (x.natAbs * factor) (Nat.pow 2 1074)).units? with
    | none => none
    | some y =>
      let n := roundDiv y.natAbs (Nat.pow 2 1074)
      some (if y < 0 then -Int.ofNat n else Int.ofNat n)

/-- The least whole number that is not below the number; nothing for the numbers that are not finite. -/
def ceiling? (a : Binary64) : Option Int :=
  a.units?.map fun x => -((-x).fdiv (Int.pow 2 1074))

end Binary64

end CallExcerpt.Number
