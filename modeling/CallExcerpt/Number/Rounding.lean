/-! # Rounding quotients

    A quotient of natural numbers goes to the nearest whole number, and a tie
    to the even one.
-/

namespace CallExcerpt.Number

/-- The whole number nearest to `num / den`, a tie to the even neighbour. -/
def roundDiv (num den : Nat) : Nat :=
  let q := num / den
  let r := num % den
  if 2 * r < den then q
  else if den < 2 * r then q + 1
  else if q % 2 = 0 then q else q + 1

end CallExcerpt.Number
