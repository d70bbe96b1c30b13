/-! # Blanks

    The blank characters of all scripts, and the two ways in which a text
    loses what stands at its ends.
-/

namespace CallExcerpt.Text

/-- A blank: the controls that move the position, the four information
    separators, and the spaces of all scripts. -/
def isBlank (c : Char) : Bool :=
  let n := c.toNat
  (9 ≤ n && n ≤ 13) || (28 ≤ n && n ≤ 32) || n = 0x85 || n = 0xA0 || n = 0x1680
    || (0x2000 ≤ n && n ≤ 0x200A) || n = 0x2028 || n = 0x2029 || n = 0x202F || n = 0x205F
    || n = 0x3000

/-- What is left once the characters with a property are taken from both ends. -/
def trimBoth (p : Char → Bool) (cs : List Char) : List Char :=
  ((cs.dropWhile p).reverse.dropWhile p).reverse

/-- The text without the blanks at its ends. -/
def strip (s : String) : String := String.ofList (trimBoth isBlank s.toList)

end CallExcerpt.Text
