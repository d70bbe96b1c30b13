import CallExcerpt.Pattern.Basic
import CallExcerpt.Text.Blank
import CallExcerpt.Text.Capital
import CallExcerpt.Text.Digit
import CallExcerpt.Text.Word

/-! # Characters under options

    Which characters a pattern means by a code point, a range or a kind of
    character. If case is ignored, the text is read in small letters, and a
    code point stands for all letters that have the same capital.
-/

namespace CallExcerpt.Pattern

/-- Is the character of the kind? -/
def Category.holds (ascii : Bool) (c : Char) : Category → Bool
  | .digit => if ascii then c.isDigit else Text.isDecimalDigit c
  | .space => if ascii then c = ' ' || (9 ≤ c.toNat && c.toNat ≤ 13) else Text.isBlank c
  | .word => if ascii then c = '_' || c.isAlphanum else Text.isWordChar c

/-- Is the code point a letter of the first 128? -/
def isPlainLetter (n : Nat) : Bool := (65 ≤ n && n ≤ 90) || (97 ≤ n && n ≤ 122)

/-- The small letter of a code point in the alphabet of the options. -/
def Flags.small (flags : Flags) (n : Nat) : Nat :=
  if flags.ascii then if 65 ≤ n && n ≤ 90 then n + 32 else n else Text.lowerCode n

/-- Has the code point a letter of the other case in the alphabet of the options? -/
def Flags.isCased (flags : Flags) (n : Nat) : Bool :=
  if flags.ascii then isPlainLetter n else Text.lowerCode n ≠ n || Text.capitalCode n ≠ n

/-- The code points that count as the same letter as the given small letter. -/
def Flags.forms (flags : Flags) (small : Nat) : List Nat :=
  if flags.ascii then if 97 ≤ small && small ≤ 122 then [small, small - 32] else [small]
  else Text.caseForms small

/-- Is the character the code point? -/
def Flags.isCode (flags : Flags) (n : Nat) (c : Char) : Bool :=
  if flags.ignoreCase then
    let small := flags.small n
    if flags.ascii then flags.small c.toNat = small
    else (Text.smallForms small).contains (flags.small c.toNat)
  else c.toNat = n

/-- Are the characters the same? Other than for code points of a pattern, letters that only share
    their capital are not. -/
def Flags.isSame (flags : Flags) (a b : Char) : Bool :=
  if flags.ignoreCase then flags.small a.toNat = flags.small b.toNat else a = b

/-- The last code point of the basic plane. -/
def lastBasic : Nat := 0xFFFF

/-- Does the entry of a class hold the character? If case is ignored, code points beyond the basic
    plane stand for themselves, and ranges up to there for their capitals too. -/
def ClassItem.holds (flags : Flags) (c : Char) : ClassItem → Bool
  | .category kind negated => kind.holds flags.ascii c != negated
  | .code n =>
    if flags.ignoreCase && lastBasic < n then flags.small c.toNat = n else flags.isCode n c
  | .range low high =>
    let within (n : Nat) : Bool := low ≤ n && n ≤ high
    if flags.ignoreCase then
      let small := flags.small c.toNat
      ((flags.forms small).any fun n => n ≤ lastBasic && within n)
        || (lastBasic < high && (within small || within (Text.capitalCode small)))
    else within c.toNat

/-- Does the class hold the character? -/
def classHolds (flags : Flags) (negated : Bool) (items : List ClassItem) (c : Char) : Bool :=
  items.any (·.holds flags c) != negated

/-- What a node asks of one character, if it matches single characters. -/
def Node.test? (flags : Flags) : Node → Option (Char → Bool)
  | .code n => some (flags.isCode n)
  | .notCode n => some fun c => !flags.isCode n c
  | .dot => some fun c => flags.dotAll || c ≠ '\n'
  | .oneOf negated items => some (classHolds flags negated items)
  | .scoped on off body => body.test? (flags.within on off)
  | _ => none

end CallExcerpt.Pattern
