import CallExcerpt.Text.Numeral
import CallExcerpt.Text.Pieces
import CallExcerpt.Text.SmallLetter

/-! # Looks

    The look of a text is asked for in words: attributes, some of which have
    short names and each of which may be denied, a colour, a colour behind the
    text, and a link. A look has one normal form, so that two ways to ask for
    it can be compared.
-/

namespace CallExcerpt.Console

/-- The names of colours. -/
def colourNames : List String := [
  "default",
  "black", "red", "green", "yellow", "blue", "magenta", "cyan", "white", "bright_black",
  "bright_red", "bright_green", "bright_yellow", "bright_blue", "bright_magenta", "bright_cyan",
  "bright_white", "grey0", "gray0", "navy_blue", "dark_blue", "blue3", "blue1", "dark_green",
  "deep_sky_blue4", "dodger_blue3", "dodger_blue2", "green4", "spring_green4", "turquoise4",
  "deep_sky_blue3", "dodger_blue1", "green3", "spring_green3", "dark_cyan", "light_sea_green",
  "deep_sky_blue2", "deep_sky_blue1", "spring_green2", "cyan3", "dark_turquoise", "turquoise2",
  "green1", "spring_green1", "medium_spring_green", "cyan2", "cyan1", "dark_red", "deep_pink4",
  "purple4", "purple3", "blue_violet", "orange4", "grey37", "gray37", "medium_purple4",
  "slate_blue3", "royal_blue1", "chartreuse4", "dark_sea_green4", "pale_turquoise4", "steel_blue",
  "steel_blue3", "cornflower_blue", "chartreuse3", "cadet_blue", "sky_blue3", "steel_blue1",
  "pale_green3", "sea_green3", "aquamarine3", "medium_turquoise", "chartreuse2", "sea_green2",
  "sea_green1", "aquamarine1", "dark_slate_gray2", "dark_magenta", "dark_violet", "purple",
  "light_pink4", "plum4", "medium_purple3", "slate_blue1", "yellow4", "wheat4", "grey53", "gray53",
  "light_slate_grey", "light_slate_gray", "medium_purple", "light_slate_blue", "dark_olive_green3",
  "dark_sea_green", "light_sky_blue3", "sky_blue2", "dark_sea_green3", "dark_slate_gray3",
  "sky_blue1", "chartreuse1", "light_green", "pale_green1", "dark_slate_gray1", "red3",
  "medium_violet_red", "magenta3", "dark_orange3", "indian_red", "hot_pink3", "medium_orchid3",
  "medium_orchid", "medium_purple2", "dark_goldenrod", "light_salmon3", "rosy_brown", "grey63",
  "gray63", "medium_purple1", "gold3", "dark_khaki", "navajo_white3", "grey69", "gray69",
  "light_steel_blue3", "light_steel_blue", "yellow3", "dark_sea_green2", "light_cyan3",
  "light_sky_blue1", "green_yellow", "dark_olive_green2", "dark_sea_green1", "pale_turquoise1",
  "deep_pink3", "magenta2", "hot_pink2", "orchid", "medium_orchid1", "orange3", "light_pink3",
  "pink3", "plum3", "violet", "light_goldenrod3", "tan", "misty_rose3", "thistle3", "plum2",
  "khaki3", "light_goldenrod2", "light_yellow3", "grey84", "gray84", "light_steel_blue1",
  "yellow2", "dark_olive_green1", "honeydew2", "light_cyan1", "red1", "deep_pink2", "deep_pink1",
  "magenta1", "orange_red1", "indian_red1", "hot_pink", "dark_orange", "salmon1", "light_coral",
  "pale_violet_red1", "orchid2", "orchid1", "orange1", "sandy_brown", "light_salmon1",
  "light_pink1", "pink1", "plum1", "gold1", "navajo_white1", "misty_rose1", "thistle1", "yellow1",
  "light_goldenrod1", "khaki1", "wheat1", "cornsilk1", "grey100", "gray100", "grey3", "gray3",
  "grey7", "gray7", "grey11", "gray11", "grey15", "gray15", "grey19", "gray19", "grey23", "gray23",
  "grey27", "gray27", "grey30", "gray30", "grey35", "gray35", "grey39", "gray39", "grey42",
  "gray42", "grey46", "gray46", "grey50", "gray50", "grey54", "gray54", "grey58", "gray58",
  "grey62", "gray62", "grey66", "gray66", "grey70", "gray70", "grey74", "gray74", "grey78",
  "gray78", "grey82", "gray82", "grey85", "gray85", "grey89", "gray89", "grey93", "gray93"]

/-- The attributes in the order of the normal form, each with its short name. -/
def attributeNames : List (String × Option String) := [
  ("bold", some "b"), ("dim", some "d"), ("italic", some "i"), ("underline", some "u"),
  ("blink", none), ("blink2", none), ("reverse", some "r"), ("conceal", some "c"),
  ("strike", some "s"), ("underline2", some "uu"), ("frame", none), ("encircle", none),
  ("overline", some "o")]

/-- The attribute of a name. -/
def attribute? (name : String) : Option String :=
  (attributeNames.find? fun a => a.1 = name || a.2 = some name).map (·.1)

/-- Why words ask for no look. -/
inductive LookFault where
  /-- A word means nothing, or lacks the one after it. -/
  | unknownWord
  /-- A part of a colour is no number. -/
  | noNumber
  deriving Repr, DecidableEq

/-- A look. -/
structure Look where
  /-- The attributes that are asked for or denied, the latest first. -/
  attributes : List (String × Bool) := []
  /-- The colour of the text. -/
  colour : Option String := none
  /-- The colour behind the text. -/
  background : Option String := none
  /-- Where the text leads. -/
  link : Option String := none
  deriving Repr, DecidableEq

/-! ## Colours -/

/-- What stands between a first part and a closing parenthesis at the end. -/
def enclosed? (front : String) (cs : List Char) : Option (List Char) :=
  if front.toList.isPrefixOf cs && cs.getLast? = some ')' then
    some ((cs.drop front.length).dropLast)
  else none

/-- A hexadecimal digit with small letters. -/
def isSmallHex (c : Char) : Bool := c.isDigit || ('a' ≤ c && c ≤ 'f')

/-- The greatest part of a colour, and the greatest number of one. -/
def maxColour : Int := 255

/-- Checks the three parts of a colour. -/
def checkParts (cs : List Char) : Except LookFault Unit := do
  let parts := Text.pieces ',' cs
  if parts.length ≠ 3 then throw .unknownWord
  let numbers ← parts.mapM fun part =>
    match Text.readInteger? (String.ofList part) with
    | some n => .ok n
    | none => .error .noNumber
  if numbers.any (maxColour < ·) then throw .unknownWord

/-- The colour of a word: a name, a number, three parts or six hexadecimal digits. -/
def readColour (word : String) : Except LookFault String := do
  let cs := Text.inSmallLetters word.toList
  let colour := String.ofList cs
  if colourNames.contains colour then return colour
  match cs with
  | '#' :: digits => if digits.length = 6 && digits.all isSmallHex then return colour
  | _ => pure ()
  match enclosed? "color(" cs with
  | some digits =>
    if 1 ≤ digits.length && digits.length ≤ 3 && digits.all Char.isDigit
        && Int.ofNat (Text.ofDigits (digits.map fun c => c.toNat - 48)) ≤ maxColour then
      return colour
  | none => pure ()
  match enclosed? "rgb(" cs with
  | some parts =>
    if parts ≠ [] && parts.all fun c => c = ',' || Text.isDecimalDigit c then
      checkParts parts
      return colour
  | none => pure ()
  throw .unknownWord

/-! ## Looks in words -/

/-- The look that words ask for, on top of another. -/
def readLook (look : Look) : List String → Except LookFault Look
  | [] => .ok look
  | word :: words =>
    match String.ofList (Text.inSmallLetters word.toList), words with
    | "on", next :: rest => do
      let background ← readColour next
      readLook { look with background } rest
    | "not", next :: rest =>
      match attribute? next with
      | some a => readLook { look with attributes := (a, false) :: look.attributes } rest
      | none => .error .unknownWord
    | "link", next :: rest => readLook { look with link := some next } rest
    | "on", [] | "not", [] | "link", [] => .error .unknownWord
    | word, words =>
      match attribute? word with
      | some a => readLook { look with attributes := (a, true) :: look.attributes } words
      | none => do
        let colour ← readColour word
        readLook { look with colour } words

/-- The normal form of a look. -/
def Look.text (look : Look) : String :=
  let said := attributeNames.filterMap fun a =>
    (look.attributes.lookup a.1).map fun on => if on then a.1 else s!"not {a.1}"
  let words := said ++ look.colour.toList ++ (look.background.toList.map fun c => s!"on {c}")
    ++ (look.link.toList.map fun l => s!"link {l}")
  if words.isEmpty then "none" else Text.joinWith ' ' words

/-- The words of a text, which blanks keep apart. -/
def wordsOf (cs : List Char) : List String :=
  ((Text.pieces ' ' (cs.map fun c => if Text.isBlank c then ' ' else c)).filter (· ≠ [])).map
    String.ofList

/-- The normal form of the look that a text asks for. A text that asks for no look is its own
    normal form, in small letters. -/
def normalLook (cs : List Char) : Except LookFault String :=
  let trimmed := Text.trimBoth Text.isBlank cs
  if trimmed = "none".toList then .ok "none"
  else
    match readLook {} (wordsOf cs) with
    | .ok look => .ok look.text
    | .error .unknownWord => .ok (String.ofList (Text.inSmallLetters trimmed))
    | .error .noNumber => .error .noNumber

end CallExcerpt.Console
