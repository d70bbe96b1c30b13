import CallExcerpt.Text.CharacterName.Table

/-! # Characters by name

    A character may be asked for by its name or by another name that it has,
    in capitals or small letters. Some names are not in a table but follow
    from the code point: those of numbered characters end with it, and those
    of Hangul syllables spell the sounds. Of these, the names of the unified
    ideographs and of the syllables are known in capitals only.
-/

namespace CallExcerpt.Text.CharacterName

/-! ## Names in a table -/

/-- An entry of the table. -/
inductive Entry where
  /-- A code point without a name. -/
  | unnamed
  /-- A name: so many characters of the name before it, then others. -/
  | named (kept : Nat) (rest : List Char)

/-- A character of the table before the entries that follow it; `rest` is what stands between. -/
def push (c : Char) : List Char × List Entry → List Char × List Entry
  | (rest, entries) =>
    if c = '.' then ([], .unnamed :: entries)
    else if c = 'z' then
      match rest, entries with
      | [], .named kept r :: es => ([], .named (kept + 25) r :: es)
      | _, _ => (rest, entries)
    else if 'a' ≤ c && c < 'z' then ([], .named (c.toNat - 'a'.toNat) rest :: entries)
    else (c :: rest, entries)

/-- The entries of the rows of a block. -/
def entries (rows : List String) : List Entry :=
  (rows.foldr (fun row acc => row.toList.foldr push acc) ([], [])).2

/-- The code point with the name, among entries that begin at a code point. -/
def find? (name : List Char) (code : Nat) (before : List Char) : List Entry → Option Nat
  | [] => none
  | .unnamed :: es => find? name (code + 1) before es
  | .named kept rest :: es =>
    let this := before.take kept ++ rest
    if this = name then some code else find? name (code + 1) this es

/-- The code point with the name, among blocks of the table. -/
def findIn? (blocks : List (Nat × List String)) (name : List Char) : Option Nat :=
  blocks.findSome? fun (first, rows) => find? name first [] (entries rows)

/-! ## Numbered characters -/

/-- A hexadecimal digit with capital letters. -/
def hexDigit? (c : Char) : Option Nat :=
  if c.isDigit then some (c.toNat - '0'.toNat)
  else if 'A' ≤ c && c ≤ 'F' then some (c.toNat - 'A'.toNat + 10) else none

/-- The number that hexadecimal digits spell, the highest first. -/
def hexNumber? (cs : List Char) : Option Nat :=
  (cs.mapM hexDigit?).map fun ds => ds.foldl (fun n d => 16 * n + d) 0

/-- What stands after a first part. -/
def after? : List Char → List Char → Option (List Char)
  | [], cs => some cs
  | _ :: _, [] => none
  | a :: as, c :: cs => if a = c then after? as cs else none

/-- Is the number in one of the ranges? -/
def isWithin (ranges : List (Nat × Nat)) (n : Nat) : Bool := ranges.any fun (a, b) => a ≤ n && n ≤ b

/-- Names that end with the code point, and the code points that have them. -/
def numbered : List (String × List (Nat × Nat)) := [
  ("CJK COMPATIBILITY IDEOGRAPH-", [(0xF900, 0xFA6D), (0xFA70, 0xFAD9), (0x2F800, 0x2FA1D)]),
  ("KHITAN SMALL SCRIPT CHARACTER-", [(0x18B00, 0x18CD5)]),
  ("NUSHU CHARACTER-", [(0x1B170, 0x1B2FB)])]

/-- The code point of a numbered character. -/
def findNumbered? (name : List Char) : Option Nat :=
  numbered.findSome? fun (start, ranges) => do
    let digits ← after? start.toList name
    let n ← hexNumber? digits
    if digits.head? ≠ some '0' && isWithin ranges n then some n else none

/-- The code points of the unified ideographs. -/
def ideographs : List (Nat × Nat) := [
  (0x3400, 0x4DBF), (0x4E00, 0x9FFF), (0x20000, 0x2A6DF), (0x2A700, 0x2B738), (0x2B740, 0x2B81D),
  (0x2B820, 0x2CEA1), (0x2CEB0, 0x2EBE0), (0x30000, 0x3134A)]

/-- The code point of a unified ideograph, which has four digits or five. -/
def findIdeograph? (name : List Char) : Option Nat := do
  let digits ← after? "CJK UNIFIED IDEOGRAPH-".toList name
  let n ← hexNumber? digits
  if (digits.length = 4 || digits.length = 5) && isWithin ideographs n then some n else none

/-! ## Hangul syllables -/

/-- The sounds with which a syllable begins. -/
def initials : List String :=
  ["G", "GG", "N", "D", "DD", "R", "M", "B", "BB", "S", "SS", "", "J", "JJ", "C", "K", "T", "P", "H"]

/-- The vowels of a syllable. -/
def vowels : List String :=
  ["A", "AE", "YA", "YAE", "EO", "E", "YEO", "YE", "O", "WA", "WAE", "OE", "YO", "U", "WEO", "WE",
    "WI", "YU", "EU", "YI", "I"]

/-- The sounds with which a syllable ends. -/
def finals : List String :=
  ["", "G", "GG", "GS", "N", "NJ", "NH", "D", "L", "LG", "LM", "LB", "LS", "LT", "LP", "LH", "M",
    "B", "BS", "S", "SS", "NG", "J", "C", "K", "T", "P", "H"]

/-- The longest of the sounds with which a text begins: its number, and what follows. -/
def sound? (sounds : List String) (cs : List Char) : Option (Nat × List Char) :=
  sounds.zipIdx.foldl (fun best (sound, i) =>
    match after? sound.toList cs, best with
    | none, _ => best
    | some rest, none => some (i, rest)
    | some rest, some (_, r) => if rest.length < r.length then some (i, rest) else best) none

/-- The code point of a Hangul syllable. -/
def findSyllable? (name : List Char) : Option Nat := do
  let cs ← after? "HANGUL SYLLABLE ".toList name
  let (i, cs) ← sound? initials cs
  let (v, cs) ← sound? vowels cs
  let (f, cs) ← sound? finals cs
  if cs.isEmpty then some (0xAC00 + (i * vowels.length + v) * finals.length + f) else none

/-! ## All names -/

/-- A small letter of the first 128 code points, as a capital. -/
def plainCapital (c : Char) : Char := if 'a' ≤ c && c ≤ 'z' then Char.ofNat (c.toNat - 32) else c

/-- The code point of the character with a name. -/
def codeOf? (name : String) : Option Nat :=
  let cs := name.toList
  let capital := cs.map plainCapital
  findSyllable? cs <|> findIdeograph? cs <|> findNumbered? capital
    <|> findIn? nameBlocks capital <|> findIn? aliasBlocks capital

end CallExcerpt.Text.CharacterName
