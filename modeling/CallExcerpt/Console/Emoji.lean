import CallExcerpt.Console.Emoji.Table
import CallExcerpt.Text.Blank
import CallExcerpt.Text.Pieces
import CallExcerpt.Text.SmallLetter

/-! # Emoji

    A name between two colons stands for an emoji, in letters of any case. It
    may ask for one of two variants. A name that no emoji has is left as it
    is, with both of its colons.
-/

namespace CallExcerpt.Console

/-- The emoji of a name, among words that are names and emoji in turn. -/
def emojiIn? (name : List Char) : List (List Char) → Option (List Char)
  | n :: emoji :: rest => if n = name then some emoji else emojiIn? name rest
  | _ => none

/-- The emoji of a name in small letters. -/
def emojiNamed? (name : List Char) : Option (List Char) :=
  emojiRows.findSome? fun row => emojiIn? name (Text.pieces ' ' row.toList)

/-- The variants that a name may ask for, with the characters that choose them. -/
def variants : List (List Char × Char) := [
  ("-emoji".toList, Char.ofNat 0xFE0F), ("-text".toList, Char.ofNat 0xFE0E)]

/-- The variant for which a name asks, and the name without it. -/
def splitVariant (code : List Char) : List Char × List Char :=
  match variants.find? fun v => v.1.isSuffixOf code with
  | some (suffix, mark) => (code.take (code.length - suffix.length), [mark])
  | none => (code, [])

/-- The emoji for which the text between two colons stands. -/
def emojiOf? (code : List Char) : Option (List Char) :=
  let (name, mark) := splitVariant code
  (emojiNamed? (Text.inSmallLetters name)).map (· ++ mark)

/-- What stands between a colon that has been read and the next one, if no blank is in it. -/
def codeAt? (cs : List Char) : Option (List Char) :=
  let code := cs.takeWhile fun c => c ≠ ':' && !Text.isBlank c
  if (cs.drop code.length).head? = some ':' then some code else none

/-- A text with emoji in place of their names; `skip` characters belong to a name that was read. -/
def withEmojiFrom (skip : Nat) : List Char → List Char
  | [] => []
  | c :: cs =>
    match skip with
    | skip + 1 => withEmojiFrom skip cs
    | 0 =>
      if c ≠ ':' then c :: withEmojiFrom 0 cs
      else
        match codeAt? cs with
        | none => c :: withEmojiFrom 0 cs
        | some code =>
          (emojiOf? code).getD (':' :: code ++ [':']) ++ withEmojiFrom (code.length + 1) cs

/-- A text with emoji in place of their names. -/
def withEmoji (cs : List Char) : List Char := withEmojiFrom 0 cs

end CallExcerpt.Console
