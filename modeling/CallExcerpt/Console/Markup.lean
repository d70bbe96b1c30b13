import CallExcerpt.Text.Blank

/-! # Console markup

    Lines for the console may hold tags in brackets that set the look of the
    text between them. A tag begins with a small letter or one of three marks;
    all other brackets are text, and so is a tag behind a backslash. A tag has
    a name and may have parameters behind an equals sign.
-/

namespace CallExcerpt.Console

/-- May a tag begin with the character? -/
def beginsTag (c : Char) : Bool :=
  ('a' ≤ c && c ≤ 'z') || c = '#' || c = '/' || c = '@'

/-- The inside of a tag whose opening bracket has been read, and what follows its closing one. -/
def tagBody? (cs : List Char) : Option (List Char × List Char) :=
  let body := cs.takeWhile fun c => c ≠ ']' && c ≠ '['
  match body, cs.drop body.length with
  | first :: _, ']' :: rest => if beginsTag first then some (body, rest) else none
  | _, _ => none

/-- A piece of a line. -/
inductive Piece where
  /-- Text. -/
  | text (cs : List Char)
  /-- The inside of a tag. -/
  | tag (body : List Char)
  deriving Repr, DecidableEq

/-- Backslashes at the front, and what follows them. -/
def splitBackslashes (cs : List Char) : Nat × List Char :=
  let n := (cs.takeWhile (· = '\\')).length
  (n, cs.drop n)

/-- The tag at the front, with the number of backslashes before it, its inside and the number of
    characters that it takes with them. -/
def tagAt? (cs : List Char) : Option (Nat × List Char × Nat) :=
  match splitBackslashes cs with
  | (n, '[' :: rest) => (tagBody? rest).map fun t => (n, t.1, n + t.1.length + 2)
  | _ => none

/-- A text without the backslashes before its opening brackets. -/
def dropEscapes : List Char → List Char
  | '\\' :: '[' :: cs => '[' :: dropEscapes cs
  | c :: cs => c :: dropEscapes cs
  | [] => []

/-- The pieces of a tag behind backslashes: two of them stand for one, and an odd one makes the
    tag text. -/
def tagPieces (backslashes : Nat) (body : List Char) : List Piece :=
  let doubled := List.replicate (backslashes / 2) '\\'
  if backslashes % 2 = 1 then [.text doubled, .text ('[' :: body ++ [']'])]
  else [.text doubled, .tag body]

/-- The pieces of a line; `skip` characters belong to a tag that was read, and `behind` is the text
    since the last tag, backwards. -/
def piecesFrom (skip : Nat) (behind : List Char) : List Char → List Piece
  | [] => [.text (dropEscapes behind.reverse)]
  | c :: cs =>
    match skip with
    | skip + 1 => piecesFrom skip behind cs
    | 0 =>
      match tagAt? (c :: cs) with
      | some (backslashes, body, size) =>
        .text (dropEscapes behind.reverse) :: tagPieces backslashes body
          ++ piecesFrom (size - 1) [] cs
      | none => piecesFrom 0 (c :: behind) cs

/-- The pieces of a line. -/
def pieces (cs : List Char) : List Piece := piecesFrom 0 [] cs

/-- A tag. -/
structure Tag where
  /-- Its name. -/
  name : List Char
  /-- What stands behind the equals sign, if there is one. -/
  parameters : Option (List Char)
  deriving Repr, DecidableEq

/-- The tag with an inside. -/
def Tag.ofBody (body : List Char) : Tag :=
  let name := body.takeWhile (· ≠ '=')
  ⟨name, if body.contains '=' then some (body.drop (name.length + 1)) else none⟩

/-- A tag in one text. -/
def Tag.text (t : Tag) : List Char :=
  match t.parameters with
  | some ps => t.name ++ ' ' :: ps
  | none => t.name

end CallExcerpt.Console
