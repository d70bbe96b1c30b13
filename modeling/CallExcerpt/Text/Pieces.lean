/-! # Pieces between separators

    A text with `n` separators falls into `n + 1` pieces, and joining the
    pieces gives the text back.
-/

namespace CallExcerpt.Text

/-- The pieces between the separators, in order; one empty piece for the empty text. -/
def pieces (sep : Char) : List Char → List (List Char)
  | [] => [[]]
  | c :: cs =>
    if c = sep then [] :: pieces sep cs
    else match pieces sep cs with
      | [] => [[c]]
      | p :: ps => (c :: p) :: ps

/-- The pieces of a text. -/
def splitAt (sep : Char) (s : String) : List String :=
  (pieces sep s.toList).map String.ofList

/-- The texts with a separator between each two. -/
def joinWith (sep : Char) (texts : List String) : String :=
  String.ofList (List.intercalate [sep] (texts.map String.toList))

/-- A text before and after the first separator, if it has one. -/
def partition? (sep : Char) (s : String) : Option (String × String) :=
  let cs := s.toList
  match cs.dropWhile (· ≠ sep) with
  | [] => none
  | _ :: rest => some (String.ofList (cs.takeWhile (· ≠ sep)), String.ofList rest)

theorem pieces_ne_nil (sep : Char) (cs : List Char) : pieces sep cs ≠ [] := by
  cases cs with
  | nil => simp [pieces]
  | cons c cs =>
    by_cases h : c = sep
    · simp [pieces, h]
    · cases hp : pieces sep cs <;> simp [pieces, h, hp]

end CallExcerpt.Text
