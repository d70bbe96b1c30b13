/-! # Line ends

    Systems end a line with a line feed, a carriage return, or both in this
    order. Inside the program a line feed alone ends a line.
-/

namespace CallExcerpt.Text

/-- The text with every line end written as a line feed. -/
def unifyLineEnds : List Char → List Char
  | [] => []
  | '\r' :: '\n' :: cs => '\n' :: unifyLineEnds cs
  | '\r' :: cs => '\n' :: unifyLineEnds cs
  | c :: cs => c :: unifyLineEnds cs

end CallExcerpt.Text
