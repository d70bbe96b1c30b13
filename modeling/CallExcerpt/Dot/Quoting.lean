/-! # Quoted identifiers

    A text stands between double quotes in a graph description. A backslash
    goes before each quote and each backslash inside, so that the first quote
    without one ends the text. In a label a line end is written as a backslash
    and an `n`.
-/

namespace CallExcerpt.Dot

/-- One character between quotes. -/
def escaped (c : Char) : List Char := if c = '\\' || c = '"' then ['\\', c] else [c]

/-- One character of a label between quotes. -/
def escapedInLabel (c : Char) : List Char := if c = '\n' then ['\\', 'n'] else escaped c

/-- A text between quotes. -/
def quote (s : String) : String := String.ofList ('"' :: s.toList.flatMap escaped ++ ['"'])

/-- A label between quotes. -/
def quoteLabel (s : String) : String :=
  String.ofList ('"' :: s.toList.flatMap escapedInLabel ++ ['"'])

end CallExcerpt.Dot
