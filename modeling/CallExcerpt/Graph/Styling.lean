import CallExcerpt.Table

/-! # Styling

    The drawing attributes of symbols. Attributes that are set for a while are
    laid over the lasting ones: the first change of a symbol keeps a copy of
    what it had, and `reset` brings every copy back.
-/

namespace CallExcerpt

/-- Drawing attributes, each key once. -/
abbrev Style := List (String × String)

/-- The drawing attributes of all symbols, with the copies kept for a reset. -/
structure Styling where
  /-- The attributes of each symbol that has been given some. -/
  current : List (String × Style) := []
  /-- What the symbols changed since the last reset had before. -/
  saved : List (String × Style) := []
  deriving Repr, DecidableEq, Inhabited

namespace Styling

/-- The attributes of a symbol. -/
def of (s : Styling) (name : String) : Style := (s.current.lookup name).getD []

/-- Gives a symbol a lasting attribute. -/
def put (s : Styling) (name key value : String) : Styling :=
  { s with current := Table.put name (Table.put key value (s.of name)) s.current }

/-- Keeps a copy of a symbol's attributes, unless one is kept already. -/
def save (s : Styling) (name : String) : Styling :=
  if (s.saved.lookup name).isSome then s
  else { s with saved := Table.put name (s.of name) s.saved }

/-- Gives a symbol an attribute until the next reset. -/
def set (s : Styling) (name key value : String) : Styling := (s.save name).put name key value

/-- Gives a symbol several attributes until the next reset. -/
def mark (s : Styling) (name : String) (style : Style) : Styling :=
  style.foldl (fun s a => s.set name a.1 a.2) s

/-- Takes back all that was set since the last reset. -/
def reset (s : Styling) : Styling where
  current := s.saved.foldl (fun current e => Table.put e.1 e.2 current) s.current
  saved := []

end Styling

end CallExcerpt
