import CallExcerpt.Text.Pieces

/-! # Paths

    A path is an anchor and the names between slashes. Empty names and single
    dots are dropped when a path is read, double dots are kept. The suffix of
    a name begins at its last dot, unless the name begins or ends with it.
-/

namespace CallExcerpt

/-- Where a path begins. -/
inductive Anchor where
  /-- At the working directory. -/
  | relative
  /-- At the root. -/
  | root
  /-- At the root, written with two slashes, which some systems set apart. -/
  | doubleRoot
  deriving Repr, DecidableEq

/-- A path in normal form. -/
structure Path where
  /-- Where the path begins. -/
  anchor : Anchor := .relative
  /-- The names from there on. -/
  parts : List String
  deriving Repr, DecidableEq

namespace Path

/-- The anchor that the slashes at the front of a text make. -/
def anchorOf : List Char → Anchor
  | '/' :: '/' :: '/' :: _ => .root
  | '/' :: '/' :: _ => .doubleRoot
  | '/' :: _ => .root
  | _ => .relative

/-- Reads a path. -/
def ofString (s : String) : Path where
  anchor := anchorOf s.toList
  parts := ((Text.pieces '/' s.toList).filter fun p => p ≠ [] && p ≠ ['.']).map String.ofList

/-- The slashes of an anchor. -/
def anchorText : Anchor → String
  | .relative => ""
  | .root => "/"
  | .doubleRoot => "//"

/-- The path in writing; a dot for the working directory itself. -/
def toString (p : Path) : String :=
  match p.anchor, p.parts with
  | .relative, [] => "."
  | anchor, parts => anchorText anchor ++ Text.joinWith '/' parts

instance : ToString Path := ⟨toString⟩

/-- Standard output in place of a file. -/
def dash : Path := { parts := ["-"] }

/-- The last name; empty if there is none. -/
def name (p : Path) : String := p.parts.getLast?.getD ""

/-- The path without its last name. -/
def parent (p : Path) : Path := { p with parts := p.parts.dropLast }

/-- The path one name further down. -/
def child (p : Path) (name : String) : Path := { p with parts := p.parts ++ [name] }

/-- A name before and from its last dot; the second part is empty if the dot is missing, or the
    name's first or last character. -/
def splitName (cs : List Char) : List Char × List Char :=
  let tail := (cs.reverse.takeWhile (· ≠ '.')).reverse
  let stem := cs.take (cs.length - tail.length - 1)
  if tail.isEmpty || stem.isEmpty || !cs.contains '.' then (cs, [])
  else (stem, '.' :: tail)

/-- The last name without its suffix. -/
def stem (p : Path) : String := String.ofList (splitName p.name.toList).1

/-- The suffix of the last name, its dot included. -/
def suffix (p : Path) : String := String.ofList (splitName p.name.toList).2

/-- The path with another last name; nothing for a path that has none. -/
def withName? (p : Path) (name : String) : Option Path :=
  if p.name = "" then none else some { p with parts := p.parts.dropLast ++ [name] }

/-- The path with another suffix of its last name; nothing for a path that has no name. -/
def withSuffix? (p : Path) (suffix : String) : Option Path := p.withName? (p.stem ++ suffix)

end Path

end CallExcerpt
