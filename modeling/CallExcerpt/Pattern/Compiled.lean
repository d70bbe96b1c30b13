import CallExcerpt.Pattern.Head
import CallExcerpt.Pattern.Reader
import CallExcerpt.Pattern.Search

/-! # Patterns ready for use

    A pattern keeps its text beside what was read from it, and what is known
    of all its matches: the least width, and the characters they begin with.
-/

namespace CallExcerpt

/-- A pattern that was read without fault. -/
structure Pattern where
  /-- The text it was read from. -/
  source : String
  /-- The options for the whole pattern. -/
  flags : Pattern.Flags
  /-- What it matches. -/
  node : Pattern.Node
  /-- The least number of characters of a match. -/
  least : Nat
  /-- The characters with which matches begin, if they are known. -/
  head? : Option Pattern.CharacterClass

namespace Pattern

/-- Reads the text of a pattern. -/
def parse (source : String) : Except Fault Pattern :=
  let cs := source.toList
  match Reader.whole.run { pattern := cs, rest := cs } with
  | .error fault _ => .error fault
  | .ok (flags, node) s =>
    match node.flaw? flags.template with
    | some problem => .error ⟨problem, none⟩
    | none =>
      let least := (node.width s.widthOf).1
      .ok ⟨source, flags, node, least, if least = 0 then none else node.head? flags⟩

/-- The places of a text at which the pattern is tried. -/
def places (p : Pattern) (text : Array Char) : List Nat :=
  if text.size < p.least then []
  else
    match p.head? with
    | none => List.range (text.size - (p.least - 1) + 1)
    | some head =>
      let flags : Flags := { ascii := p.flags.ascii }
      (List.range text.size).filter fun i =>
        text[i]?.any (classHolds flags head.negated head.items)

/-- Does the pattern match somewhere in the text? -/
def isFoundIn (p : Pattern) (text : String) : Bool :=
  let cs := text.toList.toArray
  (p.places cs).any (p.node.matchesAt cs p.flags)

end Pattern

end CallExcerpt
