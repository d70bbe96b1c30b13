import CallExcerpt.Pattern.Character

/-! # How matches begin

    If all matches of a pattern begin with one character out of a class, only
    places before such a character are tried. The class is read under the
    options for the whole pattern, also where it stands in a group with
    options of its own.
-/

namespace CallExcerpt.Pattern

/-- A class of characters. -/
structure CharacterClass where
  /-- Are the entries those that it does not hold? -/
  negated : Bool
  /-- Its entries. -/
  items : List ClassItem
  deriving Repr, DecidableEq

/-- What stands first in a node. -/
inductive Lead where
  /-- Nothing that takes a character. -/
  | nothing
  /-- A code point that is the same in both cases, if case is ignored. -/
  | code (n : Nat)
  /-- Anything else. -/
  | other
  deriving Repr, DecidableEq

/-- Is the code point one of several that count as the same? -/
def isLoose (flags : Flags) (n : Nat) : Bool := flags.ignoreCase && flags.isCased n

/-- Is a code point of the entry one of several that count as the same? -/
def ClassItem.isLoose (flags : Flags) : ClassItem → Bool
  | .category _ _ => false
  | .code n => Pattern.isLoose flags n
  | .range low high =>
    flags.ignoreCase &&
      (lastBasic < high || (List.range (high + 1 - low)).any fun i => flags.isCased (low + i))

namespace Node

/-- What stands first in the node. -/
def lead (flags : Flags) : Node → Lead
  | .empty => .nothing
  | .code n => if isLoose flags n then .other else .code n
  | .seq a b =>
    match a.lead flags with
    | .nothing => b.lead flags
    | l => l
  | .group _ body => body.lead flags
  | .scoped on off body => body.lead (flags.within on off)
  | _ => .other

/-- The code point with which a branch begins. -/
def firstCode? (flags : Flags) : Node → Option ClassItem
  | .code n => if isLoose flags n then none else some (.code n)
  | .seq a _ => a.firstCode? flags
  | _ => none

/-- The code points with which branches begin. -/
def firstCodes? (flags : Flags) : Node → Option (List ClassItem)
  | .alt a b => do return (← a.firstCode? flags) :: (← b.firstCodes? flags)
  | n => (n.firstCode? flags).map ([·])

/-- The class with which the node begins, if it begins with one. -/
def firstClass? (flags : Flags) : Node → Option CharacterClass
  | .seq a _ => a.firstClass? flags
  | .group _ body => body.firstClass? flags
  | .scoped on off body => body.firstClass? (flags.within on off)
  | .oneOf negated items => if items.any (·.isLoose flags) then none else some ⟨negated, items⟩
  | .alt a b => ((Node.alt a b).firstCodes? flags).map (⟨false, ·⟩)
  | _ => none

/-- The class of the characters with which all matches begin, as far as it is known. -/
def head? (flags : Flags) (n : Node) : Option CharacterClass :=
  match n.lead flags with
  | .code c => some ⟨false, [.code c]⟩
  | _ => n.firstClass? flags

end Node

end CallExcerpt.Pattern
