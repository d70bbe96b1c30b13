/-! # Patterns

    The parsed form of a regular expression, the options under which it is
    searched for, and the widths of the texts that it can match:

    - `Node`, what is to match, with `sequence` and `choice` to join nodes,
    - `Node.ofBranches`, which draws out what several branches begin with,
    - `Node.width`, the least and the greatest width of what a node matches.
-/

namespace CallExcerpt.Pattern

/-- Options of a search. -/
structure Flags where
  /-- Capitals and small letters count as the same. -/
  ignoreCase : Bool := false
  /-- The line anchors hold at every line. -/
  multiline : Bool := false
  /-- The dot matches the line end too. -/
  dotAll : Bool := false
  /-- Classes know the first 128 code points only. -/
  ascii : Bool := false
  /-- Classes know all scripts, which is the rule anyhow. -/
  unicode : Bool := false
  /-- Blanks and comments in the pattern are skipped. -/
  verbose : Bool := false
  /-- An option without effect on the search. -/
  template : Bool := false
  deriving Repr, DecidableEq

/-- The options of either. -/
def Flags.union (a b : Flags) : Flags where
  ignoreCase := a.ignoreCase || b.ignoreCase
  multiline := a.multiline || b.multiline
  dotAll := a.dotAll || b.dotAll
  ascii := a.ascii || b.ascii
  unicode := a.unicode || b.unicode
  verbose := a.verbose || b.verbose
  template := a.template || b.template

/-- The options of both. -/
def Flags.inter (a b : Flags) : Flags where
  ignoreCase := a.ignoreCase && b.ignoreCase
  multiline := a.multiline && b.multiline
  dotAll := a.dotAll && b.dotAll
  ascii := a.ascii && b.ascii
  unicode := a.unicode && b.unicode
  verbose := a.verbose && b.verbose
  template := a.template && b.template

/-- The options of the first that the second does not have. -/
def Flags.diff (a b : Flags) : Flags where
  ignoreCase := a.ignoreCase && !b.ignoreCase
  multiline := a.multiline && !b.multiline
  dotAll := a.dotAll && !b.dotAll
  ascii := a.ascii && !b.ascii
  unicode := a.unicode && !b.unicode
  verbose := a.verbose && !b.verbose
  template := a.template && !b.template

/-- The options inside a group that turns some on and some off. The two alphabets exclude each
    other, so one that is turned on takes the other's place. -/
def Flags.within (outer on off : Flags) : Flags :=
  let base := if on.ascii || on.unicode then { outer with ascii := false, unicode := false } else outer
  (base.union on).diff off

/-- A kind of character. -/
inductive Category where
  /-- Decimal digits. -/
  | digit
  /-- Blanks. -/
  | space
  /-- Letters, numerals and the underscore. -/
  | word
  deriving Repr, DecidableEq

/-- One entry of a character class. -/
inductive ClassItem where
  /-- One code point. -/
  | code (n : Nat)
  /-- All code points between two, ends included. -/
  | range (low high : Nat)
  /-- All characters of a kind, or all others. -/
  | category (kind : Category) (negated : Bool)
  deriving Repr, DecidableEq

/-- A condition on a place in the text. -/
inductive Anchor where
  /-- At the start of the text, or of a line if every line counts. -/
  | start
  /-- At the end of the text or before its last line end, or at the end of a line. -/
  | finish
  /-- At the start of the text. -/
  | textStart
  /-- At the end of the text. -/
  | textEnd
  /-- Between a word character and another. -/
  | boundary
  /-- Not between a word character and another. -/
  | inside
  deriving Repr, DecidableEq

/-- In which order the counts of a repetition are tried. -/
inductive Greed where
  /-- The highest count first. -/
  | greedy
  /-- The lowest count first. -/
  | reluctant
  /-- The highest count only. -/
  | possessive
  deriving Repr, DecidableEq

/-- A parsed pattern. -/
inductive Node where
  /-- Matches the empty text. -/
  | empty
  /-- Matches nothing. -/
  | never
  /-- One code point. -/
  | code (n : Nat)
  /-- Any code point but one. -/
  | notCode (n : Nat)
  /-- Any character but the line end. -/
  | dot
  /-- A character of a class, or outside it. -/
  | oneOf (negated : Bool) (items : List ClassItem)
  /-- One after the other. -/
  | seq (first second : Node)
  /-- One or the other, the first one first. -/
  | alt (first second : Node)
  /-- Repeated at least `low` and at most `high` times. -/
  | loop (greed : Greed) (low : Nat) (high : Option Nat) (body : Node)
  /-- A numbered group, which remembers the text it matched. -/
  | group (number : Nat) (body : Node)
  /-- A group that only turns options on and off. -/
  | scoped (on off : Flags) (body : Node)
  /-- A group that is not entered again once it matched. -/
  | atomic (body : Node)
  /-- The text that a group remembers. -/
  | backref (number : Nat)
  /-- What lies ahead matches, or does not. -/
  | ahead (negated : Bool) (body : Node)
  /-- What lies before matches, or does not; the widths of what can match there are known. -/
  | behind (negated : Bool) (least most : Nat) (body : Node)
  /-- One or the other, as a group remembers a text or not. -/
  | branch (number : Nat) (yes no : Node)
  /-- A condition on the place. -/
  | anchor (a : Anchor)
  deriving Repr, Inhabited

/-- Nodes one after the other. -/
def Node.sequence : List Node → Node
  | [] => .empty
  | [n] => n
  | n :: ns => .seq n (sequence ns)

/-- The first of several nodes that leads to a match. -/
def Node.choice : List Node → Node
  | [] => .never
  | [n] => n
  | n :: ns => .alt n (choice ns)

/-! ## Branches -/

/-- Do the nodes match alike? Nodes that hold others are not compared. -/
def Node.isLike : Node → Node → Bool
  | .code a, .code b | .notCode a, .notCode b | .backref a, .backref b => a == b
  | .dot, .dot => true
  | .oneOf n items, .oneOf n' items' => n == n' && items == items'
  | .anchor a, .anchor b => a == b
  | _, _ => false

/-- The rest of a branch that begins with a node. -/
def Node.restAfter? (first : Node) : List Node → Option (List Node)
  | [] => none
  | n :: ns => if first.isLike n then some ns else none

/-- What all branches begin with, and the branches after it. -/
def Node.commonLead (nodes : List Node) (others : List (List Node)) :
    List Node × List (List Node) :=
  match nodes with
  | [] => ([], [] :: others)
  | n :: ns =>
    match others.mapM n.restAfter? with
    | none => ([], (n :: ns) :: others)
    | some rests =>
      let (lead, branches) := commonLead ns rests
      (n :: lead, branches)

/-- The entries of a class for a branch that is one character. -/
def Node.entries? : List Node → Option (List ClassItem)
  | [.code n] => some [.code n]
  | [.oneOf false items] => some items
  | _ => none

/-- A choice of branches. What all begin with stands before it, and branches of one character each
    are one class. -/
def Node.ofBranches : List (List Node) → List Node
  | [] => [.never]
  | [nodes] => nodes
  | nodes :: others =>
    let (lead, branches) := commonLead nodes others
    match branches.mapM entries? with
    | some items => lead ++ [.oneOf false items.flatten.eraseDups]
    | none => lead ++ [choice (branches.map sequence)]

/-! ## Widths -/

/-- All widths from here on count as one. -/
def widest : Nat := 18446744073709551616

/-- The least and the greatest number of characters that a node matches, given the widths of the
    groups before it. -/
def Node.width (groups : Nat → Nat × Nat) : Node → Nat × Nat
  | .empty | .never | .anchor _ | .ahead _ _ | .behind _ _ _ _ => (0, 0)
  | .code _ | .notCode _ | .dot | .oneOf _ _ => (1, 1)
  | .seq a b => clip ((a.width groups).1 + (b.width groups).1) ((a.width groups).2 + (b.width groups).2)
  | .alt a b => (min (a.width groups).1 (b.width groups).1, max (a.width groups).2 (b.width groups).2)
  | .loop _ low high body =>
    let most := (body.width groups).2
    clip ((body.width groups).1 * low) (if most = 0 then 0 else most * high.getD widest)
  | .group _ body | .scoped _ _ body | .atomic body => body.width groups
  | .backref number => groups number
  | .branch _ yes no =>
    (min (yes.width groups).1 (no.width groups).1, max (yes.width groups).2 (no.width groups).2)
where
  /-- Widths beyond the widest are not told apart. -/
  clip (low high : Nat) : Nat × Nat := (min low widest, min high widest)

end CallExcerpt.Pattern
