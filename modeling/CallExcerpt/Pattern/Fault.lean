import CallExcerpt.Pattern.Basic
import CallExcerpt.Text.Numeral
import CallExcerpt.Text.Quoted

/-! # Faults in patterns

    What can be wrong with the text of a pattern, where, and how it is said.
-/

namespace CallExcerpt.Pattern

/-- What can be wrong with a pattern. -/
inductive Problem where
  /-- A backslash ends the pattern. -/
  | escapeAtEnd
  /-- A character class has no closing bracket. -/
  | unterminatedSet
  /-- The ends of a range are no characters, or in the wrong order. -/
  | badRange (low high : String)
  /-- An escape lacks digits. -/
  | incompleteEscape (escape : String)
  /-- An escape means nothing. -/
  | badEscape (escape : String)
  /-- An octal number is too large. -/
  | octalTooLarge (escape : String)
  /-- Something has to stand here. -/
  | missing (what : String)
  /-- A name has no end. -/
  | unterminatedName (terminator : Char)
  /-- No character has the name. -/
  | unknownCharacter (name : String)
  /-- A group is referred to from inside. -/
  | openGroup
  /-- A look-behind refers to its own group. -/
  | groupInLookbehind
  /-- There is no such group. -/
  | noGroup (number : Nat)
  /-- The least count is above the greatest. -/
  | countsReversed
  /-- A count is beyond all bounds. -/
  | countTooLarge
  /-- A repetition stands after nothing that could be repeated. -/
  | nothingToRepeat
  /-- A repetition stands after a repetition. -/
  | multipleRepeat
  /-- A group name is no identifier. -/
  | badGroupName (name : String)
  /-- A group name is used twice. -/
  | groupRedefined (name : String) (number before : Nat)
  /-- No group has the name. -/
  | unknownGroup (name : String)
  /-- The pattern ends too early. -/
  | unexpectedEnd
  /-- A group begins with an unknown mark. -/
  | unknownExtension (mark : String)
  /-- A comment has no end. -/
  | unterminatedComment
  /-- A group has no end. -/
  | unterminatedGroup
  /-- A condition has a third branch. -/
  | thirdBranch
  /-- A condition names the group zero. -/
  | badGroupNumber
  /-- Options for the whole pattern stand behind its start. -/
  | lateFlags
  /-- An option for octets is used on a text. -/
  | localeFlag
  /-- Two options exclude each other. -/
  | alphabetFlags
  /-- There is no such option. -/
  | unknownFlag
  /-- An option can only be on for the whole pattern. -/
  | globalFlagOn
  /-- An option can only be off for the whole pattern. -/
  | globalFlagOff
  /-- An alphabet cannot be turned off. -/
  | alphabetOff
  /-- An option is turned on and off. -/
  | flagOnAndOff
  /-- A closing parenthesis has no partner. -/
  | unbalanced
  /-- What a look-behind matches has no one width. -/
  | variableLookbehind
  /-- What a look-behind matches is too wide. -/
  | wideLookbehind
  /-- A repetition stands in a pattern that may have none. -/
  | repetition (greed : Greed)
  /-- A count has too many digits. -/
  | longCount (digits : Nat)
  /-- The whole pattern is to know the first 128 code points only, and all scripts. -/
  | bothAlphabets
  /-- There is no room for a pattern that is nested so deeply. -/
  | nestedTooDeeply
  deriving Repr, DecidableEq

/-- The problem in words. -/
def Problem.message : Problem → String
  | .escapeAtEnd => "bad escape (end of pattern)"
  | .unterminatedSet => "unterminated character set"
  | .badRange low high => s!"bad character range {low}-{high}"
  | .incompleteEscape escape => s!"incomplete escape {escape}"
  | .badEscape escape => s!"bad escape {escape}"
  | .octalTooLarge escape => s!"octal escape value {escape} outside of range 0-0o377"
  | .missing what => s!"missing {what}"
  | .unterminatedName terminator => s!"missing {terminator}, unterminated name"
  | .unknownCharacter name => s!"undefined character name {Text.quoted name}"
  | .openGroup => "cannot refer to an open group"
  | .groupInLookbehind => "cannot refer to group defined in the same lookbehind subpattern"
  | .noGroup number => s!"invalid group reference {number}"
  | .countsReversed => "min repeat greater than max repeat"
  | .countTooLarge => "the repetition number is too large"
  | .nothingToRepeat => "nothing to repeat"
  | .multipleRepeat => "multiple repeat"
  | .badGroupName name => s!"bad character in group name {Text.quoted name}"
  | .groupRedefined name number before =>
    s!"redefinition of group name {Text.quoted name} as group {number}; was group {before}"
  | .unknownGroup name => s!"unknown group name {Text.quoted name}"
  | .unexpectedEnd => "unexpected end of pattern"
  | .unknownExtension mark => s!"unknown extension ?{mark}"
  | .unterminatedComment => "missing ), unterminated comment"
  | .unterminatedGroup => "missing ), unterminated subpattern"
  | .thirdBranch => "conditional backref with more than two branches"
  | .badGroupNumber => "bad group number"
  | .lateFlags => "global flags not at the start of the expression"
  | .localeFlag => "bad inline flags: cannot use 'L' flag with a str pattern"
  | .alphabetFlags => "bad inline flags: flags 'a', 'u' and 'L' are incompatible"
  | .unknownFlag => "unknown flag"
  | .globalFlagOn => "bad inline flags: cannot turn on global flag"
  | .globalFlagOff => "bad inline flags: cannot turn off global flag"
  | .alphabetOff => "bad inline flags: cannot turn off flags 'a', 'u' and 'L'"
  | .flagOnAndOff => "bad inline flags: flag turned on and off"
  | .unbalanced => "unbalanced parenthesis"
  | .variableLookbehind => "look-behind requires fixed-width pattern"
  | .wideLookbehind => "looks too much behind"
  | .repetition greed =>
    let word := match greed with
      | .greedy => "MAX_REPEAT"
      | .reluctant => "MIN_REPEAT"
      | .possessive => "POSSESSIVE_REPEAT"
    s!"internal: unsupported template operator {word}"
  | .longCount digits => Text.cannotReadNumber digits
  | .bothAlphabets => "ASCII and UNICODE flags are incompatible"
  | .nestedTooDeeply => "maximum recursion depth exceeded"

/-- Is the problem one of a number, of options or of room, which is told without the pattern? -/
def Problem.isApart : Problem → Bool
  | .countTooLarge | .longCount _ | .bothAlphabets | .nestedTooDeeply => true
  | _ => false

/-- A problem with its place. -/
structure Fault where
  /-- What is wrong. -/
  problem : Problem
  /-- Where it is; a few problems concern the pattern as a whole. -/
  position? : Option Nat
  deriving Repr, DecidableEq

/-- The fault in words; the line and the column are told if the pattern has several lines. -/
def Fault.message (pattern : String) (f : Fault) : String :=
  match f.position? with
  | none => f.problem.message
  | some position =>
    let cs := pattern.toList
    let place := s!"{f.problem.message} at position {position}"
    if cs.contains '\n' then
      let before := cs.take position
      let line := before.count '\n' + 1
      let column := (before.reverse.takeWhile (· ≠ '\n')).length + 1
      s!"{place} (line {line}, column {column})"
    else place

/-! ## Nodes that cannot be used -/

/-- The widest that a look-behind may be. -/
def widestBehind : Nat := 4294967295

/-- The first problem of a node that could be read but cannot be used; a template has no
    repetitions. -/
def Node.flaw? (template : Bool) : Node → Option Problem
  | .seq a b | .alt a b => a.flaw? template <|> b.flaw? template
  | .loop greed _ _ body => if template then some (.repetition greed) else body.flaw? template
  | .group _ body | .scoped _ _ body | .atomic body | .ahead _ body => body.flaw? template
  | .behind _ least most body =>
    if widestBehind < least then some .wideLookbehind
    else if least ≠ most then some .variableLookbehind
    else body.flaw? template
  | .branch _ yes no => yes.flaw? template <|> no.flaw? template
  | _ => none

end CallExcerpt.Pattern
