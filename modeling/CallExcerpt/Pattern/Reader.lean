import CallExcerpt.Pattern.Basic
import CallExcerpt.Pattern.Fault
import CallExcerpt.Text.CharacterName
import CallExcerpt.Text.Identifier
import CallExcerpt.Text.Numeral

/-! # Reading patterns

    The text of a pattern is taken symbol by symbol, where a backslash and
    the character after it make one symbol, and the next symbol is always
    looked at before it is taken. So a backslash that ends the pattern is
    found when the symbol before it is taken.
-/

namespace CallExcerpt.Pattern

/-- One symbol of a pattern: a character, or a backslash with the character after it. -/
abbrev Symbol := List Char

/-- The state of a reader: the place in the pattern and what was learnt so far. -/
structure ReaderState where
  /-- The whole pattern. -/
  pattern : List Char
  /-- The number of characters before and within the next symbol. -/
  index : Nat := 0
  /-- The characters after the next symbol. -/
  rest : List Char
  /-- The next symbol. -/
  next : Option Symbol := none
  /-- The options for the whole pattern. -/
  flags : Flags := {}
  /-- The numbers of the named groups. -/
  names : List (String × Nat) := []
  /-- The widths of the groups from zero on; nothing for one that is not closed. -/
  widths : List (Option (Nat × Nat)) := [none]
  /-- Inside a look-behind, the number of groups before it. -/
  behindFrom : Option Nat := none
  /-- Numbers of groups that conditions ask for, with their places. -/
  asked : List (Nat × Nat) := []

/-- The widths of a group; of one that is not closed, none. -/
def ReaderState.widthOf (s : ReaderState) (number : Nat) : Nat × Nat :=
  ((s.widths[number]?).getD none).getD (0, 0)

/-- A reader of a part of a pattern. -/
abbrev Reader := EStateM Fault ReaderState

namespace Reader

/-- The number of characters before the next symbol. -/
def tell : Reader Nat := do
  let s ← get
  return s.index - (s.next.getD []).length

/-- Stops with a problem `back` characters before the next symbol. -/
def stop {α : Type} (problem : Problem) (back : Nat) : Reader α := do
  throw ⟨problem, some ((← tell) - back)⟩

/-- Looks at the symbol after the next one. -/
def advance : Reader Unit := do
  let s ← get
  match s.rest with
  | [] => set { s with next := none }
  | ['\\'] => throw ⟨.escapeAtEnd, some (s.pattern.length - 1)⟩
  | '\\' :: c :: r => set { s with next := some ['\\', c], index := s.index + 2, rest := r }
  | c :: r => set { s with next := some [c], index := s.index + 1, rest := r }

/-- Goes back, or on, to a place. -/
def seek (index : Nat) : Reader Unit := do
  modify fun s => { s with index, rest := s.pattern.drop index }
  advance

/-- The next symbol, left where it is. -/
def peek : Reader (Option Symbol) := return (← get).next

/-- Takes the next symbol. -/
def take : Reader (Option Symbol) := do
  let symbol ← peek
  advance
  return symbol

/-- Takes the next symbol if it is the given character. -/
def accept (c : Char) : Reader Bool := do
  if (← peek) = some [c] then
    advance
    return true
  else return false

/-- Takes at most `n` symbols that are characters with a property. -/
def takeUpTo (p : Char → Bool) : Nat → Reader (List Char)
  | 0 => return []
  | n + 1 => do
    match ← peek with
    | some [c] =>
      if p c then
        advance
        return c :: (← takeUpTo p n)
      else return []
    | _ => return []

/-- Takes symbols up to a terminator, which is taken too; `fuel` symbols at most. -/
def takeName (terminator : Char) (what : String) (found : List Char) : Nat → Reader (List Char)
  | 0 => stop (.missing what) 0
  | fuel + 1 => do
    match ← take with
    | none =>
      if found.isEmpty then stop (.missing what) 0
      else stop (.unterminatedName terminator) found.length
    | some symbol =>
      if symbol = [terminator] then
        if found.isEmpty then stop (.missing what) 1 else return found
      else takeName terminator what (found ++ symbol) fuel

/-- The name up to a terminator. -/
def name (terminator : Char) (what : String) : Reader String := do
  let s ← get
  return String.ofList (← takeName terminator what [] (s.rest.length + 2))

/-! ## Groups -/

/-- Stops unless the text may name a group. -/
def checkName (name : String) : Reader Unit := do
  if !Text.isIdentifier name then stop (.badGroupName name) (name.length + 1)

/-- Opens a group, named or not, and gives its number. -/
def openGroup (name : Option String) : Reader Nat := do
  let s ← get
  let number := s.widths.length
  match name with
  | none => set { s with widths := s.widths ++ [none] }
  | some n =>
    if let some before := s.names.lookup n then
      stop (.groupRedefined n number before) (n.length + 1)
    set { s with widths := s.widths ++ [none], names := s.names ++ [(n, number)] }
  return number

/-- Closes a group. -/
def closeGroup (number : Nat) (body : Node) : Reader Unit :=
  modify fun s => { s with widths := s.widths.set number (some (body.width (ReaderState.widthOf s))) }

/-- Is there a closed group of the number? -/
def isClosed (number : Nat) : Reader Bool := do
  return ((← get).widths[number]?).join.isSome

/-- Stops if a look-behind refers to a group of its own. -/
def checkBehind (number : Nat) : Reader Unit := do
  if let some first := (← get).behindFrom then
    if !(← isClosed number) then stop .openGroup 0
    if first ≤ number then stop .groupInLookbehind 0

/-! ## Escapes -/

/-- A decimal digit of the first 128 code points. -/
def isDigit (c : Char) : Bool := c.isDigit

/-- An octal digit. -/
def isOctal (c : Char) : Bool := '0' ≤ c && c ≤ '7'

/-- A hexadecimal digit. -/
def isHex (c : Char) : Bool := c.isDigit || ('a' ≤ c && c ≤ 'f') || ('A' ≤ c && c ≤ 'F')

/-- The value of a digit. -/
def digit (c : Char) : Nat :=
  if c.isDigit then c.toNat - '0'.toNat
  else if 'a' ≤ c then c.toNat - 'a'.toNat + 10 else c.toNat - 'A'.toNat + 10

/-- The number that digits spell in a base. -/
def spell (base : Nat) (cs : List Char) : Nat := cs.foldl (fun n c => base * n + digit c) 0

/-- The control characters that have a letter. -/
def control? : Char → Option Nat
  | 'a' => some 7
  | 'b' => some 8
  | 'f' => some 12
  | 'n' => some 10
  | 'r' => some 13
  | 't' => some 9
  | 'v' => some 11
  | '\\' => some 92
  | _ => none

/-- The kinds of characters that have a letter. -/
def category? : Char → Option ClassItem
  | 'd' => some (.category .digit false)
  | 'D' => some (.category .digit true)
  | 's' => some (.category .space false)
  | 'S' => some (.category .space true)
  | 'w' => some (.category .word false)
  | 'W' => some (.category .word true)
  | _ => none

/-- The conditions on a place that have a letter. -/
def anchor? : Char → Option Anchor
  | 'A' => some .textStart
  | 'Z' => some .textEnd
  | 'b' => some .boundary
  | 'B' => some .inside
  | _ => none

/-- A code point with a fixed number of hexadecimal digits. -/
def hexEscape (letter : Char) (digits : Nat) : Reader Nat := do
  let found ← takeUpTo isHex digits
  let escape := String.ofList ('\\' :: letter :: found)
  if found.length < digits then stop (.incompleteEscape escape) escape.length
  let n := spell 16 found
  if 0x10FFFF < n then stop (.badEscape escape) escape.length
  return n

/-- A code point given by its name. -/
def namedEscape : Reader Nat := do
  if !(← accept '\x7b') then stop (.missing "\x7b") 0
  let n ← name '\x7d' "character name"
  match Text.CharacterName.codeOf? n with
  | some code => return code
  | none => stop (.unknownCharacter n) (n.length + 4)

/-- The code point of an escape that means the same everywhere, if it is one. -/
def commonEscape? (letter : Char) : Reader (Option Nat) := do
  match letter with
  | 'x' => return some (← hexEscape letter 2)
  | 'u' => return some (← hexEscape letter 4)
  | 'U' => return some (← hexEscape letter 8)
  | 'N' => return some (← namedEscape)
  | _ => return none

/-- The code point of an escaped character that is no letter. -/
def plainEscape (letter : Char) : Reader Nat := do
  if letter.isAlphanum then stop (.badEscape (String.ofList ['\\', letter])) 2
  return letter.toNat

/-- Stops if an octal number is no octet. -/
def checkOctal (digits : List Char) : Reader Nat := do
  let n := spell 8 digits
  if 0o377 < n then
    stop (.octalTooLarge (String.ofList ('\\' :: digits))) (digits.length + 1)
  return n

/-- An escape inside a character class. -/
def classEscape (letter : Char) : Reader ClassItem := do
  if let some n := control? letter then return .code n
  if let some item := category? letter then return item
  if let some n ← commonEscape? letter then return .code n
  if isOctal letter then
    return .code (← checkOctal (letter :: (← takeUpTo isOctal 2)))
  return .code (← plainEscape letter)

/-- A reference to a group. -/
def groupReference (digits : List Char) : Reader Node := do
  let number := spell 10 digits
  if number < (← get).widths.length then
    if !(← isClosed number) then stop .openGroup (digits.length + 1)
    checkBehind number
    return .backref number
  else stop (.noGroup number) digits.length

/-- An escape outside a character class. -/
def escape (letter : Char) : Reader Node := do
  if let some item := category? letter then return .oneOf false [item]
  if let some a := anchor? letter then return .anchor a
  if let some n := control? letter then return .code n
  if let some n ← commonEscape? letter then return .code n
  if letter = '0' then
    return .code (spell 8 ('0' :: (← takeUpTo isOctal 2)))
  if isDigit letter then
    match ← takeUpTo isDigit 1 with
    | [second] =>
      if isOctal letter && isOctal second then
        match ← takeUpTo isOctal 1 with
        | [third] => return .code (← checkOctal [letter, second, third])
        | _ => groupReference [letter, second]
      else groupReference [letter, second]
    | _ => groupReference [letter]
  else return .code (← plainEscape letter)

/-! ## Character classes -/

/-- The text of a symbol. -/
def symbolText (symbol : Symbol) : String := String.ofList symbol

/-- What a symbol means inside a character class. -/
def classItem (symbol : Symbol) : Reader ClassItem := do
  match symbol with
  | ['\\', letter] => classEscape letter
  | [c] => return .code c.toNat
  | _ => return .code 0

/-- The entries of a character class whose bracket stands at `start`; `fuel` entries at most. -/
def classItems (start : Nat) (found : List ClassItem) : Nat → Reader (List ClassItem)
  | 0 => return found
  | fuel + 1 => do
    let some this ← take | stop .unterminatedSet ((← tell) - start)
    if this = [']'] && !found.isEmpty then return found
    let item ← classItem this
    if !(← accept '-') then classItems start (found ++ [item]) fuel
    else
      let some that ← take | stop .unterminatedSet ((← tell) - start)
      if that = [']'] then return found ++ [item, .code '-'.toNat]
      else
        let other ← classItem that
        let bad := stop (.badRange (symbolText this) (symbolText that)) (this.length + 1 + that.length)
        match item, other with
        | .code low, .code high =>
          if high < low then bad else classItems start (found ++ [.range low high]) fuel
        | _, _ => bad

/-- A character class after its opening bracket. -/
def characterClass : Reader Node := do
  let start := (← tell) - 1
  let negated ← accept '^'
  let fuel := (← get).rest.length + 2
  match (← classItems start [] fuel).eraseDups with
  | [.code n] => return if negated then .notCode n else .code n
  | items => return .oneOf negated items

/-! ## Options -/

/-- What an option letter turns on. -/
def flag? : Char → Option Flags
  | 'i' => some { ignoreCase := true }
  | 'm' => some { multiline := true }
  | 's' => some { dotAll := true }
  | 'x' => some { verbose := true }
  | 'a' => some { ascii := true }
  | 'u' => some { unicode := true }
  | 't' => some { template := true }
  | 'L' => some {}
  | _ => none

/-- The problem with a symbol that is no option letter. -/
def flagProblem (symbol : Symbol) (what : String) : Problem :=
  match symbol with
  | [c] => if Text.isLetter c then .unknownFlag else .missing what
  | _ => .missing what

/-- The options that letters turn on, with the symbol after them; `fuel` letters at most. -/
def flagsOn (letter : Char) (on : Flags) : Nat → Reader (Flags × Char)
  | 0 => stop .unexpectedEnd 0
  | fuel + 1 => do
    if letter = 'L' then stop .localeFlag 0
    let on := on.union ((flag? letter).getD {})
    if on.ascii && on.unicode then stop .alphabetFlags 0
    match ← take with
    | none => stop (.missing "-, : or )") 0
    | some [c] =>
      if c = ')' || c = '-' || c = ':' then return (on, c)
      else if (flag? c).isSome then flagsOn c on fuel
      else stop (flagProblem [c] "-, : or )") 1
    | some symbol => stop (flagProblem symbol "-, : or )") symbol.length

/-- The options that letters turn off; `fuel` letters at most. -/
def flagsOff (letter : Char) (off : Flags) : Nat → Reader Flags
  | 0 => stop .unexpectedEnd 0
  | fuel + 1 => do
    if letter = 'a' || letter = 'u' || letter = 'L' then stop .alphabetOff 0
    let off := off.union ((flag? letter).getD {})
    match ← take with
    | none => stop (.missing ":") 0
    | some [c] =>
      if c = ':' then return off
      else if (flag? c).isSome then flagsOff c off fuel
      else stop (flagProblem [c] ":") 1
    | some symbol => stop (flagProblem symbol ":") symbol.length

/-- The options of a group after its first letter: those that it turns on and off, or nothing if
    they were meant for the whole pattern. -/
def options (first : Char) : Reader (Option (Flags × Flags)) := do
  let fuel := (← get).rest.length + 2
  let (on, mark) ← if first = '-' then pure ({}, '-') else flagsOn first {} fuel
  if mark = ')' then
    modify fun s => { s with flags := s.flags.union on }
    return none
  if on.template then stop .globalFlagOn 1
  let off ← if mark = '-' then do
      match ← take with
      | none => stop (.missing "flag") 0
      | some [c] =>
        if (flag? c).isSome then flagsOff c {} fuel else stop (flagProblem [c] "flag") 1
      | some symbol => stop (flagProblem symbol "flag") symbol.length
    else pure {}
  if off.template then stop .globalFlagOff 1
  if on.inter off ≠ {} then stop .flagOnAndOff 1
  return some (on, off)

/-! ## Repetitions -/

/-- The counts of a repetition. -/
structure Counts where
  /-- The least count. -/
  low : Nat
  /-- The greatest count, if there is one. -/
  high : Option Nat

/-- From this count on a repetition cannot be told from one without end. -/
def unbounded : Nat := 4294967295

/-- A written count. -/
def count (digits : List Char) : Reader Nat := do
  if Text.maxDigits < digits.length then throw ⟨.longCount digits.length, none⟩
  let n := spell 10 digits
  if unbounded ≤ n then throw ⟨.countTooLarge, none⟩
  return n

/-- The counts between braces after the opening one, or nothing if the brace stands for itself. -/
def bracedCounts (here : Nat) : Reader (Option Counts) := do
  if (← peek) = some ['\x7d'] then return none
  let fuel := (← get).rest.length + 1
  let low ← takeUpTo isDigit fuel
  let high ← if ← accept ',' then takeUpTo isDigit fuel else pure low
  if !(← accept '\x7d') then
    seek here
    return none
  let least ← if low.isEmpty then pure 0 else count low
  if high.isEmpty then return some ⟨least, none⟩
  let most ← count high
  if most < least then stop .countsReversed ((← tell) - here)
  return some ⟨least, some most⟩

/-- A part of a sequence. -/
inductive Part where
  /-- One node. -/
  | single (node : Node)
  /-- Nodes that parentheses hold together, without any other meaning. -/
  | held (nodes : List Node)

/-- The nodes of a part. -/
def Part.nodes : Part → List Node
  | .single node => [node]
  | .held nodes => nodes

/-- The nodes of parts that stand in reverse order. -/
def nodesOf (before : List Part) : List Node := before.reverse.flatMap Part.nodes

/-- The greed of a repetition, from the mark behind it. -/
def greed : Reader Greed := do
  if ← accept '?' then return .reluctant
  if ← accept '+' then return .possessive
  return .greedy

/-- Repeats the last of the parts (which stand in reverse order). -/
def repeated (here : Nat) (mark : Nat) (counts : Counts) (before : List Part) : Reader (List Part) := do
  let back := (← tell) - here + mark
  match before with
  | [] => stop .nothingToRepeat back
  | .single (.anchor _) :: _ => stop .nothingToRepeat back
  | .single (.loop ..) :: _ => stop .multipleRepeat back
  | part :: others =>
    let body := Node.sequence part.nodes
    return .single (.loop (← greed) counts.low counts.high body) :: others

/-- Takes a comment up to its closing parenthesis; `fuel` symbols at most. -/
def comment (start : Nat) : Nat → Reader Unit
  | 0 => return
  | fuel + 1 => do
    if (← peek).isNone then stop .unterminatedComment ((← tell) - start)
    if (← take) = some [')'] then return
    comment start fuel

/-- Takes the rest of a line; `fuel` symbols at most. -/
def restOfLine : Nat → Reader Unit
  | 0 => return
  | fuel + 1 => do
    match ← take with
    | none => return
    | some symbol => if symbol = ['\n'] then return else restOfLine fuel

/-- How the contents of a group are kept. -/
inductive GroupKind where
  /-- The text is remembered under a number, and a name if it has one. -/
  | remembered (name : Option String)
  /-- The group holds its nodes together. -/
  | held
  /-- The group turns options on and off. -/
  | options (on off : Flags)
  /-- The group is not entered again. -/
  | atomic

/-- There are fewer groups than this. -/
def mostGroups : Nat := 1073741823

/-- A number or a name of a group inside a condition. -/
def conditionGroup : Reader Nat := do
  let condition ← name ')' "group name"
  let back := condition.length + 1
  if Text.isIdentifier condition then
    match (← get).names.lookup condition with
    | some number => checkBehind number; return number
    | none => stop (.unknownGroup condition) back
  else
    let some n := Text.readInteger? condition | stop (.badGroupName condition) back
    if n < 0 then stop (.badGroupName condition) back
    let number := n.toNat
    if number = 0 then stop .badGroupNumber back
    if mostGroups ≤ number then stop (.noGroup number) back
    let place := (← tell) - condition.length - 1
    modify fun s =>
      if s.asked.any (·.1 = number) then s else { s with asked := s.asked ++ [(number, place)] }
    checkBehind number
    return number

/-- A blank that is skipped in a verbose pattern. -/
def isSkipped (symbol : Symbol) : Bool :=
  match symbol with
  | [c] => c = ' ' || (9 ≤ c.toNat && c.toNat ≤ 13)
  | _ => false

mutual

/-- Branches between bars; the outermost ones may begin with options for the whole pattern. -/
def branches (verbose outermost : Bool) (before : List (List Node)) : Nat → Reader (List Node)
  | 0 => stop .unexpectedEnd 0
  | fuel + 1 => do
    let branch ← nodes verbose (outermost && before.isEmpty) [] fuel
    if ← accept '|' then
      let whole := (← get).flags.verbose
      branches (if outermost then whole else verbose) outermost (before ++ [branch]) fuel
    else return Node.ofBranches (before ++ [branch])

/-- Nodes one after the other, up to a bar, a closing parenthesis or the end. The parts before
    stand in reverse order. -/
def nodes (verbose first : Bool) (before : List Part) : Nat → Reader (List Node)
  | 0 => stop .unexpectedEnd 0
  | fuel + 1 => do
    let some this ← peek | return nodesOf before
    if this = ['|'] || this = [')'] then return nodesOf before
    advance
    if verbose && isSkipped this then nodes verbose first before fuel
    else if verbose && this = ['#'] then
      restOfLine ((← get).rest.length + 2)
      nodes verbose first before fuel
    else
      match this with
      | ['\\', letter] =>
        let node ← escape letter
        nodes verbose first (.single node :: before) fuel
      | ['['] =>
        let node ← characterClass
        nodes verbose first (.single node :: before) fuel
      | ['.'] => nodes verbose first (.single .dot :: before) fuel
      | ['^'] => nodes verbose first (.single (.anchor .start) :: before) fuel
      | ['$'] => nodes verbose first (.single (.anchor .finish) :: before) fuel
      | ['*'] =>
        let here ← tell
        let before ← repeated here 1 ⟨0, none⟩ before
        nodes verbose first before fuel
      | ['+'] =>
        let here ← tell
        let before ← repeated here 1 ⟨1, none⟩ before
        nodes verbose first before fuel
      | ['?'] =>
        let here ← tell
        let before ← repeated here 1 ⟨0, some 1⟩ before
        nodes verbose first before fuel
      | ['\x7b'] =>
        let here ← tell
        match ← bracedCounts here with
        | none => nodes verbose first (.single (.code '\x7b'.toNat) :: before) fuel
        | some counts =>
          let before ← repeated here 1 counts before
          nodes verbose first before fuel
      | ['('] =>
        match ← group verbose (first && before.isEmpty) fuel with
        | some part => nodes verbose first (part :: before) fuel
        | none =>
          -- options for the whole pattern hold from here on, a comment changes nothing
          let whole := (← get).flags.verbose
          nodes (verbose || (first && before.isEmpty && whole)) first before fuel
      | [c] => nodes verbose first (.single (.code c.toNat) :: before) fuel
      | _ => nodes verbose first before fuel

/-- A group after its opening parenthesis; nothing for a comment and for options of the whole
    pattern, which may stand here only if `atStart`. -/
def group (verbose atStart : Bool) : Nat → Reader (Option Part)
  | 0 => stop .unexpectedEnd 0
  | fuel + 1 => do
    let start := (← tell) - 1
    if !(← accept '?') then
      return some (← contents start verbose (.remembered none) fuel)
    match ← take with
    | none => stop .unexpectedEnd 0
    | some ['P'] =>
      if ← accept '<' then
        let n ← name '>' "group name"
        checkName n
        return some (← contents start verbose (.remembered (some n)) fuel)
      else if ← accept '=' then
        let n ← name ')' "group name"
        checkName n
        let some number := (← get).names.lookup n | stop (.unknownGroup n) (n.length + 1)
        if !(← isClosed number) then stop .openGroup (n.length + 1)
        checkBehind number
        return some (.single (.backref number))
      else
        match ← take with
        | none => stop .unexpectedEnd 0
        | some symbol => stop (.unknownExtension ("P" ++ symbolText symbol)) (symbol.length + 2)
    | some [':'] => return some (← contents start verbose .held fuel)
    | some ['#'] =>
      comment start ((← get).rest.length + 2)
      return none
    | some ['='] =>
      return some (.single (.ahead false (Node.sequence (← enclosed start verbose fuel))))
    | some ['!'] =>
      return some (.single (.ahead true (Node.sequence (← enclosed start verbose fuel))))
    | some ['<'] =>
      match ← take with
      | none => stop .unexpectedEnd 0
      | some symbol =>
        if symbol = ['='] || symbol = ['!'] then
          let outer := (← get).behindFrom
          modify fun s => { s with behindFrom := some (outer.getD s.widths.length) }
          let body := Node.sequence (← branches verbose false [] fuel)
          modify fun s => { s with behindFrom := outer }
          if !(← accept ')') then stop .unterminatedGroup ((← tell) - start)
          let (least, most) := body.width (ReaderState.widthOf (← get))
          return some (.single (.behind (symbol = ['!']) least most body))
        else stop (.unknownExtension ("<" ++ symbolText symbol)) (symbol.length + 2)
    | some ['('] =>
      let number ← conditionGroup
      let yes ← nodes verbose false [] fuel
      let no ← if ← accept '|' then nodes verbose false [] fuel else pure []
      if (← peek) = some ['|'] then stop .thirdBranch 0
      if !(← accept ')') then stop .unterminatedGroup ((← tell) - start)
      return some (.single (.branch number (Node.sequence yes) (Node.sequence no)))
    | some ['>'] => return some (← contents start verbose .atomic fuel)
    | some symbol =>
      match symbol with
      | [c] =>
        if (flag? c).isSome || c = '-' then
          match ← options c with
          | none =>
            if !atStart then stop .lateFlags ((← tell) - start)
            return none
          | some (on, off) => return some (← contents start verbose (.options on off) fuel)
        else stop (.unknownExtension (symbolText symbol)) (symbol.length + 1)
      | _ => stop (.unknownExtension (symbolText symbol)) (symbol.length + 1)

/-- Branches up to a closing parenthesis, which is taken. -/
def enclosed (start : Nat) (verbose : Bool) : Nat → Reader (List Node)
  | 0 => stop .unexpectedEnd 0
  | fuel + 1 => do
    let body ← branches verbose false [] fuel
    if !(← accept ')') then stop .unterminatedGroup ((← tell) - start)
    return body

/-- The contents of a group, kept as its kind tells. -/
def contents (start : Nat) (verbose : Bool) (kind : GroupKind) : Nat → Reader Part
  | 0 => stop .unexpectedEnd 0
  | fuel + 1 => do
    match kind with
    | .remembered n =>
      let number ← openGroup n
      let body := Node.sequence (← enclosed start verbose fuel)
      closeGroup number body
      return .single (.group number body)
    | .held => return .held (← enclosed start verbose fuel)
    | .options on off =>
      let body ← enclosed start ((verbose || on.verbose) && !off.verbose) fuel
      return .single (.scoped on off (Node.sequence body))
    | .atomic => return .single (.atomic (Node.sequence (← enclosed start verbose fuel)))

end

/-- A whole pattern: its options and its nodes. -/
def whole : Reader (Flags × Node) := do
  advance
  let fuel := 4 * (← get).pattern.length + 8
  let node := Node.sequence (← branches false true [] fuel)
  let s ← get
  if s.flags.ascii && s.flags.unicode then throw ⟨.bothAlphabets, none⟩
  if s.next.isSome then stop .unbalanced 0
  for (number, place) in s.asked do
    if s.widths.length ≤ number then throw ⟨.noGroup number, some place⟩
  return (s.flags, node)

end Reader

end CallExcerpt.Pattern
