/-! # Options of a command line

    The words of a command line are options, their values, and operands. A
    long option begins with two dashes and may carry its value behind an equals
    sign; short options begin with one dash and may stand together, the last
    one with its value. The word of two dashes ends the options.
-/

namespace CallExcerpt.Command

/-- An option that a command knows. -/
structure Switch where
  /-- What the option sets. -/
  key : String
  /-- Its long name, with both dashes. -/
  long : String
  /-- Its short name. -/
  short : Option Char := none
  /-- Does it take a value? -/
  valued : Bool := true
  /-- The setting of the environment that stands in for it. -/
  setting : Option String := none
  deriving Repr, DecidableEq

/-- The words of a command line, sorted. -/
structure Line where
  /-- What options set, in order; the empty text for those without value. -/
  given : List (String × String) := []
  /-- The other words, in order. -/
  operands : List String := []
  deriving Repr, DecidableEq

/-- What a word that begins with a dash says. -/
inductive Reading where
  /-- It sets what it sets. -/
  | sets (given : List (String × String))
  /-- After what it sets, the next word is the value of a key. -/
  | wants (given : List (String × String)) (key : String)
  deriving Repr, DecidableEq

namespace Reading

/-- A reading with something set before it. -/
def after (first : String × String) : Reading → Reading
  | .sets given => .sets (first :: given)
  | .wants given key => .wants (first :: given) key

end Reading

/-- Reads short options that stand together. -/
def readShort? (known : List Switch) : List Char → Option Reading
  | [] => some (.sets [])
  | c :: cs =>
    match known.find? (·.short = some c) with
    | none => none
    | some o =>
      if !o.valued then (readShort? known cs).map (.after (o.key, ""))
      else if cs.isEmpty then some (.wants [] o.key)
      else some (.sets [(o.key, String.ofList cs)])

/-- Reads a word that begins with a dash and does not end there. -/
def readOption? (known : List Switch) (word : String) : Option Reading :=
  let cs := word.toList
  let name := cs.takeWhile (· ≠ '=')
  let value := cs.drop name.length
  match known.find? (·.long = String.ofList name) with
  | some o =>
    match value with
    | [] => if o.valued then some (.wants [] o.key) else some (.sets [(o.key, "")])
    | _ :: text => if o.valued then some (.sets [(o.key, String.ofList text)]) else none
  | none => if cs.take 2 = ['-', '-'] then none else readShort? known (cs.drop 1)

/-- Is the word one or more options? -/
def isOption (word : String) : Bool := word.toList.head? = some '-' && word ≠ "-"

/-- Sorts the words of a command line; nothing if an option is unknown or lacks its value. If
    `mixed`, options may stand behind operands. -/
def sortWords? (known : List Switch) (mixed : Bool) : List String → Option Line
  | [] => some {}
  | word :: words =>
    if word = "--" then some { operands := words }
    else if !isOption word then
      if mixed then (sortWords? known mixed words).map fun l => { l with operands := word :: l.operands }
      else some { operands := word :: words }
    else
      match readOption? known word with
      | none => none
      | some (.sets given) =>
        (sortWords? known mixed words).map fun l => { l with given := given ++ l.given }
      | some (.wants given key) =>
        match words with
        | [] => none
        | value :: words =>
          (sortWords? known mixed words).map fun l =>
            { l with given := given ++ (key, value) :: l.given }

namespace Line

/-- All values of a key, in order. -/
def all (l : Line) (key : String) : List String :=
  (l.given.filter (·.1 = key)).map (·.2)

/-- Was a key set? -/
def has (l : Line) (key : String) : Bool := l.given.any (·.1 = key)

/-- The last value of a key. -/
def last? (l : Line) (key : String) : Option String := (l.all key).getLast?

/-- The line with the settings of the environment for the keys that it does not set; an empty
    setting counts as none. -/
def withSettings (l : Line) (known : List Switch) (settings : List (String × String)) : Line :=
  let fallback (o : Switch) : Option (String × String) := do
    let name ← o.setting
    let value ← settings.lookup name
    if l.has o.key || value = "" then none else some (o.key, value)
  { l with given := l.given ++ known.filterMap fallback }

end Line

end CallExcerpt.Command
