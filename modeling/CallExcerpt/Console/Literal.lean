import CallExcerpt.Console.Literal.Token

/-! # Plain values

    A tag may carry values in writing: numbers, texts, octets, three words,
    dots, and tuples, sets and tables of them. Nothing has to be known of the
    values, only whether a text is one. For that a value has a kind, because
    a sign stands only before a number, two numbers are added only if the
    second one is imaginary, and sets and keys hold no sets or tables.
-/

namespace CallExcerpt.Console.Literal

/-- What has to be known of a value. -/
inductive Kind where
  /-- A real number without a sign. -/
  | real
  /-- An imaginary number without a sign. -/
  | imaginary
  /-- A real number with a sign. -/
  | signed
  /-- Another value that a set may hold. -/
  | fixed
  /-- A value that no set may hold. -/
  | loose
  /-- The word that gives the empty set when brackets follow it, and is no value. -/
  | maker
  deriving Repr, DecidableEq

/-- May a set hold values of the kind? -/
def Kind.isFixed : Kind → Bool
  | .loose | .maker => false
  | _ => true

/-- What stands between two commas: a value, or a key and its value. -/
structure Entry where
  /-- The kind of the value or of the key. -/
  kind : Kind
  /-- Does a value follow the key? -/
  paired : Bool
  deriving Repr, DecidableEq

/-- How a value is read from the front of symbols. -/
abbrev Reading : Type := List Token → Option (Kind × List Token)

/-! ## Entries -/

/-- An entry at the front. -/
def entry? (value? : Reading) (ts : List Token) : Option (Entry × List Token) :=
  match value? ts with
  | some (kind, .mark ':' :: rest) =>
    match value? rest with
    | some (.maker, _) | none => none
    | some (_, rest) => some (⟨kind, true⟩, rest)
  | some (kind, rest) => some (⟨kind, false⟩, rest)
  | none => none

/-- Does nothing, or a closing bracket, follow? -/
def endsEntries : List Token → Bool
  | [] => true
  | t :: _ => t = .mark ')' || t = .mark '\x7d'

/-- Entries at the front, at most `fuel` of them, and whether a comma is among them. -/
def entries? (value? : Reading) : Nat → List Token → Option ((List Entry × Bool) × List Token)
  | 0, _ => none
  | fuel + 1, ts =>
    match entry? value? ts with
    | some (e, .mark ',' :: rest) =>
      if endsEntries rest then some (([e], true), rest)
      else (entries? value? fuel rest).map fun r => ((e :: r.1.1, true), r.2)
    | some (e, rest) => some (([e], false), rest)
    | none => none

/-- The kind of a tuple, or of a value in parentheses. -/
def tupleKind? (entries : List Entry) (hasComma : Bool) : Option Kind :=
  if entries.any Entry.paired then none
  else
    match entries, hasComma with
    | [e], false => some e.kind
    | es, _ =>
      if es.any (·.kind = .maker) then none
      else if es.all (·.kind.isFixed) then some .fixed
      else some .loose

/-- The kind of a set or a table. -/
def tableKind? (entries : List Entry) : Option Kind :=
  let isUniform := entries.all Entry.paired || entries.all (!·.paired)
  if isUniform && entries.all (·.kind.isFixed) then some .loose else none

/-- What opening brackets enclose, after the bracket itself. -/
def enclosed? (value? : Reading) (close : Char) (empty : Kind)
    (kind? : List Entry → Bool → Option Kind) (ts : List Token) : Option (Kind × List Token) :=
  if ts.head? = some (.mark close) then some (empty, ts.drop 1)
  else
    match entries? value? ts.length ts with
    | some ((entries, hasComma), t :: rest) =>
      if t = .mark close then (kind? entries hasComma).map fun k => (k, rest) else none
    | _ => none

/-! ## Values -/

/-- The kind of a word. -/
def wordKind? (name : String) : Option Kind :=
  if name = "True" || name = "False" || name = "None" then some .fixed
  else if name = "set" then some .maker
  else none

/-- A value without a sign and without the brackets that may follow a word. -/
def plain? (value? : Reading) : Reading
  | .number imaginary :: rest => some (if imaginary then .imaginary else .real, rest)
  | .text :: rest => some (.fixed, rest.dropWhile (· = .text))
  | .octets :: rest => some (.fixed, rest.dropWhile (· = .octets))
  | .dots :: rest => some (.fixed, rest)
  | .word name :: rest => (wordKind? name).map fun k => (k, rest)
  | .mark '(' :: rest => enclosed? value? ')' .fixed tupleKind? rest
  | .mark '\x7b' :: rest => enclosed? value? '\x7d' .loose (fun es _ => tableKind? es) rest
  | _ => none

/-- A value without a sign. -/
def unsigned? (value? : Reading) : Reading := fun ts =>
  match plain? value? ts with
  | some (.maker, .mark '(' :: .mark ')' :: rest) => some (.loose, rest)
  | found => found

/-- Is the symbol a sign? -/
def isSign (t : Token) : Bool := t = .mark '+' || t = .mark '-'

/-- A value that may have a sign, if it is a number. -/
def term? (value? : Reading) : Reading
  | [] => none
  | t :: ts =>
    if isSign t then
      match unsigned? value? ts with
      | some (.real, rest) => some (.signed, rest)
      | some (.imaginary, rest) => some (.fixed, rest)
      | _ => none
    else unsigned? value? (t :: ts)

/-- A value, or a real number and an imaginary one. -/
def sum? (value? : Reading) : Reading := fun ts =>
  match term? value? ts with
  | some (kind, t :: rest) =>
    if isSign t then
      match kind, unsigned? value? rest with
      | .real, some (.imaginary, rest) | .signed, some (.imaginary, rest) => some (.fixed, rest)
      | _, _ => none
    else some (kind, t :: rest)
  | found => found

/-- A value inside of which so many brackets may be open. -/
def value? : Nat → Reading
  | 0 => fun _ => none
  | fuel + 1 => sum? (value? fuel)

/-- Is the text a plain value? The parentheses of a tuple may be missing. -/
def isValue (cs : List Char) : Bool :=
  match symbols? cs with
  | none => false
  | some ts =>
    match entries? (value? (maxBrackets + 1)) ts.length ts with
    | some ((entries, hasComma), []) =>
      match tupleKind? entries hasComma with
      | some .maker | none => false
      | some _ => true
    | _ => false

end CallExcerpt.Console.Literal
