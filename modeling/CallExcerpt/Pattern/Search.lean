import CallExcerpt.Pattern.Character
import CallExcerpt.Pattern.Marks

/-! # Searching for patterns

    A node is tried at a place of a text with a continuation that says what
    has to match after it, so that every way to match can be tried, in the
    order in which the pattern gives them. A trial hands on what the groups
    remember, also if it fails.

    A repetition of single characters counts how many there are and tries what
    follows at each of the places. Any other repetition goes round as long as
    its rounds take characters: beyond the least count, a round that begins
    where the last one began is not made.
-/

namespace CallExcerpt.Pattern

/-- The end of a trial. -/
inductive Outcome where
  /-- All matched, up to a place. -/
  | found (place : Nat) (marks : Marks)
  /-- Something did not match. -/
  | missed (marks : Marks)

/-- Did all match? -/
def Outcome.isFound : Outcome → Bool
  | .found _ _ => true
  | .missed _ => false

/-- What has to match after a node. -/
abbrev Continuation := Nat → Marks → Outcome

/-- A way to try something at a place. -/
abbrev Trial := Nat → Marks → Continuation → Outcome

/-! ## Conditions on a place -/

/-- Does the place meet the condition? -/
def Anchor.holds (text : Array Char) (flags : Flags) (place : Nat) : Anchor → Bool
  | .start => place = 0 || (flags.multiline && text[place - 1]? = some '\n')
  | .finish =>
    place = text.size || (place + 1 = text.size && text[place]? = some '\n')
      || (flags.multiline && text[place]? = some '\n')
  | .textStart => place = 0
  | .textEnd => place = text.size
  | .boundary => isBoundary
  | .inside => !isBoundary && text.size ≠ 0
where
  /-- Does one of the two neighbours, and one only, belong to a word? -/
  isBoundary : Bool :=
    let isWord (c : Option Char) := c.any fun c => Category.word.holds flags.ascii c
    isWord (if place = 0 then none else text[place - 1]?) != isWord text[place]?

/-! ## Single characters -/

/-- One character with a property. -/
def one (text : Array Char) (test : Char → Bool) : Trial := fun place marks next =>
  match text[place]? with
  | none => .missed marks
  | some c => if test c then next (place + 1) marks else .missed marks

/-- The number of characters with a property from a place on, at most `n` of them. -/
def run (text : Array Char) (test : Char → Bool) (place : Nat) : Nat → Nat
  | 0 => 0
  | n + 1 =>
    match text[place]? with
    | none => 0
    | some c => if test c then run text test (place + 1) n + 1 else 0

/-- What follows, at the place `n` characters on or else at a nearer one. -/
def farthestFirst (whole : Bool) (marks : Marks) (next : Continuation) (place : Nat) : Nat → Outcome
  | 0 =>
    match next place marks with
    | .found e m => .found e m
    | .missed m => .missed (marks.rewound whole m)
  | n + 1 =>
    match next (place + (n + 1)) marks with
    | .found e m => .found e m
    | .missed m => farthestFirst whole (marks.rewound whole m) next place n

/-- What follows, at the place or else at a farther one, at most `n` characters on. -/
def nearestFirst (whole : Bool) (marks : Marks) (next : Continuation) (place : Nat) : Nat → Outcome
  | 0 =>
    match next place marks with
    | .found e m => .found e m
    | .missed m => .missed (marks.rewound whole m)
  | n + 1 =>
    match next place marks with
    | .found e m => .found e m
    | .missed m => nearestFirst whole (marks.rewound whole m) next (place + 1) n

/-- Single characters with a property, a number of times. -/
def characters (text : Array Char) (whole : Bool) (greed : Greed) (low : Nat) (high : Option Nat)
    (test : Char → Bool) : Trial := fun place marks next =>
  let left := text.size - place
  let count := run text test place (match high with | some n => min n left | none => left)
  if count < low then .missed marks
  else
    match greed with
    | .greedy => farthestFirst whole marks next (place + low) (count - low)
    | .reluctant => nearestFirst whole marks next (place + low) (count - low)
    | .possessive => next (place + count) marks

/-! ## Rounds -/

/-- The body as often as needed, whatever it takes. -/
def needed (body : Trial) (next : Continuation) : Nat → Nat → Marks → Outcome
  | 0, place, marks => next place marks
  | n + 1, place, marks => body place marks fun place marks => needed body next n place marks

/-- The body at most `n` more times, more rounds before fewer. -/
def mostFirst (body : Trial) (next : Continuation) (last : Option Nat) : Nat → Nat → Marks → Outcome
  | 0, place, marks => next place marks
  | n + 1, place, marks =>
    if last = some place then next place marks
    else
      match body place marks fun e m => mostFirst body next (some place) n e m with
      | .found e m => .found e m
      | .missed _ => next place marks

/-- The body at most `n` more times, fewer rounds before more. -/
def fewestFirst (whole : Bool) (body : Trial) (next : Continuation) (last : Option Nat) :
    Nat → Nat → Marks → Outcome
  | 0, place, marks =>
    match next place marks with
    | .found e m => .found e m
    | .missed m => .missed (marks.rewound whole m)
  | n + 1, place, marks =>
    match next place marks with
    | .found e m => .found e m
    | .missed m =>
      let marks := marks.rewound whole m
      if last = some place then .missed marks
      else body place marks fun e m => fewestFirst whole body next (some place) n e m

/-- The end of the body as often as needed, each round by itself. -/
def neededFirmly (body : Trial) : Nat → Nat → Marks → Outcome
  | 0, place, marks => .found place marks
  | n + 1, place, marks =>
    match body place marks .found with
    | .found e m => neededFirmly body n e m
    | .missed m => .missed m

/-- The end of the body at most `n` more times, each round by itself. -/
def mostFirmly (body : Trial) (last : Option Nat) : Nat → Nat → Marks → Outcome
  | 0, place, marks => .found place marks
  | n + 1, place, marks =>
    if last = some place then .found place marks
    else
      match body place marks .found with
      | .found e m => mostFirmly body (some place) n e m
      | .missed _ => .found place marks

/-- A body that is more than single characters, a number of times. No more rounds beyond the least
    count are of use than there are places left. -/
def rounds (text : Array Char) (whole : Bool) (greed : Greed) (low : Nat) (high : Option Nat)
    (body : Trial) : Trial := fun place marks next =>
  let places := text.size - place + 1
  let more := match high with
    | some n => min (n - low) places
    | none => places
  match greed with
  | .greedy => needed body (mostFirst body next none more) low place marks
  | .reluctant => needed body (fewestFirst whole body next none more) low place marks
  | .possessive =>
    match neededFirmly body low place marks with
    | .missed m => .missed m
    | .found e m =>
      match mostFirmly body none more e m with
      | .missed m => .missed m
      | .found e m => next e m

/-! ## Nodes -/

/-- The text between two places, once more. -/
def again (text : Array Char) (flags : Flags) (first last : Nat) : Trial := fun place marks next =>
  let length := last - first
  let isSame (i : Nat) : Bool :=
    match text[first + i]?, text[place + i]? with
    | some a, some b => flags.isSame a b
    | _, _ => false
  if (List.range length).all isSame then next (place + length) marks else .missed marks

/-- Tries a node. `whole` tells that it stands inside a repetition of more than single characters,
    where a branch that fails takes all its marks back. -/
def Node.attempt (text : Array Char) : Node → Flags → Bool → Trial
  | .empty, _, _ => fun place marks next => next place marks
  | .never, _, _ => fun _ marks _ => .missed marks
  | .code n, flags, _ => one text (flags.isCode n)
  | .notCode n, flags, _ => one text fun c => !flags.isCode n c
  | .dot, flags, _ => one text fun c => flags.dotAll || c ≠ '\n'
  | .oneOf negated items, flags, _ => one text (classHolds flags negated items)
  | .seq a b, flags, whole => fun place marks next =>
    a.attempt text flags whole place marks fun e m => b.attempt text flags whole e m next
  | .alt a b, flags, whole => fun place marks next =>
    match a.attempt text flags whole place marks next with
    | .found e m => .found e m
    | .missed m =>
      let marks := marks.rewound whole m
      match b.attempt text flags whole place marks next with
      | .found e m => .found e m
      | .missed m => .missed (marks.rewound whole m)
  | .loop greed low high body, flags, whole =>
    match body.test? flags with
    | some test => characters text whole greed low high test
    | none =>
      rounds text whole greed low high
        (body.attempt text flags (match greed with | .possessive => whole | _ => true))
  | .group number body, flags, whole => fun place marks next =>
    body.attempt text flags whole place (marks.note (2 * number - 2) place) fun e m =>
      next e (m.note (2 * number - 1) e)
  | .scoped on off body, flags, whole => body.attempt text (flags.within on off) whole
  | .atomic body, flags, whole => fun place marks next =>
    match body.attempt text flags whole place marks .found with
    | .found e m => next e m
    | .missed m => .missed m
  | .backref number, flags, _ => fun place marks next =>
    match marks.span? number with
    | none => .missed marks
    | some (first, last) => again text flags first last place marks next
  | .ahead false body, flags, whole => fun place marks next =>
    match body.attempt text flags whole place marks .found with
    | .found _ m => next place m
    | .missed m => .missed m
  | .ahead true body, flags, whole => fun place marks next =>
    match body.attempt text flags whole place marks .found with
    | .found _ m => .missed m
    | .missed m => next place (marks.rewound whole m)
  | .behind false width _ body, flags, whole => fun place marks next =>
    if place < width then .missed marks
    else
      match body.attempt text flags whole (place - width) marks .found with
      | .found _ m => next place m
      | .missed m => .missed m
  | .behind true width _ body, flags, whole => fun place marks next =>
    if place < width then next place marks
    else
      match body.attempt text flags whole (place - width) marks .found with
      | .found _ m => .missed m
      | .missed m => next place (marks.rewound whole m)
  | .branch number yes no, flags, whole => fun place marks next =>
    if (marks.span? number).isSome then yes.attempt text flags whole place marks next
    else no.attempt text flags whole place marks next
  | .anchor a, flags, _ => fun place marks next =>
    if a.holds text flags place then next place marks else .missed marks

/-- Does the node match from the place on? -/
def Node.matchesAt (text : Array Char) (flags : Flags) (n : Node) (place : Nat) : Bool :=
  (n.attempt text flags false place [] .found).isFound

end CallExcerpt.Pattern
