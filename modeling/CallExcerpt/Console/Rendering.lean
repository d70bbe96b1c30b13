import CallExcerpt.Console.Columns
import CallExcerpt.Console.Emoji
import CallExcerpt.Console.Literal
import CallExcerpt.Console.Look
import CallExcerpt.Console.Markup

/-! # What a console shows

    On a console without colours only the text between the tags of a line is
    left, with emoji in place of their names and blanks in place of tabs. Tags
    nest: a closing tag needs an open one of the same look, or any open one if
    it names none. A tag whose name begins with `@` carries a value, which has
    to be written as one, with the name of a handler before it or without.
    Looks that a line asks for in vain do no harm, unless a part of a colour
    is no number.
-/

namespace CallExcerpt.Console

/-- Why a line cannot be shown. -/
inductive MarkupFault where
  /-- A tag closes no open tag. -/
  | closesNothing
  /-- A tag carries no value. -/
  | carriesNothing
  /-- A part of a colour is no number. -/
  | badColour
  deriving Repr, DecidableEq

/-- The word for a fault. -/
def MarkupFault.word : MarkupFault → String
  | .closesNothing | .carriesNothing => "MarkupError"
  | .badColour => "ValueError"

/-- An open tag, whose name is in normal form. -/
structure OpenTag where
  /-- The tag. -/
  tag : Tag
  /-- The place in the text from which it counts. -/
  start : Nat
  deriving Repr, DecidableEq

/-- A part of the text for which a look is asked. -/
structure Span where
  /-- The words that ask for it. -/
  words : List Char
  /-- Where the part begins. -/
  start : Nat
  /-- Where it ends. -/
  stop : Nat
  deriving Repr, DecidableEq

/-- A line that has been shown in part. -/
structure Rendering where
  /-- The text so far. -/
  text : List Char := []
  /-- The open tags, the latest first. -/
  opened : List OpenTag := []
  /-- The parts for which a look is asked. -/
  spans : List Span := []
  deriving Repr, DecidableEq

/-! ## Tags -/

/-- The normal form of the name of a tag. -/
def normalName (name : List Char) : Except MarkupFault (List Char) :=
  match normalLook name with
  | .ok look => .ok look.toList
  | .error _ => .error .badColour

/-- The innermost open tag that fits, and the others. -/
def takeTag? (fits : OpenTag → Bool) : List OpenTag → Option (OpenTag × List OpenTag)
  | [] => none
  | t :: ts =>
    if fits t then some (t, ts)
    else (takeTag? fits ts).map fun r => (r.1, t :: r.2)

/-- Does the tag carry a value, not a look? -/
def Tag.carriesValue (t : Tag) : Bool := t.name.head? = some '@'

/-- The value that parameters hold: what stands behind the name of a handler, or all of them. -/
def valueText (parameters : List Char) : List Char :=
  let all := Text.trimBoth Text.isBlank parameters
  match all.dropWhile fun c => Text.isWordChar c || c = '.' with
  | [] => "()".toList
  | '(' :: rest =>
    if rest.getLast? = some ')' && !rest.contains '\n' then '(' :: rest else all
  | _ => all

/-- May a tag that carries a value be closed? -/
def Tag.hasValue (t : Tag) : Bool :=
  match t.parameters with
  | none | some [] => true
  | some ps => Literal.isValue (valueText ps)

/-- A rendering with a tag that was opened before closed at its end. -/
def Rendering.leave (r : Rendering) (t : OpenTag) : Except MarkupFault Rendering :=
  if t.tag.carriesValue then if t.tag.hasValue then .ok r else .error .carriesNothing
  else .ok { r with spans := ⟨t.tag.text, t.start, r.text.length⟩ :: r.spans }

/-- A rendering with a tag closed that has a name, or the innermost one. -/
def Rendering.close (r : Rendering) (name : List Char) : Except MarkupFault Rendering := do
  let name := Text.trimBoth Text.isBlank name
  let normal ← normalName name
  match takeTag? (fun t => name.isEmpty || t.tag.name = normal) r.opened with
  | some (t, opened) => Rendering.leave { r with opened } t
  | none => throw .closesNothing

/-- Controls that a console does not show: bell, backspace, vertical tab, form feed, return. -/
def isHidden (c : Char) : Bool := [7, 8, 11, 12, 13].contains c.toNat

/-- A text as it is shown, but for its tabs. -/
def shownText (cs : List Char) : List Char := (withEmoji cs).filter (!isHidden ·)

/-- A rendering with one more piece. -/
def Rendering.add (r : Rendering) : Piece → Except MarkupFault Rendering
  | .text cs => .ok { r with text := r.text ++ shownText cs }
  | .tag body =>
    let t := Tag.ofBody body
    match t.name with
    | '/' :: name => r.close name
    | _ => do
      let name ← normalName t.name
      return { r with opened := ⟨{ t with name }, r.text.length⟩ :: r.opened }

/-- A rendering with the tags that are still open closed at its end. Values that they carry do not
    matter any more. -/
def Rendering.finish (r : Rendering) : Rendering :=
  let looks := r.opened.filter fun t => !t.tag.carriesValue
  { r with
    opened := []
    spans := looks.map (fun t => ⟨t.tag.text, t.start, r.text.length⟩) ++ r.spans }

/-! ## Looks -/

/-- Does the part have a look of its own? In a text with tabs or ends of lines an empty part has
    none, nor has one that holds ends of lines only. -/
def Span.counts (text : List Char) (s : Span) : Bool :=
  !(text.contains '\t' || text.contains '\n')
    || ((text.drop s.start).take (s.stop - s.start)).any (· ≠ '\n')

/-- The fault in the words that ask for a look. -/
def Span.fault? (s : Span) : Option MarkupFault :=
  match normalLook s.words with
  | .error .noNumber => some .badColour
  | _ => none

/-- The text of a line with markup. -/
def plain (cs : List Char) : Except MarkupFault (List Char) :=
  if !cs.contains '[' then .ok (shownText cs)
  else do
    let r ← (pieces cs).foldlM Rendering.add {}
    let r := r.finish
    match (r.spans.filter (Span.counts r.text)).findSome? Span.fault? with
    | some fault => throw fault
    | none => return r.text

/-! ## Tabs -/

/-- The width of a tab stop. -/
def tabWidth : Nat := 8

/-- A text with blanks up to the next tab stop in place of each tab; `column` is where it begins. -/
def expandTabs (column : Nat) : List Char → List Char
  | [] => []
  | c :: cs =>
    if c = '\n' then c :: expandTabs 0 cs
    else if c = '\t' then
      let width := tabWidth - column % tabWidth
      List.replicate width ' ' ++ expandTabs (column + width) cs
    else c :: expandTabs (column + columns c) cs

/-- What a console shows of a line with markup, its end included. -/
def shown (s : String) : Except MarkupFault String := do
  let cs ← plain s.toList
  return String.ofList (expandTabs 0 cs ++ ['\n'])

end CallExcerpt.Console
