import CallExcerpt.Table
import CallExcerpt.Text.Pieces
import CallExcerpt.Text.Quoted

/-! # Call graphs

    A graph is a list of symbols and a list of calls, both in the order in
    which they came. What a symbol calls, and what calls it, are two views of
    the one list of calls, so that they cannot disagree.

    * `declare` and `connect` build a graph; the symbols of a call that were
      not declared become externs.
    * `relations` lists the calls that a walk follows from a symbol.
-/

namespace CallExcerpt

/-- Which way a walk goes along calls. -/
inductive Direction where
  /-- From a caller to what it calls. -/
  | forward
  /-- From what is called to its callers. -/
  | reverse
  deriving Repr, DecidableEq

namespace Direction

/-- The word for a direction. -/
def word : Direction → String
  | .forward => "forward"
  | .reverse => "reverse"

/-- The direction that a word names. -/
def ofWord? (s : String) : Option Direction :=
  if s = "forward" then some .forward else if s = "reverse" then some .reverse else none

end Direction

/-! ## Symbols -/

/-- A function or another named thing of a program. -/
structure Symbol where
  /-- The name, which tells it from all others. -/
  name : String
  /-- The source file of its definition. -/
  file : Option String := none
  /-- The line of its definition. -/
  line : Option Int := none
  /-- Its address. -/
  address : Option String := none
  /-- Is its definition known? -/
  defined : Bool := true
  deriving Repr, DecidableEq

namespace Symbol

/-- A symbol whose definition is not known. -/
def isExtern (s : Symbol) : Bool := !s.defined

/-- Where the symbol is defined: the file with the line, else the address. -/
def location (s : Symbol) : Option String :=
  match s.file, s.line with
  | some file, some line => some (file ++ ":" ++ toString line)
  | some file, none => some file
  | none, _ => s.address

end Symbol

/-! ## Calls -/

/-- All calls of one symbol from another. -/
structure Call where
  /-- The symbol that calls. -/
  caller : String
  /-- The symbol that is called. -/
  callee : String
  /-- A tag for each place of a call: the place alone, or the symbol meant, a tilde and the place. -/
  sites : List String := []
  deriving Repr, DecidableEq

namespace Call

/-- The character between the symbol and the place in a tag. -/
def siteSeparator : Char := '~'

/-- The symbol that a tag means, and the place; a tag without separator means the callee. -/
def readSite (c : Call) (tag : String) : String × String :=
  (Text.partition? siteSeparator tag).getD (c.callee, tag)

/-- The places of the calls that mean a symbol. -/
def locations (c : Call) (target : String) : List String :=
  c.sites.filterMap fun tag =>
    let (meant, place) := c.readSite tag
    if meant = target && place ≠ "" then some place else none

/-- The end of a call from which a walk comes. -/
def near (d : Direction) (c : Call) : String :=
  match d with
  | .forward => c.caller
  | .reverse => c.callee

/-- The end of a call to which a walk goes. -/
def far (d : Direction) (c : Call) : String :=
  match d with
  | .forward => c.callee
  | .reverse => c.caller

end Call

/-! ## Graphs -/

/-- A call graph. -/
structure Graph where
  /-- The symbols, each name once. -/
  symbols : List Symbol := []
  /-- The calls, each pair of ends once. -/
  calls : List Call := []
  deriving Repr, DecidableEq, Inhabited

namespace Graph

/-- The symbol of a name. -/
def find? (g : Graph) (name : String) : Option Symbol := g.symbols.find? (·.name = name)

theorem name_of_find? {g : Graph} {name : String} {symbol : Symbol}
    (h : g.find? name = some symbol) : symbol.name = name := by
  unfold find? at h
  simpa using List.find?_some h

/-- Is there a symbol of the name? -/
def contains (g : Graph) (name : String) : Bool := (g.find? name).isSome

/-- The call between two symbols. -/
def call? (g : Graph) (caller callee : String) : Option Call :=
  g.calls.find? fun c => c.caller = caller && c.callee = callee

/-- A declaration that meets an earlier one of the same name: the first one whose definition is
    known gives the data. -/
def merge (before now : Symbol) : Symbol :=
  if now.defined && !before.defined then { now with name := before.name } else before

/-- The graph with a symbol declared. -/
def declare (g : Graph) (s : Symbol) : Graph :=
  if g.contains s.name then
    { g with symbols := g.symbols.map fun t => if t.name = s.name then merge t s else t }
  else { g with symbols := g.symbols ++ [s] }

/-- The graph with a symbol of the name, an extern if it was not there. -/
def ensure (g : Graph) (name : String) : Graph :=
  if g.contains name then g else { g with symbols := g.symbols ++ [{ name, defined := false }] }

/-- The graph with a call from one symbol to another at the given places, which join those of
    the same call before. -/
def connect (g : Graph) (caller callee : String) (sites : List String) : Graph :=
  if (g.call? caller callee).isSome then
    { g with calls := g.calls.map fun c =>
        if c.caller = caller && c.callee = callee then { c with sites := c.sites ++ sites } else c }
  else
    let g := (g.ensure caller).ensure callee
    { g with calls := g.calls ++ [{ caller, callee, sites }] }

/-- The calls that a symbol makes. -/
def callees (g : Graph) (name : String) : List Call := g.calls.filter (·.caller = name)

/-- The calls that reach a symbol. -/
def callers (g : Graph) (name : String) : List Call := g.calls.filter (·.callee = name)

/-- The calls that a walk follows from a symbol. -/
def relations (g : Graph) (d : Direction) (name : String) : List Call :=
  g.calls.filter fun c => c.near d = name

/-- The symbols next to a symbol, each with the call that leads to it. -/
def neighbours (g : Graph) (d : Direction) (name : String) : List (Symbol × Call) :=
  (g.relations d name).filterMap fun c => (g.find? (c.far d)).map (·, c)

/-- Names in the order of their code points. -/
def nameLE (a b : String) : Bool := decide (a ≤ b)

theorem nameLE_trans (a b c : String) (hab : nameLE a b = true) (hbc : nameLE b c = true) :
    nameLE a c = true := by
  simp only [nameLE, decide_eq_true_eq] at hab hbc ⊢
  exact String.le_trans hab hbc

theorem nameLE_total (a b : String) : (nameLE a b || nameLE b a) = true := by
  simpa [nameLE] using String.le_total a b

/-- The symbols whose names have a property, by name. -/
def matching (g : Graph) (p : String → Bool) : List Symbol :=
  (g.symbols.filter fun s => p s.name).mergeSort fun a b => nameLE a.name b.name

/-- The first symbols of a list: as many as a limit says, all for none, and for a limit below zero
    all but as many as it is below. -/
def limited (limit : Option Int) (symbols : List Symbol) : List Symbol :=
  match limit with
  | none => symbols
  | some n => if n < 0 then symbols.take (symbols.length - n.natAbs) else symbols.take n.toNat

/-- The number of symbols. -/
def symbolCount (g : Graph) : Nat := g.symbols.length

/-- The number of calls. -/
def callCount (g : Graph) : Nat := g.calls.length

/-- The number of symbols whose definition is not known. -/
def externCount (g : Graph) : Nat := g.symbols.countP (·.isExtern)

/-- The graph in a word. -/
def summary (g : Graph) : String := s!"CallGraph(nodes={g.symbolCount}, edges={g.callCount})"

/-- A symbol of the graph in a word. -/
def symbolSummary (g : Graph) (s : Symbol) : String :=
  s!"Node({Text.quoted s.name}, callees={(g.callees s.name).length}, callers={(g.callers s.name).length})"

end Graph

end CallExcerpt
