import CallExcerpt.Graph.Basic
import CallExcerpt.Graph.Styling

/-! # Graph stores

    A store keeps a graph at hand for whoever goes along its calls. A call is
    kept once, in its place. The places stand in three lists that are kept up
    one by one: in a table by the ends of the calls, in the list of what the
    caller calls, and in the list of what calls the callee. Sites that join a
    call later are therefore told from each of the three.

    * `declare` and `connect` build the graph; the symbols of a call that were
      not declared become externs, which a later declaration fills in.
    * `relations` and `neighbours` go by the lists of a symbol alone.
    * `set` and `reset` lay drawing attributes over those of the symbols.
-/

namespace CallExcerpt

/-- The ends of a call. -/
structure Ends where
  /-- The symbol that calls. -/
  caller : String
  /-- The symbol that is called. -/
  callee : String
  deriving Repr, DecidableEq

/-- The ends of the call. -/
def Call.ends (c : Call) : Ends := ⟨c.caller, c.callee⟩

/-- A symbol as a store keeps it. -/
structure Node extends Symbol where
  /-- The places of the calls that it makes. -/
  callees : List Nat := []
  /-- The places of the calls that reach it. -/
  callers : List Nat := []
  /-- The drawing attributes. -/
  style : Style := []
  deriving Repr, DecidableEq

/-- The places of the calls that a walk follows from the symbol. -/
def Node.listed (n : Node) : Direction → List Nat
  | .forward => n.callees
  | .reverse => n.callers

/-- The symbol in a word. -/
def Node.summary (n : Node) : String :=
  s!"Node({Text.quoted n.name}, callees={n.callees.length}, callers={n.callers.length})"

/-- A graph as it is kept. -/
structure Store where
  /-- The symbols by name. -/
  nodes : List (String × Node) := []
  /-- The calls, each in its place. -/
  calls : List Call := []
  /-- The places of the calls by their ends. -/
  places : List (Ends × Nat) := []
  /-- What the symbols changed since the last reset had before. -/
  saved : List (String × Style) := []
  deriving Repr, DecidableEq

namespace Store

/-- What can go wrong with a store. -/
inductive Fault where
  /-- There is no symbol of the name. -/
  | unknownSymbol (name : String)
  /-- A call leads to a symbol that is not kept. -/
  | strayCall (name : String)
  deriving Repr, DecidableEq

/-- The fault in words. -/
def Fault.message : Fault → String
  | .unknownSymbol name => s!"Symbol '{name}' not found"
  | .strayCall name => Text.quoted name

/-- The symbol of a name. -/
def node? (s : Store) (name : String) : Option Node := s.nodes.lookup name

/-- The symbol of a name, which has to be there. -/
def resolve (s : Store) (name : String) : Except Fault Node :=
  match s.node? name with
  | some n => .ok n
  | none => .error (.unknownSymbol name)

/-- The call between two symbols. -/
def call? (s : Store) (caller callee : String) : Option Call :=
  (s.places.lookup ⟨caller, callee⟩).bind (s.calls[·]?)

/-! ## Building -/

/-- Changes the symbol of a name. -/
def update (s : Store) (name : String) (change : Node → Node) : Store :=
  match s.node? name with
  | some n => { s with nodes := Table.put name (change n) s.nodes }
  | none => s

/-- A symbol that was met as an extern, with the data of its declaration. -/
def filledIn (n : Node) (symbol : Symbol) : Node :=
  { n with file := symbol.file, line := symbol.line, address := symbol.address, defined := true }

/-- The store with a symbol declared. -/
def declare (s : Store) (symbol : Symbol) (style : Style) : Store :=
  match s.node? symbol.name with
  | none => { s with nodes := Table.put symbol.name { symbol with style } s.nodes }
  | some n =>
    if symbol.defined && !n.defined then s.update symbol.name (filledIn · symbol) else s

/-- The store with a symbol of the name, an extern if it was not there. -/
def ensure (s : Store) (name : String) : Store :=
  match s.node? name with
  | some _ => s
  | none => { s with nodes := Table.put name ({ name, defined := false } : Node) s.nodes }

/-- Gives a call its place, and notes the place in the table and with both symbols. -/
def link (s : Store) (caller callee : String) : Store :=
  let place := s.calls.length
  let s := { s with
    calls := s.calls ++ [({ caller, callee } : Call)]
    places := Table.put ⟨caller, callee⟩ place s.places }
  let s := (s.ensure caller).update caller fun n => { n with callees := n.callees ++ [place] }
  (s.ensure callee).update callee fun n => { n with callers := n.callers ++ [place] }

/-- Adds sites to the call in a place. -/
def addSites (s : Store) (place : Nat) (sites : List String) : Store :=
  { s with calls := s.calls.modify place fun c => { c with sites := c.sites ++ sites } }

/-- The store with a call from one symbol to another at the given sites, which join those of the
    same call before. -/
def connect (s : Store) (caller callee : String) (sites : List String) : Store :=
  let s := if (s.places.lookup ⟨caller, callee⟩).isSome then s else s.link caller callee
  match s.places.lookup ⟨caller, callee⟩ with
  | some place => s.addSites place sites
  | none => s

/-! ## Going along calls -/

/-- The calls that a walk follows from a symbol. -/
def relations (s : Store) (d : Direction) (n : Node) : List Call :=
  (n.listed d).filterMap (s.calls[·]?)

/-- The symbol to which a call leads. -/
def lead (s : Store) (d : Direction) (c : Call) : Except Fault (Node × Call) :=
  match s.node? (c.far d) with
  | some n => .ok (n, c)
  | none => .error (.strayCall (c.far d))

/-- The symbols next to a symbol, each with the call that leads to it. -/
def neighbours (s : Store) (d : Direction) (n : Node) : Except Fault (List (Node × Call)) :=
  (s.relations d n).mapM (s.lead d)

/-- The number of symbols. -/
def symbolCount (s : Store) : Nat := s.nodes.length

/-- The number of calls. -/
def callCount (s : Store) : Nat := s.places.length

/-- The number of symbols whose definition is not known. -/
def externCount (s : Store) : Nat := s.nodes.countP (·.2.isExtern)

/-- The store in a word. -/
def summary (s : Store) : String := s!"CallGraph(nodes={s.symbolCount}, edges={s.callCount})"

/-! ## Drawing attributes -/

/-- Gives a symbol a lasting attribute. -/
def put (s : Store) (name key value : String) : Store :=
  s.update name fun n => { n with style := Table.put key value n.style }

/-- Gives a symbol an attribute until the next reset. -/
def set (s : Store) (name key value : String) : Except Fault Store := do
  let n ← s.resolve name
  let saved := if (s.saved.lookup name).isSome then s.saved else Table.put name n.style s.saved
  return { s with saved }.put name key value

/-- Takes back all that was set since the last reset. -/
def reset (s : Store) : Store :=
  let s := s.saved.foldl (fun s e => s.update e.1 fun n => { n with style := e.2 }) s
  { s with saved := [] }

/-! ## Operations in a row -/

/-- What is done with a store. -/
inductive Operation where
  /-- A symbol is declared. -/
  | declare (symbol : Symbol) (style : Style)
  /-- Two symbols are connected. -/
  | connect (caller callee : String) (sites : List String)
  /-- An attribute is set until the next reset. -/
  | set (name key value : String)
  /-- What was set is taken back. -/
  | reset
  deriving Repr, DecidableEq

/-- The store after an operation; one that fails leaves it as it was. -/
def perform (s : Store) : Operation → Store
  | .declare symbol style => s.declare symbol style
  | .connect caller callee sites => s.connect caller callee sites
  | .set name key value =>
    match s.set name key value with
    | .ok s' => s'
    | .error _ => s
  | .reset => s.reset

/-- The store after operations in a row on an empty one. -/
def run (operations : List Operation) : Store := operations.foldl perform {}

/-- The operations that build a graph from its parts. -/
def building (symbols : List Symbol) (calls : List Call) : List Operation :=
  symbols.map (.declare · []) ++ calls.map fun c => .connect c.caller c.callee c.sites

end Store

end CallExcerpt
