import CallExcerpt.Service

/-! # Arguments of tools

    Arguments come as JSON and need not fit their schema. What can be given a
    meaning is taken: a text or an object where a list is asked for, any value
    where a flag is, numbers of either kind where a bound is. The rest is
    refused at the place where it would be needed.
-/

namespace CallExcerpt.Tools

open Number (Binary64)

/-- Why a tool gives no result. -/
inductive Fault where
  /-- The service failed. -/
  | failure (failure : Failure)
  /-- No graph source is set. -/
  | noSource
  /-- An argument is missing. -/
  | missing (name : String)
  /-- A value is of a kind that nothing can be done with. -/
  | wrongKind
  /-- The arguments are no object. -/
  | notNamed
  /-- A bound that is no whole number is below zero. -/
  | negativeBound (bound : Binary64)
  deriving Inhabited

/-- A fault of the service's request. -/
def refused (fault : Request.Fault) : Fault := .failure (.request fault)

/-- What the caller is told of a fault, if it is one that the caller can do something about. -/
def Fault.told? : Fault → Option String
  | .failure f => if f.isOwn then some f.message else none
  | .noSource => some "No call graph configured. Set CALLSLICE_GRAPH to a graph file."
  | .negativeBound x => some s!"Max depth must be >= 0, got {x.text}"
  | .missing _ | .wrongKind | .notNamed => none

/-- The members of the arguments. -/
def members : Json → Except Fault (List (String × Json))
  | .object ms => .ok ms
  | _ => .error .notNamed

/-- An argument that has to be there. -/
def required (name : String) (ms : List (String × Json)) : Except Fault Json :=
  match Json.lookup name ms with
  | some v => .ok v
  | none => .error (.missing name)

/-- A failure that tells a value by its text, if it has one. -/
def failureOf (v : Json) (told : String → Failure) : Fault :=
  match v.asText none with
  | .ok text => .failure (told text)
  | .error cause => .failure (.unspellable cause)

/-- The direction of a walk. -/
def directionOf (v : Json) : Except Fault Direction :=
  let unknown := .error (failureOf v fun text => .record (.unknownDirection text))
  match v with
  | .text s =>
    match Direction.ofWord? s with
    | some d => .ok d
    | none => unknown
  | _ => unknown

/-- The items of a value: those of a list, the characters of a text, the names of an object. -/
def itemsOf : Json → Except Fault (List Json)
  | .list items => .ok items
  | .text s => .ok (s.toList.map fun c => .text (String.singleton c))
  | .object ms => .ok (ms.map fun m => .text m.1)
  | _ => .error .wrongKind

/-- Can the value be told from others as a name can? -/
def isKey : Json → Bool
  | .list _ | .object _ => false
  | _ => true

/-- The names among some values; other values name nothing. -/
def namesOf (items : List Json) : Except Fault (List String) :=
  if items.all isKey then
    .ok (items.filterMap fun v =>
      match v with
      | .text s => some s
      | _ => none)
  else .error .wrongKind

/-- Patterns in writing, up to the first one that cannot be read. -/
def patternsOf (fits : String → Bool) : List Json → Except Fault (List Pattern)
  | [] => .ok []
  | .text s :: rest => do
    let p ← (Filters.compileOne s fits).mapError fun fault => .failure (.pattern fault)
    let ps ← patternsOf fits rest
    return p :: ps
  | _ :: _ => .error .wrongKind

/-- A bound on the depth of a walk. A bound that is no whole number is as good as the next one
    above it; one that is not finite is none. -/
def depthOf : Json → Except Fault (Option Int)
  | .null => .ok none
  | .bool b => .ok (some (if b then 1 else 0))
  | .int n => if n < 0 then .error (refused (.negativeDepth n)) else .ok (some n)
  | .float x => if x.less (Binary64.ofInt 0) then .error (.negativeBound x) else .ok x.ceiling?
  | _ => .error .wrongKind

/-- A value that has to name a symbol of the graph. -/
def symbolOf (g : Graph) (v : Json) : Except Fault Symbol :=
  if !isKey v then .error .wrongKind
  else
    let found :=
      match v with
      | .text s => g.find? s
      | _ => none
    match found with
    | some s => .ok s
    | none => .error (failureOf v fun text => .walk (.unknownSymbol text))

/-- A limit on the number of results. -/
def limitOf : Json → Except Fault (Option Int)
  | .null => .ok none
  | .int n => .ok (some n)
  | .bool b => .ok (some (if b then 1 else 0))
  | _ => .error .wrongKind

end CallExcerpt.Tools
