import CallExcerpt.Graph.Basic
import CallExcerpt.Json.Basic

/-! # Graph documents

    A graph document is an object with a list of nodes. Each node names a
    symbol, may tell where it is defined, and lists the calls it makes: a
    call is the name of the callee, or an object with the callee and the
    places of the call. All nodes are read before the first call, so a call
    may come before the declaration of its callee.

    An address that is no text is kept as its spelling, and a malformed call is
    told by its spelling; a value has one only if there is room for its levels
    and its whole numbers are not too long.
-/

namespace CallExcerpt.Document

/-- What can be wrong with a document. -/
inductive Fault where
  /-- The document is no object with a list of nodes. -/
  | notADocument
  /-- A node, by its place, is no object. -/
  | nodeNotObject (index : Nat)
  /-- A node, by its place, has no name. -/
  | nodeWithoutName (index : Nat)
  /-- The file of a node is no text. -/
  | fileNotText (name : String)
  /-- The line of a node is no whole number. -/
  | lineNotInteger (name : String)
  /-- A node is neither said to be defined nor not. -/
  | definedNotBoolean (name : String)
  /-- The calls of a node are no list. -/
  | callsNotList (name : String)
  /-- A call of a node, told by its spelling, is neither a name nor an object with callee and
      places. -/
  | malformedCall (name spelling : String)
  /-- An address or a malformed call has no spelling. -/
  | unspellable (cause : Json.Unspellable)

/-- The fault in words. -/
def Fault.message : Fault → String
  | .notADocument => "Graph source must be an object with a 'nodes' list"
  | .nodeNotObject index => s!"Node #{index} must be an object"
  | .nodeWithoutName index => s!"Node #{index} has no name"
  | .fileNotText name => s!"Node '{name}': 'file' must be a string"
  | .lineNotInteger name => s!"Node '{name}': 'line' must be an integer"
  | .definedNotBoolean name => s!"Node '{name}': 'defined' must be a boolean"
  | .callsNotList name => s!"'calls' of '{name}' must be a list"
  | .malformedCall name spelling => s!"Malformed call entry in '{name}': {spelling}"
  | .unspellable cause => cause.message

/-- A member that may be absent, where the absent value counts as absence. -/
def present? (key : String) (members : List (String × Json)) : Option Json :=
  match Json.lookup key members with
  | some .null => none
  | v => v

/-- The file of a node. -/
def readFile (name : String) (members : List (String × Json)) : Except Fault (Option String) :=
  match present? "file" members with
  | none => .ok none
  | some (.text file) => .ok (some file)
  | some _ => .error (.fileNotText name)

/-- The line of a node. -/
def readLine (name : String) (members : List (String × Json)) : Except Fault (Option Int) :=
  match present? "line" members with
  | none => .ok none
  | some (.int line) => .ok (some line)
  | some _ => .error (.lineNotInteger name)

/-- The address of a node. -/
def readAddress (room : Option Nat) (members : List (String × Json)) :
    Except Fault (Option String) :=
  match present? "address" members with
  | none => .ok none
  | some v => (v.asText room).mapError .unspellable |>.map some

/-- Whether a node's definition is known: as it says, or else if it has a file or an address. -/
def readDefined (name : String) (located : Bool) (members : List (String × Json)) :
    Except Fault Bool :=
  match Json.lookup "defined" members with
  | none => .ok located
  | some (.bool b) => .ok b
  | some _ => .error (.definedNotBoolean name)

/-- A node's members and the symbol they declare. -/
def readNode (room : Option Nat) (index : Nat) : Json → Except Fault (Symbol × List (String × Json))
  | .object members =>
    match Json.lookup "name" members with
    | some (.text name) =>
      if name = "" then .error (.nodeWithoutName index)
      else do
        let file ← readFile name members
        let line ← readLine name members
        let address ← readAddress room members
        let defined ← readDefined name (file.isSome || address.isSome) members
        return ({ name, file, line, address, defined }, members)
    | _ => .error (.nodeWithoutName index)
  | _ => .error (.nodeNotObject index)

/-- The text of a place, if it is one. -/
def text? : Json → Option String
  | .text s => some s
  | _ => none

/-- What is told of a malformed call. -/
def malformed (room : Option Nat) (name : String) (call : Json) : Fault :=
  match call.spelled room with
  | .ok spelling => .malformedCall name spelling
  | .error cause => .unspellable cause

/-- A call: the callee and the places. -/
def readCall (room : Option Nat) (name : String) (call : Json) :
    Except Fault (String × List String) :=
  let malformed := .error (malformed room name call)
  match call with
  | .text callee => if callee = "" then malformed else .ok (callee, [])
  | .object members =>
    match Json.lookup "callee" members, (Json.lookup "sites" members).getD (.list []) with
    | some (.text callee), .list sites =>
      if callee = "" then malformed
      else match sites.mapM text? with
        | some sites => .ok (callee, sites)
        | none => malformed
    | _, _ => malformed
  | _ => malformed

/-- The calls of a node. -/
def readCalls (room : Option Nat) (name : String) (members : List (String × Json)) :
    Except Fault (List (String × List String)) :=
  match (Json.lookup "calls" members).getD (.list []) with
  | .list calls => calls.mapM (readCall room name)
  | _ => .error (.callsNotList name)

/-- The nodes of a document, each with its place. -/
def readNodes (room : Option Nat) (index : Nat) :
    List Json → Except Fault (List (Symbol × List (String × Json)))
  | [] => .ok []
  | node :: nodes => do
    let first ← readNode room index node
    let others ← readNodes room (index + 1) nodes
    return first :: others

/-- The graph of a document, with room to spell values of so many levels. -/
def read (document : Json) (room : Option Nat := none) : Except Fault Graph :=
  match document with
  | .object members =>
    match Json.lookup "nodes" members with
    | some (.list nodes) => do
      let declared ← readNodes room 0 nodes
      let g := declared.foldl (fun g d => g.declare d.1) ({} : Graph)
      let calls ← declared.mapM fun d => do
        let cs ← readCalls room d.1.name d.2
        return (d.1.name, cs)
      return calls.foldl
        (fun g c => c.2.foldl (fun g call => g.connect c.1 call.1 call.2) g) g
    | _ => .error .notADocument
  | _ => .error .notADocument

end CallExcerpt.Document
