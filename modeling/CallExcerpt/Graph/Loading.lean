import CallExcerpt.Graph.Document
import CallExcerpt.Graph.Store

/-! # Loading graph documents

    A document is loaded into a store in two passes: all its symbols are
    declared before the first of its calls is connected.
-/

namespace CallExcerpt.Document

/-- The symbols that a document declares and the calls that it tells of, each in its order; there is
    room to spell values of so many levels. -/
def parts (document : Json) (room : Option Nat) : Except Fault (List Symbol × List Call) :=
  match document with
  | .object members =>
    match Json.lookup "nodes" members with
    | some (.list nodes) => do
      let declared ← readNodes room 0 nodes
      let calls ← declared.mapM fun d => do
        let cs ← readCalls room d.1.name d.2
        return cs.map fun c => ({ caller := d.1.name, callee := c.1, sites := c.2 } : Call)
      return (declared.map (·.1), calls.flatten)
    | _ => .error .notADocument
  | _ => .error .notADocument

/-- The store of a document, with room to spell values of so many levels. -/
def load (document : Json) (room : Option Nat := none) : Except Fault Store := do
  let (symbols, calls) ← parts document room
  return Store.run (Store.building symbols calls)

end CallExcerpt.Document
