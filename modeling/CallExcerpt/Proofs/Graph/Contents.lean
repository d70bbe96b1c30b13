import CallExcerpt.Graph.Loading
import CallExcerpt.Proofs.Graph.Consistent

/-! # What a document contains

    A document that is accepted says all that its graph holds. What it says is
    read off here without regard to faults, and the loader is shown to take
    just that: the declarations in their order, and then the calls.

    * `declarations`, `told`: what a document declares, and the calls it tells
      of, one by one.
    * `parts_of_ok`: what is accepted is taken as it is said.
    * `load_agrees`: a document gives a store and the graph that it keeps, or
      one fault for both.
    * `load_contents`: names, symbols, calls and lists of a loaded store.
-/

namespace CallExcerpt.Document

/-! ## What is said -/

/-- A member that is a text. -/
def textAt (key : String) (members : List (String × Json)) : Option String :=
  (Json.lookup key members).bind text?

/-- The items of a member that is a list. -/
def listAt (key : String) (members : List (String × Json)) : List Json :=
  match Json.lookup key members with
  | some (.list items) => items
  | _ => []

/-- The symbol that a node declares. Its definition is known if the node says so, and if it says
    nothing, when it has a file or an address. -/
def declaration (members : List (String × Json)) : Symbol :=
  let file := textAt "file" members
  let address := (present? "address" members).map Json.wording
  { name := (textAt "name" members).getD ""
    file
    line := match Json.lookup "line" members with
      | some (.int line) => some line
      | _ => none
    address
    defined := match Json.lookup "defined" members with
      | some (.bool b) => b
      | _ => file.isSome || address.isSome }

/-- The call that an entry of a node tells. -/
def toldCall (caller : String) : Json → Option Call
  | .text callee => some { caller, callee }
  | .object members => (textAt "callee" members).map fun callee =>
      { caller, callee, sites := (listAt "sites" members).filterMap text? }
  | _ => none

/-- The members of an object. -/
def members? : Json → Option (List (String × Json))
  | .object members => some members
  | _ => none

/-- The nodes of a document, each with its members. -/
def entries (document : Json) : List (List (String × Json)) :=
  ((members? document).elim [] (listAt "nodes")).filterMap members?

/-- What a document declares, in its order. -/
def declarations (document : Json) : List Symbol := (entries document).map declaration

/-- The calls of which a node tells. -/
def toldCalls (members : List (String × Json)) : List Call :=
  (listAt "calls" members).filterMap (toldCall (declaration members).name)

/-- The calls of which a document tells, in its order. -/
def told (document : Json) : List Call := (entries document).flatMap toldCalls

/-! ## What is accepted -/

theorem readFile_of_ok {name : String} {members : List (String × Json)} {file : Option String}
    (h : readFile name members = .ok file) : file = textAt "file" members := by
  unfold readFile present? at h
  unfold textAt
  cases hfile : Json.lookup "file" members with
  | none =>
    rw [hfile] at h
    exact (Except.ok.inj h).symm
  | some v =>
    rw [hfile] at h
    cases v with
    | null => exact (Except.ok.inj h).symm
    | text s => exact (Except.ok.inj h).symm
    | _ => cases h

theorem readLine_of_ok {name : String} {members : List (String × Json)} {line : Option Int}
    (h : readLine name members = .ok line) : line = (declaration members).line := by
  unfold readLine present? at h
  unfold declaration
  simp only
  cases hline : Json.lookup "line" members with
  | none =>
    rw [hline] at h
    exact (Except.ok.inj h).symm
  | some v =>
    rw [hline] at h
    cases v with
    | null => exact (Except.ok.inj h).symm
    | int line => exact (Except.ok.inj h).symm
    | _ => cases h

theorem readAddress_of_ok {room : Option Nat} {members : List (String × Json)}
    {address : Option String} (h : readAddress room members = .ok address) :
    address = (present? "address" members).map Json.wording := by
  unfold readAddress at h
  cases hv : present? "address" members with
  | none =>
    rw [hv] at h
    exact (Except.ok.inj h).symm
  | some v =>
    rw [hv] at h
    simp only [Json.asText] at h
    cases hcause : Json.wordless? room v with
    | none =>
      rw [hcause] at h
      exact (Except.ok.inj h).symm
    | some cause =>
      rw [hcause] at h
      cases h

theorem readDefined_of_ok {name : String} {members : List (String × Json)} {defined : Bool}
    (h : readDefined name ((textAt "file" members).isSome
      || ((present? "address" members).map Json.wording).isSome) members = .ok defined) :
    defined = (declaration members).defined := by
  unfold readDefined at h
  unfold declaration
  simp only
  cases hdefined : Json.lookup "defined" members with
  | none =>
    rw [hdefined] at h
    exact (Except.ok.inj h).symm
  | some v =>
    rw [hdefined] at h
    cases v with
    | bool b => exact (Except.ok.inj h).symm
    | _ => cases h

theorem readNode_of_ok {room : Option Nat} {index : Nat} {node : Json}
    {d : Symbol × List (String × Json)} (h : readNode room index node = .ok d) : members? node = some d.2 ∧ d.1 = declaration d.2 := by
  unfold readNode at h
  split at h
  · next members =>
    split at h
    · next name hname =>
      split at h
      · cases h
      · obtain ⟨file, hfile, h⟩ := Success.of_bind h
        obtain ⟨line, hline, h⟩ := Success.of_bind h
        obtain ⟨address, haddress, h⟩ := Success.of_bind h
        obtain ⟨defined, hdefined, h⟩ := Success.of_bind h
        cases h
        refine ⟨rfl, ?_⟩
        -- whether the symbol counts as defined goes by the file and the address that were read before
        have hfile' := readFile_of_ok hfile
        have haddress' := readAddress_of_ok haddress
        subst hfile' haddress'
        rw [readLine_of_ok hline, readDefined_of_ok hdefined]
        simp [declaration, textAt, hname, text?]
    · cases h
  · cases h

theorem readNodes_of_ok {room : Option Nat} {index : Nat} {nodes : List Json}
    {declared : List (Symbol × List (String × Json))} (h : readNodes room index nodes = .ok declared) :
    nodes.filterMap members? = declared.map (·.2) ∧ ∀ d ∈ declared, d.1 = declaration d.2 := by
  induction nodes generalizing index declared with
  | nil =>
    cases h
    simp
  | cons node nodes ih =>
    unfold readNodes at h
    obtain ⟨d, hd, h⟩ := Success.of_bind h
    obtain ⟨others, hothers, h⟩ := Success.of_bind h
    cases h
    obtain ⟨hmembers, hdeclared⟩ := readNode_of_ok hd
    obtain ⟨hrest, hall⟩ := ih hothers
    constructor
    · rw [List.filterMap_cons_some hmembers, hrest, List.map_cons]
    · exact List.forall_mem_cons.mpr ⟨hdeclared, hall⟩

/-- A list that may be left out. -/
theorem listAt_of_getD {key : String} {members : List (String × Json)} {items : List Json}
    (h : (Json.lookup key members).getD (.list []) = .list items) : listAt key members = items := by
  unfold listAt
  cases hlookup : Json.lookup key members with
  | none =>
    rw [hlookup] at h
    cases h
    rfl
  | some v =>
    rw [hlookup] at h
    cases h
    rfl

/-- A call with the symbol that makes it. -/
def callOf (caller : String) (c : String × List String) : Call :=
  { caller, callee := c.1, sites := c.2 }

theorem mapM_text?_eq_some {items : List Json} {texts : List String}
    (h : items.mapM text? = some texts) : items.filterMap text? = texts := by
  induction items generalizing texts with
  | nil =>
    cases h
    rfl
  | cons item items ih =>
    rw [List.mapM_cons] at h
    obtain ⟨t, ht, h⟩ := Option.bind_eq_some_iff.mp h
    obtain ⟨others, hothers, h⟩ := Option.bind_eq_some_iff.mp h
    cases h
    rw [List.filterMap_cons_some ht, ih hothers]

theorem readCall_of_ok {room : Option Nat} {caller : String} {entry : Json}
    {c : String × List String} (h : readCall room caller entry = .ok c) : toldCall caller entry = some (callOf caller c) := by
  unfold readCall at h
  simp only at h
  split at h
  · split at h
    · cases h
    · cases h
      rfl
  · next members =>
    split at h
    · next callee sites hcallee hsites =>
      split at h
      · cases h
      · split at h
        · next texts htexts =>
          cases h
          simp [toldCall, textAt, hcallee, text?, callOf, listAt_of_getD hsites,
            mapM_text?_eq_some htexts]
        · cases h
    · cases h
  · cases h

theorem readCalls_of_ok {room : Option Nat} {caller : String} {members : List (String × Json)}
    {cs : List (String × List String)} (h : readCalls room caller members = .ok cs) :
    (listAt "calls" members).filterMap (toldCall caller) = cs.map (callOf caller) := by
  unfold readCalls at h
  split at h
  · next items hitems =>
    have hlist : listAt "calls" members = items := listAt_of_getD hitems
    rw [hlist]
    have hread := Success.of_mapM h
    clear h hitems hlist
    -- entry by entry: each one that is read tells its call
    induction hread with
    | nil => rfl
    | cons hc _ ih => rw [List.filterMap_cons_some (readCall_of_ok hc), ih, List.map_cons]
  · cases h

/-! ## What is loaded -/

theorem told_of_forall₂ {room : Option Nat} {declared : List (Symbol × List (String × Json))}
    (hall : ∀ d ∈ declared, d.1 = declaration d.2) {lists : List (List Call)}
    (h : List.Forall₂
      (fun d cs => (readCalls room d.1.name d.2).map (·.map (callOf d.1.name)) = .ok cs)
      declared lists) :
    (declared.map (·.2)).flatMap toldCalls = lists.flatten := by
  induction h with
  | nil => rfl
  | @cons d cs declared lists hcs _ ih =>
    obtain ⟨hd, hothers⟩ := List.forall_mem_cons.mp hall
    rw [List.map_cons, List.flatMap_cons, List.flatten_cons, ih hothers]
    congr 1
    cases hread : readCalls room d.1.name d.2 with
    | error fault =>
      rw [hread] at hcs
      cases hcs
    | ok read =>
      rw [hread] at hcs
      cases hcs
      rw [toldCalls, ← hd]
      exact readCalls_of_ok hread

/-- What is accepted is taken as it is said. -/
theorem parts_of_ok {room : Option Nat} {document : Json} {symbols : List Symbol}
    {calls : List Call} (h : parts document room = .ok (symbols, calls)) :
    symbols = declarations document ∧ calls = told document := by
  unfold parts at h
  split at h
  · next members =>
    split at h
    · next nodes hnodes =>
      obtain ⟨declared, hdeclared, h⟩ := Success.of_bind h
      obtain ⟨lists, hlists, h⟩ := Success.of_bind h
      cases h
      obtain ⟨hmembers, hall⟩ := readNodes_of_ok hdeclared
      have hentries : entries (.object members) = declared.map (·.2) := by
        rw [← hmembers]
        simp [entries, members?, listAt, hnodes]
      constructor
      · rw [declarations, hentries, List.map_map]
        exact List.map_congr_left hall
      · rw [told, hentries]
        exact (told_of_forall₂ hall (Success.of_mapM hlists)).symm
    · cases h
  · cases h

/-! ## The graph and the store of a document -/

theorem foldl_connect_flatten (g : Graph) (calls : List (String × List (String × List String))) :
    calls.foldl (fun g c => c.2.foldl (fun g call => g.connect c.1 call.1 call.2) g) g
      = (calls.map fun c => c.2.map (callOf c.1)).flatten.foldl
          (fun g c => g.connect c.caller c.callee c.sites) g := by
  induction calls generalizing g with
  | nil => rfl
  | cons c calls ih =>
    rw [List.foldl_cons, ih, List.map_cons, List.flatten_cons, List.foldl_append, List.foldl_map]
    rfl

theorem after_building (symbols : List Symbol) (calls : List Call) :
    Graph.after (Store.building symbols calls)
      = calls.foldl (fun g c => g.connect c.caller c.callee c.sites)
          (symbols.foldl Graph.declare {}) := by
  unfold Graph.after Store.building
  rw [List.foldl_append, List.foldl_map, List.foldl_map]
  rfl

/-- The calls of a node, with its name. -/
def namedCalls (room : Option Nat) (d : Symbol × List (String × Json)) :
    Except Fault (String × List (String × List String)) := do
  let cs ← readCalls room d.1.name d.2
  return (d.1.name, cs)

theorem mapM_readCalls (room : Option Nat) (declared : List (Symbol × List (String × Json))) :
    (declared.mapM fun d => do
        let cs ← readCalls room d.1.name d.2
        return cs.map (callOf d.1.name))
      = (declared.mapM (namedCalls room)).map (List.map fun c => c.2.map (callOf c.1)) := by
  rw [← Success.mapM_map]
  congr 1
  funext d
  unfold namedCalls
  cases readCalls room d.1.name d.2 with
  | error fault => rfl
  | ok cs => rfl

/-- The graph of a document is built from what it declares and tells. -/
theorem read_eq (document : Json) (room : Option Nat) :
    read document room = (parts document room).map fun p => Graph.after (Store.building p.1 p.2) := by
  unfold read parts
  cases document with
  | object members =>
    simp only
    cases Json.lookup "nodes" members with
    | none => rfl
    | some v =>
      cases v with
      | list nodes =>
        simp only
        cases readNodes room 0 nodes with
        | error fault => rfl
        | ok declared =>
          change (declared.mapM (namedCalls room) >>= _) = Except.map _
            ((declared.mapM fun d => do
              let cs ← readCalls room d.1.name d.2
              return cs.map (callOf d.1.name)) >>= _)
          rw [mapM_readCalls]
          cases declared.mapM (namedCalls room) with
          | error fault => rfl
          | ok lists =>
            change Except.ok _ = Except.ok _
            simp only [foldl_connect_flatten, after_building, List.foldl_map]
      | _ => rfl
  | _ => rfl

theorem load_eq (document : Json) (room : Option Nat) :
    load document room = (parts document room).map fun p => Store.run (Store.building p.1 p.2) := by
  unfold load
  cases parts document room with
  | error fault => rfl
  | ok p => rfl

/-- A document gives a store and the graph that it keeps, or one fault for both. -/
theorem load_agrees (document : Json) (room : Option Nat) :
    (∃ s g, load document room = .ok s ∧ read document room = .ok g ∧ s.Keeps g) ∨
    ∃ fault, load document room = .error fault ∧ read document room = .error fault := by
  rw [load_eq, read_eq]
  cases parts document room with
  | error fault => exact .inr ⟨fault, rfl, rfl⟩
  | ok p => exact .inl ⟨_, _, rfl, rfl, Store.run_keeps _⟩

/-- What is loaded is built from what the document declares and tells. -/
theorem load_of_ok {document : Json} {room : Option Nat} {s : Store}
    (h : load document room = .ok s) :
    s = Store.run (Store.building (declarations document) (told document)) := by
  rw [load_eq] at h
  cases hparts : parts document room with
  | error fault =>
    rw [hparts] at h
    cases h
  | ok p =>
    obtain ⟨hdeclarations, htold⟩ := parts_of_ok hparts
    rw [hparts] at h
    rw [← hdeclarations, ← htold]
    exact (Except.ok.inj h).symm

/-- All calls are told by symbols that are declared. -/
theorem caller_of_mem_told {document : Json} {c : Call} (h : c ∈ told document) :
    c.caller ∈ (declarations document).map (·.name) := by
  obtain ⟨e, he, hc⟩ := List.mem_flatMap.mp h
  obtain ⟨entry, -, hentry⟩ := List.mem_filterMap.mp hc
  have hcaller : c.caller = (declaration e).name := by
    cases entry with
    | text callee =>
      cases hentry
      rfl
    | object members =>
      obtain ⟨callee, -, rfl⟩ := Option.map_eq_some_iff.mp hentry
      rfl
    | _ => cases hentry
  rw [hcaller, declarations, List.map_map]
  exact List.mem_map.mpr ⟨e, he, rfl⟩

/-! ## What a loaded store contains -/

/-- Of names in pairs after others, those that come first in a pair being there already, only the
    second ones are new. -/
theorem eraseDups_append_ends {names : List String} {calls : List Call}
    (h : ∀ c ∈ calls, c.caller ∈ names) :
    (names ++ calls.flatMap fun c => [c.caller, c.callee]).eraseDups
      = names.eraseDups ++ (calls.map (·.callee)).eraseDups.filter (· ∉ names) := by
  have hnew : (calls.flatMap fun c => [c.caller, c.callee]).removeAll names
      = (calls.map (·.callee)).filter (· ∉ names) := by
    induction calls with
    | nil => rfl
    | cons c calls ih =>
      obtain ⟨hc, hothers⟩ := List.forall_mem_cons.mp h
      have hpair : [c.caller, c.callee].removeAll names = [c.callee].filter (· ∉ names) := by
        simp [List.removeAll, hc]
      rw [List.flatMap_cons, Firsts.append_removeAll, ih hothers, hpair, ← List.filter_append,
        List.map_cons, List.singleton_append]
  rw [List.eraseDups_append, hnew, Firsts.eraseDups_filter]

theorem filter_declarations_ne_nil {document : Json} {name : String}
    (h : name ∈ (declarations document).map (·.name)) :
    ((declarations document).filter fun t => t.name = name) ≠ [] := by
  obtain ⟨t, ht, hname⟩ := List.mem_map.mp h
  exact List.ne_nil_of_mem (List.mem_filter.mpr ⟨ht, decide_eq_true hname⟩)

/-- A declared symbol is what its own declarations come to. -/
theorem symbol_of_load {document : Json} {room : Option Nat} {s : Store}
    (h : load document room = .ok s) {name : String}
    (hname : ((declarations document).filter fun t => t.name = name) ≠ []) :
    (s.node? name).map (·.toSymbol)
      = Graph.settled ((declarations document).filter fun t => t.name = name) := by
  obtain ⟨t, -, ht, -⟩ := Graph.exists_settled hname
  rw [load_of_ok h, (Store.run_keeps _).symbol, Graph.find?_after_building, ht, Option.some_or]

/-- What is in a store that was loaded from a document.

    The names are those that are declared, in the order of their first declarations, and then the
    other ones that are called, in the order of their first calls. A declared symbol has the data of
    the first of its declarations that tells a definition, or else of the first one, and is an extern
    just if none tells a definition; another one is an extern and nothing more. There is a call for
    each pair of ends that is told, with all sites told for it in their order; and the lists of the
    symbols have the calls in the order in which their ends were told first. What a declared symbol
    has depends on its own declarations only, wherever they stand in the document. -/
theorem load_contents {document : Json} {room : Option Nat} {s : Store}
    (h : load document room = .ok s) :
    Table.keys s.nodes
      = ((declarations document).map (·.name)).eraseDups
        ++ ((told document).map (·.callee)).eraseDups.filter
            (· ∉ (declarations document).map (·.name)) ∧
    (∀ name ∈ (declarations document).map (·.name), ∃ n, s.node? name = some n ∧
      Graph.settled ((declarations document).filter (·.name = name)) = some n.toSymbol ∧
      (n.isExtern = true ↔ ∀ t ∈ declarations document, t.name = name → t.defined = false)) ∧
    (∀ name ∈ (told document).map (·.callee), name ∉ (declarations document).map (·.name) →
      ∃ n, s.node? name = some n ∧ n.toSymbol = { name, defined := false }) ∧
    Table.keys s.places = ((told document).map Call.ends).eraseDups ∧
    (∀ e ∈ (told document).map Call.ends, s.call? e.caller e.callee
      = some { caller := e.caller, callee := e.callee, sites := Call.sitesOf (told document) e }) ∧
    (∀ name n, s.node? name = some n → ∀ d, s.relations d n
      = (((told document).map Call.ends).eraseDups.filter (·.near d = name)).map fun e =>
          { caller := e.caller, callee := e.callee, sites := Call.sitesOf (told document) e }) ∧
    ∀ document' room' s', load document' room' = .ok s' → ∀ name ∈ (declarations document).map (·.name),
      (declarations document').filter (·.name = name)
        = (declarations document).filter (·.name = name) →
      (s'.node? name).map (·.toSymbol) = (s.node? name).map (·.toSymbol) := by
  have hs := load_of_ok h
  have hkeeps := Store.run_keeps (Store.building (declarations document) (told document))
  rw [← hs] at hkeeps
  have hcalls := Graph.calls_after (Store.building (declarations document) (told document))
  rw [Graph.told_building] at hcalls
  refine ⟨?names, ?declared, ?called, ?ends, ?sites, ?lists, ?apart⟩
  case names =>
    rw [hkeeps.names, Graph.names_after, Graph.names_building]
    exact eraseDups_append_ends fun c hc => caller_of_mem_told hc
  case declared =>
    intro name hname
    have hne := filter_declarations_ne_nil hname
    obtain ⟨t, -, ht, hextern⟩ := Graph.exists_settled hne
    have hsymbol := symbol_of_load h hne
    rw [ht] at hsymbol
    obtain ⟨n, hn, rfl⟩ := Option.map_eq_some_iff.mp hsymbol
    refine ⟨n, hn, ht, ?_⟩
    rw [Symbol.isExtern, Bool.not_eq_true', hextern]
    simp [List.mem_filter]
  case called =>
    intro name hname hnot
    have hnone : ((declarations document).filter fun t => t.name = name) = [] := by
      rw [List.filter_eq_nil_iff]
      intro t ht hsame
      exact hnot (List.mem_map.mpr ⟨t, ht, of_decide_eq_true hsame⟩)
    have hbrought : name ∈ (told document).flatMap fun c => [c.caller, c.callee] := by
      obtain ⟨c, hc, rfl⟩ := List.mem_map.mp hname
      exact List.mem_flatMap.mpr ⟨c, hc, by simp⟩
    have hsymbol := hkeeps.symbol name
    rw [Graph.find?_after_building, hnone, if_pos hbrought] at hsymbol
    obtain ⟨n, hn, hextern⟩ := Option.map_eq_some_iff.mp hsymbol
    exact ⟨n, hn, hextern⟩
  case ends =>
    rw [hkeeps.keys_places, hcalls, Call.ends_joined]
  case sites =>
    intro e he
    rw [hs, Store.call?_run, Graph.told_building, if_pos he]
  case lists =>
    intro name n hn d
    rw [hkeeps.relations hn, Graph.relations, hcalls, Call.joined, List.filter_map]
    congr 1
  case apart =>
    -- both documents have the same declarations of the name, and these are all that counts
    intro document' room' s' h' name hname hsame
    have hne := filter_declarations_ne_nil hname
    rw [symbol_of_load h hne, ← hsame]
    exact symbol_of_load h' (hsame ▸ hne)

/-- A document that calls a symbol before the declaration that tells where it is defined. -/
def forwardCall : Json := .object [("nodes", .list [
  .object [("name", .text "f"), ("calls", .list [
    .text "g", .object [("callee", .text "h"), ("sites", .list [.text "h~f.c:7"])]])],
  .object [("name", .text "g")],
  .object [("name", .text "g"), ("file", .text "g.c")]])]

theorem contents_of_forwardCall :
    ∃ s, load forwardCall = .ok s ∧ Table.keys s.nodes = ["f", "g", "h"] ∧
      ∃ n, s.node? "g" = some n ∧ n.file = some "g.c" ∧ n.isExtern = false := by
  have hload : load forwardCall = .ok (Store.run (Store.building
      [{ name := "f", defined := false }, { name := "g", defined := false },
        { name := "g", file := some "g.c" }]
      [{ caller := "f", callee := "g" },
        { caller := "f", callee := "h", sites := ["h~f.c:7"] }])) := by rfl
  have h := load_contents hload
  obtain ⟨n, hn, hsettled, -⟩ := h.2.1 "g" (by decide)
  have hdata : n.toSymbol = { name := "g", file := some "g.c" } :=
    Option.some.inj (hsettled.symm.trans (by rfl))
  refine ⟨_, hload, h.1.trans (by decide), n, hn, ?_, ?_⟩
  · rw [hdata]
  · rw [hdata]
    rfl

end CallExcerpt.Document
