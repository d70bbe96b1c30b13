import CallExcerpt.Failure
import CallExcerpt.Proofs.Graph.Contents
import CallExcerpt.Proofs.Json.Spelling

/-! # Which documents are accepted

    The grammar of graph documents, said without regard to the reader, and
    what is wrong with a value that does not follow it. The reader looks at all
    nodes before it looks at the first call, so a bad node is told even if a bad
    call stands before it; of several bad nodes or calls the first is told.
    A value for which there are no words is no address, and a malformed call
    without a spelling is told by what keeps it from having one.

    * `NodeForm`, `CallForm`, `CallsForm`, `Grammatical`: the grammar.
    * `NodeFault`, `CallsFault`, `DocumentFault`: what is told of a node, of its
      calls, and of a document.
    * `judges_readNode`, `judges_readCall`, `judges_readCalls`: each reader
      accepts its part of the grammar, and tells what is wrong with all else.
    * `judges_readNodes`, `judges_parts`: the nodes in a row, and both passes.
    * `accepts_just_grammatical`: all of that for the loader.
    * `wordless_address_refused`: not every value is an address.
-/

namespace CallExcerpt.Document

open Success (Judges judges_ok judges_error judges_mapM FirstWrong firstWrong_cons_iff
  not_firstWrong_nil)

/-! ## The grammar -/

section grammar
variable (members : List (String × Json))

/-- The node has a name. -/
def Named (name : String) : Prop := Json.lookup "name" members = some (.text name) ∧ name ≠ ""

/-- A member is left out or of a form. -/
def MemberForm (key : String) (form : Json → Prop) : Prop :=
  ∀ v, Json.lookup key members = some v → form v

/-- The file is left out, absent or a text. -/
def FileForm : Prop := MemberForm members "file" fun v => v = .null ∨ ∃ file, v = .text file

/-- The line is left out, absent or a whole number. -/
def LineForm : Prop := MemberForm members "line" fun v => v = .null ∨ ∃ line, v = .int line

/-- The address is left out, absent or one of the values that may be addresses. -/
def AddressForm (fits : Json → Prop) : Prop :=
  MemberForm members "address" fun v => v = .null ∨ fits v

/-- Whether the symbol is defined is left out or a truth value. -/
def DefinedForm : Prop := MemberForm members "defined" fun v => ∃ b, v = .bool b

/-- The places of a call are left out or texts. -/
def SitesForm : Prop :=
  MemberForm members "sites" fun v => ∃ sites : List String, v = .list (sites.map .text)

end grammar

/-- A node, its calls apart, with one of the values that may be addresses. -/
inductive NodeForm (fits : Json → Prop) : Json → Prop where
  /-- An object with a name. -/
  | node {members : List (String × Json)} {name : String} (hname : Named members name)
      (hfile : FileForm members) (hline : LineForm members) (haddress : AddressForm members fits)
      (hdefined : DefinedForm members) : NodeForm fits (.object members)

/-- An entry of the calls of a node. -/
inductive CallForm : Json → Prop where
  /-- The name of the callee. -/
  | name {callee : String} (hcallee : callee ≠ "") : CallForm (.text callee)
  /-- An object with the callee, and perhaps with places. -/
  | entry {members : List (String × Json)} {callee : String} (hcallee : callee ≠ "")
      (hlookup : Json.lookup "callee" members = some (.text callee)) (hsites : SitesForm members) :
      CallForm (.object members)

/-- The calls of a node. -/
inductive CallsForm : Json → Prop where
  /-- They are left out. -/
  | none {members : List (String × Json)} (hcalls : Json.lookup "calls" members = none) :
      CallsForm (.object members)
  /-- They are a list of calls. -/
  | list {members : List (String × Json)} {calls : List Json}
      (hcalls : Json.lookup "calls" members = some (.list calls)) (hall : ∀ c ∈ calls, CallForm c) :
      CallsForm (.object members)

/-- The document is an object that lists nodes. -/
def Lists (document : Json) (nodes : List Json) : Prop :=
  ∃ members, document = .object members ∧ Json.lookup "nodes" members = some (.list nodes)

/-- A document that follows the grammar, if some values may be addresses. -/
inductive Grammatical (fits : Json → Prop) : Json → Prop where
  /-- It lists nodes, each with its calls. -/
  | document {document : Json} {nodes : List Json} (hnodes : Lists document nodes)
      (hall : ∀ node ∈ nodes, NodeForm fits node) (hcalls : ∀ node ∈ nodes, CallsForm node) :
      Grammatical fits document

/-! ## What is wrong -/

/-- What is told of an address for which there are no words. -/
inductive AddressFault (room : Option Nat) (members : List (String × Json)) : Fault → Prop where
  /-- It is told by what keeps it from being put in words. -/
  | wordless {v : Json} (hlookup : Json.lookup "address" members = some v) (hnull : v ≠ .null)
      {cause : Json.Unspellable} (h : Json.wordless? room v = some cause) :
      AddressFault room members (.unspellable cause)

/-- What is told of a bad node, by its place; the first thing that is wrong with it. -/
inductive NodeFault (room : Option Nat) (index : Nat) : Json → Fault → Prop where
  /-- It is no object. -/
  | notObject {node : Json} (h : ∀ members, node ≠ .object members) :
      NodeFault room index node (.nodeNotObject index)
  /-- It has no name. -/
  | nameless {members : List (String × Json)} (h : ∀ name, ¬ Named members name) :
      NodeFault room index (.object members) (.nodeWithoutName index)
  /-- Its file is something else than a text. -/
  | file {members : List (String × Json)} {name : String} (hname : Named members name)
      (h : ¬ FileForm members) : NodeFault room index (.object members) (.fileNotText name)
  /-- Its line is something else than a whole number. -/
  | line {members : List (String × Json)} {name : String} (hname : Named members name)
      (hfile : FileForm members) (h : ¬ LineForm members) :
      NodeFault room index (.object members) (.lineNotInteger name)
  /-- There are no words for its address. -/
  | address {members : List (String × Json)} {name : String} (hname : Named members name)
      (hfile : FileForm members) (hline : LineForm members) {fault : Fault}
      (h : AddressFault room members fault) : NodeFault room index (.object members) fault
  /-- Whether it is defined is told by something else than a truth value. -/
  | defined {members : List (String × Json)} {name : String} (hname : Named members name)
      (hfile : FileForm members) (hline : LineForm members)
      (haddress : AddressForm members (Json.HasWords room)) (h : ¬ DefinedForm members) :
      NodeFault room index (.object members) (.definedNotBoolean name)

/-- What is told of an entry that is no call. -/
inductive CallFault (room : Option Nat) (name : String) (call : Json) : Fault → Prop where
  /-- It is told by its spelling. -/
  | malformed (h : call.Spellable room) : CallFault room name call (.malformedCall name call.spelling)
  /-- It has none, and is told by what keeps it from having one. -/
  | unspellable {cause : Json.Unspellable} (h : Json.unspellable? room call = some cause) :
      CallFault room name call (.unspellable cause)

/-- What is told of the calls of a node. -/
inductive CallsFault (room : Option Nat) : Json → Fault → Prop where
  /-- They are no list. -/
  | notList {members : List (String × Json)} {name : String} (hname : Named members name) {v : Json}
      (hcalls : Json.lookup "calls" members = some v) (h : ∀ calls, v ≠ .list calls) :
      CallsFault room (.object members) (.callsNotList name)
  /-- One of them is no call, and none before it. -/
  | malformed {members : List (String × Json)} {name : String} (hname : Named members name)
      {calls : List Json} (hcalls : Json.lookup "calls" members = some (.list calls))
      {fault : Fault} (h : FirstWrong CallForm
        (fun _ c f => ¬ CallForm c ∧ CallFault room name c f) calls fault) :
      CallsFault room (.object members) fault

/-- What is told of a value that is no document. -/
inductive DocumentFault (room : Option Nat) : Json → Fault → Prop where
  /-- It lists no nodes. -/
  | notADocument {document : Json} (h : ∀ nodes, ¬ Lists document nodes) :
      DocumentFault room document .notADocument
  /-- One of its nodes is bad, and none before it. -/
  | node {document : Json} {nodes : List Json} (hnodes : Lists document nodes) {fault : Fault}
      (h : FirstWrong (NodeForm (Json.HasWords room)) (NodeFault room) nodes fault) :
      DocumentFault room document fault
  /-- All nodes are good, and the calls of one are bad, and of none before it. -/
  | calls {document : Json} {nodes : List Json} (hnodes : Lists document nodes)
      (hall : ∀ node ∈ nodes, NodeForm (Json.HasWords room) node) {fault : Fault}
      (h : FirstWrong CallsForm (fun _ => CallsFault room) nodes fault) :
      DocumentFault room document fault

/-! ## Reading a node -/

section node
variable {room : Option Nat} {members : List (String × Json)} {name : String}

theorem Named.unique {name' : String} (h : Named members name) (h' : Named members name') :
    name = name' := by
  have hsame := h.1.symm.trans h'.1
  simpa using hsame

/-- A reader of one member that takes its absence, and tells one thing of all that is not of the
    form. -/
theorem judges_member {α : Type} {key : String} {form : Json → Prop} {x : Except Fault α}
    {fault : Fault} (hnone : Json.lookup key members = none → ∃ a, x = .ok a)
    (hsome : ∀ v, Json.lookup key members = some v →
      Judges x (form v) fun f => ¬ form v ∧ f = fault) :
    Judges x (MemberForm members key form) fun f => ¬ MemberForm members key form ∧ f = fault := by
  cases hlookup : Json.lookup key members with
  | none =>
    have hgood : MemberForm members key form := by
      intro v hv
      rw [hlookup] at hv
      cases hv
    obtain ⟨a, rfl⟩ := hnone hlookup
    exact judges_ok a hgood fun f h => h.1 hgood
  | some v =>
    have hform : form v ↔ MemberForm members key form := by simp [MemberForm, hlookup]
    exact (hsome v hlookup).congr hform fun f => by rw [hform]

theorem judges_readFile (name : String) (members : List (String × Json)) :
    Judges (readFile name members) (FileForm members)
      fun f => ¬ FileForm members ∧ f = .fileNotText name := by
  unfold readFile present?
  refine judges_member (fun hnone => ⟨none, by rw [hnone]⟩) fun v hv => ?_
  rw [hv]
  cases v with
  | null => exact judges_ok none (.inl rfl) fun f h => h.1 (.inl rfl)
  | text file => exact judges_ok (some file) (.inr ⟨file, rfl⟩) fun f h => h.1 (.inr ⟨file, rfl⟩)
  | _ => exact judges_error (by simp) (by simp)

theorem judges_readLine (name : String) (members : List (String × Json)) :
    Judges (readLine name members) (LineForm members)
      fun f => ¬ LineForm members ∧ f = .lineNotInteger name := by
  unfold readLine present?
  refine judges_member (fun hnone => ⟨none, by rw [hnone]⟩) fun v hv => ?_
  rw [hv]
  cases v with
  | null => exact judges_ok none (.inl rfl) fun f h => h.1 (.inl rfl)
  | int line => exact judges_ok (some line) (.inr ⟨line, rfl⟩) fun f h => h.1 (.inr ⟨line, rfl⟩)
  | _ => exact judges_error (by simp) (by simp)

theorem judges_readDefined (name : String) (located : Bool) (members : List (String × Json)) :
    Judges (readDefined name located members) (DefinedForm members)
      fun f => ¬ DefinedForm members ∧ f = .definedNotBoolean name := by
  unfold readDefined
  refine judges_member (fun hnone => ⟨located, by rw [hnone]⟩) fun v hv => ?_
  rw [hv]
  cases v with
  | bool b => exact judges_ok b ⟨b, rfl⟩ fun f h => h.1 ⟨b, rfl⟩
  | _ => exact judges_error (by simp) (by simp)

theorem present?_of_ne_null {key : String} {v : Json} (hlookup : Json.lookup key members = some v)
    (hnull : v ≠ .null) : present? key members = some v := by
  unfold present?
  rw [hlookup]
  cases v with
  | null => exact absurd rfl hnull
  | _ => rfl

theorem judges_readAddress (room : Option Nat) (members : List (String × Json)) :
    Judges (readAddress room members) (AddressForm members (Json.HasWords room))
      (AddressFault room members) := by
  have hgood : ∀ {address : Option String} {v : Json}, Json.lookup "address" members = some v →
      (v = .null ∨ v.HasWords room) → Judges (.ok address : Except Fault (Option String))
        (AddressForm members (Json.HasWords room)) (AddressFault room members) := by
    intro address v hv hform
    refine judges_ok address (fun w hw => ?_) fun fault hfault => ?_
    · rw [hv] at hw
      cases hw
      exact hform
    · obtain @⟨w, hw, hnull, cause, hcause⟩ := hfault
      rw [hv] at hw
      cases hw
      obtain rfl | hwords := hform
      · exact hnull rfl
      · rw [Json.wordless?_eq_none_iff.mpr hwords] at hcause
        cases hcause
  unfold readAddress
  cases hv : Json.lookup "address" members with
  | none =>
    rw [present?, hv]
    refine judges_ok none (fun w hw => ?_) fun fault hfault => ?_
    · rw [hv] at hw
      cases hw
    · obtain ⟨hw, -⟩ := hfault
      rw [hv] at hw
      cases hw
  | some v =>
    by_cases hnull : v = .null
    · subst hnull
      rw [present?, hv]
      exact hgood hv (.inl rfl)
    · rw [present?_of_ne_null hv hnull]
      simp only [Json.asText]
      cases hcause : Json.wordless? room v with
      | none => exact hgood hv (.inr (Json.wordless?_eq_none_iff.mp hcause))
      | some cause =>
        refine judges_error (fun hform => ?_) fun fault => ⟨?_, ?_⟩
        · obtain rfl | hwords := hform v hv
          · exact hnull rfl
          · rw [Json.wordless?_eq_none_iff.mpr hwords] at hcause
            cases hcause
        · rintro ⟨hw, -, hcause'⟩
          rw [hv] at hw
          cases hw
          rw [hcause] at hcause'
          cases hcause'
          rfl
        · rintro rfl
          exact .wordless hv hnull hcause

theorem nodeForm_iff {fits : Json → Prop} (hname : Named members name) :
    NodeForm fits (.object members)
      ↔ FileForm members ∧ LineForm members ∧ AddressForm members fits ∧ DefinedForm members := by
  constructor
  · rintro ⟨-, hfile, hline, haddress, hdefined⟩
    exact ⟨hfile, hline, haddress, hdefined⟩
  · rintro ⟨hfile, hline, haddress, hdefined⟩
    exact .node hname hfile hline haddress hdefined

theorem nodeFault_iff (hname : Named members name) {index : Nat} {fault : Fault} :
    NodeFault room index (.object members) fault
      ↔ (¬ FileForm members ∧ fault = .fileNotText name)
        ∨ FileForm members ∧ ((¬ LineForm members ∧ fault = .lineNotInteger name)
          ∨ LineForm members ∧ (AddressFault room members fault
            ∨ AddressForm members (Json.HasWords room)
              ∧ ¬ DefinedForm members ∧ fault = .definedNotBoolean name)) := by
  constructor
  · rintro (h | h | ⟨hname', h⟩ | ⟨hname', hfile, h⟩ | ⟨-, hfile, hline, h⟩
      | ⟨hname', hfile, hline, haddress, h⟩)
    · exact absurd rfl (h members)
    · exact absurd hname (h name)
    · exact .inl ⟨h, by rw [hname'.unique hname]⟩
    · exact .inr ⟨hfile, .inl ⟨h, by rw [hname'.unique hname]⟩⟩
    · exact .inr ⟨hfile, .inr ⟨hline, .inl h⟩⟩
    · exact .inr ⟨hfile, .inr ⟨hline, .inr ⟨haddress, h, by rw [hname'.unique hname]⟩⟩⟩
  · rintro (⟨h, rfl⟩ | ⟨hfile, ⟨h, rfl⟩ | ⟨hline, h | ⟨haddress, h, rfl⟩⟩⟩)
    · exact .file hname h
    · exact .line hname hfile h
    · exact .address hname hfile hline h
    · exact .defined hname hfile hline haddress h

/-- Whatever is not an object with a name is told by its place. -/
theorem judges_readNode (room : Option Nat) (index : Nat) (node : Json) :
    Judges (readNode room index node) (NodeForm (Json.HasWords room) node)
      (NodeFault room index node) := by
  cases node with
  | object members =>
    have hnameless : (∀ name, ¬ Named members name) →
        Judges (.error (.nodeWithoutName index) : Except Fault (Symbol × List (String × Json)))
          (NodeForm (Json.HasWords room) (.object members))
          (NodeFault room index (.object members)) := by
      intro hnone
      refine judges_error ?_ fun fault => ⟨?_, ?_⟩
      · rintro ⟨hname, -, -, -, -⟩
        exact hnone _ hname
      · rintro (h | h | ⟨hname, -⟩ | ⟨hname, -, -⟩ | ⟨hname, -, -, -⟩ | ⟨hname, -, -, -, -⟩)
        · exact absurd rfl (h members)
        · rfl
        all_goals exact absurd hname (hnone _)
      · rintro rfl
        exact .nameless hnone
    unfold readNode
    simp only
    split
    case h_1 name hlookup =>
      by_cases hempty : name = ""
      · rw [if_pos hempty]
        refine hnameless fun name' hname' => hname'.2 ?_
        have hsame := hname'.1.symm.trans hlookup
        simp only [Option.some.injEq, Json.text.injEq] at hsame
        rw [hsame, hempty]
      · rw [if_neg hempty]
        have hname : Named members name := ⟨hlookup, hempty⟩
        refine ((judges_readFile name members).bind fun file _ =>
          (judges_readLine name members).bind fun line _ =>
            (judges_readAddress room members).bind fun address _ =>
              (judges_readDefined name _ members).map _).congr ?_ fun fault => ?_
        · exact (nodeForm_iff hname).symm
        · exact (nodeFault_iff hname).symm
    case h_2 hother =>
      exact hnameless fun name hname => hother name hname.1
  | _ =>
    refine judges_error (by rintro ⟨⟩) fun fault => ⟨?_, ?_⟩
    · rintro ⟨⟩
      rfl
    · rintro rfl
      exact .notObject (by simp)

/-- What was read of a node is its members, and the symbol has their name. -/
theorem named_of_readNode {index : Nat} {node : Json} {d : Symbol × List (String × Json)}
    (h : readNode room index node = .ok d) : node = .object d.2 ∧ Named d.2 d.1.name := by
  obtain ⟨hmembers, hdeclared⟩ := readNode_of_ok h
  have hform := (judges_readNode room index node).ok_iff.mp ⟨d, h⟩
  cases hform with
  | @node members name hname _ _ _ _ =>
    obtain rfl : members = d.2 := by simpa [members?] using hmembers
    refine ⟨rfl, ?_⟩
    rw [hdeclared]
    simpa [declaration, textAt, hname.1, text?] using hname

end node

/-- The nodes of a document, with their places. -/
theorem judges_readNodes (room : Option Nat) (index : Nat) (nodes : List Json) :
    Judges (readNodes room index nodes) (∀ node ∈ nodes, NodeForm (Json.HasWords room) node)
      (FirstWrong (NodeForm (Json.HasWords room)) (fun i => NodeFault room (index + i)) nodes) := by
  induction nodes generalizing index with
  | nil => exact judges_ok [] nofun fun _ => not_firstWrong_nil
  | cons node nodes ih =>
    unfold readNodes
    refine ((judges_readNode room index node).bind fun first _ =>
      (ih (index + 1)).map (first :: ·)).congr ?_ fun fault => ?_
    · rw [List.forall_mem_cons]
    · -- the places of the nodes that follow are counted from the next one on
      have hplaces : (fun i => NodeFault room (index + 1 + i))
          = fun i => NodeFault room (index + (i + 1)) := by
        funext i
        rw [Nat.add_assoc, Nat.add_comm 1 i]
      rw [firstWrong_cons_iff, hplaces]
      rfl

theorem forall₂_named_of_readNodes {room : Option Nat} {index : Nat} {nodes : List Json}
    {declared : List (Symbol × List (String × Json))}
    (h : readNodes room index nodes = .ok declared) :
    List.Forall₂ (fun node d => node = .object d.2 ∧ Named d.2 d.1.name) nodes declared := by
  induction nodes generalizing index declared with
  | nil =>
    cases h
    exact .nil
  | cons node nodes ih =>
    unfold readNodes at h
    obtain ⟨d, hd, h⟩ := Success.of_bind h
    obtain ⟨others, hothers, h⟩ := Success.of_bind h
    cases h
    exact .cons (named_of_readNode hd) (ih hothers)

/-! ## Reading calls -/

/-- All items are texts just if the list was made of texts. -/
theorem exists_mapM_text? {items : List Json} :
    (∃ texts, items.mapM text? = some texts) ↔ ∃ texts : List String, items = texts.map .text := by
  constructor
  · rintro ⟨texts, htexts⟩
    refine ⟨texts, ?_⟩
    induction items generalizing texts with
    | nil =>
      cases htexts
      rfl
    | cons item items ih =>
      rw [List.mapM_cons] at htexts
      obtain ⟨t, ht, htexts⟩ := Option.bind_eq_some_iff.mp htexts
      obtain ⟨others, hothers, htexts⟩ := Option.bind_eq_some_iff.mp htexts
      cases htexts
      rw [ih others hothers, List.map_cons]
      cases item with
      | text s =>
        cases ht
        rfl
      | _ => cases ht
  · rintro ⟨texts, rfl⟩
    refine ⟨texts, ?_⟩
    induction texts with
    | nil => rfl
    | cons t texts ih =>
      rw [List.map_cons, List.mapM_cons, ih]
      rfl

theorem sitesForm_iff {members : List (String × Json)} : SitesForm members
    ↔ ∃ sites : List String,
      (Json.lookup "sites" members).getD (.list []) = .list (sites.map .text) := by
  unfold SitesForm MemberForm
  cases Json.lookup "sites" members with
  | none => exact ⟨fun _ => ⟨[], rfl⟩, fun _ => nofun⟩
  | some v => simp

/-- Of an entry that is no call one thing is told, whether or not it has a spelling. -/
theorem callFault_iff {room : Option Nat} {name : String} {call : Json} {fault : Fault} :
    CallFault room name call fault ↔ fault = malformed room name call := by
  unfold malformed Json.spelled
  cases hcause : Json.unspellable? room call with
  | none =>
    constructor
    · rintro (_ | h)
      · rfl
      · rw [hcause] at h
        cases h
    · rintro rfl
      exact .malformed (Json.spellable_iff.mpr hcause)
  | some cause =>
    constructor
    · rintro (h | h)
      · rw [Json.spellable_iff.mp h] at hcause
        cases hcause
      · rw [hcause] at h
        cases h
        rfl
    · rintro rfl
      exact .unspellable hcause

theorem judges_readCall (room : Option Nat) (name : String) (call : Json) :
    Judges (readCall room name call) (CallForm call)
      fun f => ¬ CallForm call ∧ CallFault room name call f := by
  have hmalformed : ¬ CallForm call →
      Judges (.error (malformed room name call) : Except Fault (String × List String))
        (CallForm call) fun f => ¬ CallForm call ∧ CallFault room name call f :=
    fun hbad => judges_error hbad fun f => by rw [callFault_iff, and_iff_right hbad]
  have haccepted : ∀ c : String × List String, CallForm call →
      Judges (.ok c : Except Fault (String × List String)) (CallForm call)
        fun f => ¬ CallForm call ∧ CallFault room name call f :=
    fun c hgood => judges_ok c hgood fun f h => h.1 hgood
  unfold readCall
  simp only
  split
  case h_1 callee =>
    by_cases hempty : callee = ""
    · rw [if_pos hempty]
      refine hmalformed ?_
      rintro (hcallee | _)
      exact hcallee hempty
    · rw [if_neg hempty]
      exact haccepted _ (.name hempty)
  case h_2 members =>
    split
    case h_1 callee sites hcallee hsites =>
      by_cases hempty : callee = ""
      · rw [if_pos hempty]
        refine hmalformed ?_
        rintro (_ | ⟨hne, hlookup, -⟩)
        have hsame := hlookup.symm.trans hcallee
        simp only [Option.some.injEq, Json.text.injEq] at hsame
        exact hne (hsame.trans hempty)
      · rw [if_neg hempty]
        -- the list of places is read if all of them are texts
        have hform : SitesForm members ↔ ∃ texts, sites.mapM text? = some texts := by
          rw [sitesForm_iff, hsites, exists_mapM_text?]
          simp
        split
        case h_1 texts htexts =>
          exact haccepted _ (.entry hempty hcallee (hform.mpr ⟨texts, htexts⟩))
        case h_2 hnone =>
          refine hmalformed ?_
          rintro (_ | ⟨-, -, hsites'⟩)
          obtain ⟨texts, htexts⟩ := hform.mp hsites'
          rw [hnone] at htexts
          cases htexts
    case h_2 hother =>
      refine hmalformed ?_
      rintro (_ | ⟨-, hlookup, hsites⟩)
      obtain ⟨sites, hsites⟩ := sitesForm_iff.mp hsites
      exact hother _ _ hlookup hsites
  case h_3 hnotText hnotObject =>
    refine hmalformed ?_
    rintro (@⟨callee, -⟩ | @⟨members, _, -, -, -⟩)
    · exact hnotText callee rfl
    · exact hnotObject members rfl

theorem judges_readCalls (room : Option Nat) {members : List (String × Json)} {name : String}
    (hname : Named members name) :
    Judges (readCalls room name members) (CallsForm (.object members))
      (CallsFault room (.object members)) := by
  unfold readCalls
  cases hcalls : Json.lookup "calls" members with
  | none =>
    refine judges_ok [] (.none hcalls) fun fault h => ?_
    cases h with
    | notList _ hsome => rw [hcalls] at hsome; cases hsome
    | malformed _ hsome => rw [hcalls] at hsome; cases hsome
  | some v =>
    rw [Option.getD_some]
    split
    case h_1 calls =>
      have hall : List.Forall₂ (fun c a => Judges (readCall room name a) (CallForm c)
          fun f => ¬ CallForm c ∧ CallFault room name c f) calls calls :=
        List.forall₂_same.mpr fun c _ => judges_readCall room name c
      refine (judges_mapM hall).congr ⟨fun h => .list hcalls h, ?_⟩ fun fault => ⟨?_, ?_⟩
      · rintro (hnone | ⟨hlist, hforms⟩)
        · rw [hcalls] at hnone
          cases hnone
        · rw [hcalls] at hlist
          cases hlist
          exact hforms
      · exact fun h => .malformed hname hcalls h
      · rintro (⟨-, hv, hnot⟩ | ⟨hname', hlist, hwrong⟩)
        · rw [hcalls] at hv
          cases hv
          exact absurd rfl (hnot calls)
        · rw [hcalls] at hlist
          cases hlist
          rw [hname.unique hname']
          exact hwrong
    case h_2 hnot =>
      refine judges_error ?_ fun fault => ⟨?_, ?_⟩
      · rintro (hnone | ⟨hlist, -⟩)
        · rw [hcalls] at hnone
          cases hnone
        · rw [hcalls] at hlist
          cases hlist
          exact hnot _ rfl
      · rintro (⟨hname', -, -⟩ | ⟨-, hlist, -⟩)
        · rw [hname.unique hname']
        · rw [hcalls] at hlist
          cases hlist
          exact absurd rfl (hnot _)
      · rintro rfl
        exact .notList hname hcalls hnot

/-! ## Both passes -/

theorem Lists.unique {document : Json} {nodes nodes' : List Json} (h : Lists document nodes)
    (h' : Lists document nodes') : nodes = nodes' := by
  obtain ⟨members, rfl, hnodes⟩ := h
  obtain ⟨_, hsame, hnodes'⟩ := h'
  cases hsame
  have heq := hnodes.symm.trans hnodes'
  simpa using heq

theorem grammatical_iff {fits : Json → Prop} {document : Json} {nodes : List Json}
    (hnodes : Lists document nodes) : Grammatical fits document
      ↔ (∀ node ∈ nodes, NodeForm fits node) ∧ ∀ node ∈ nodes, CallsForm node := by
  constructor
  · rintro ⟨hnodes', hall, hcalls⟩
    rw [hnodes.unique hnodes']
    exact ⟨hall, hcalls⟩
  · rintro ⟨hall, hcalls⟩
    exact .document hnodes hall hcalls

theorem documentFault_iff {room : Option Nat} {document : Json} {nodes : List Json}
    (hnodes : Lists document nodes) {fault : Fault} : DocumentFault room document fault
      ↔ FirstWrong (NodeForm (Json.HasWords room)) (NodeFault room) nodes fault
        ∨ (∀ node ∈ nodes, NodeForm (Json.HasWords room) node)
          ∧ FirstWrong CallsForm (fun _ => CallsFault room) nodes fault := by
  constructor
  · rintro (h | ⟨hnodes', h⟩ | ⟨hnodes', hall, h⟩)
    · exact absurd hnodes (h nodes)
    · rw [hnodes.unique hnodes']
      exact .inl h
    · rw [hnodes.unique hnodes']
      exact .inr ⟨hall, h⟩
  · rintro (h | ⟨hall, h⟩)
    · exact .node hnodes h
    · exact .calls hnodes hall h

/-- All nodes are looked at before the first call is. -/
theorem judges_parts (document : Json) (room : Option Nat) :
    Judges (parts document room) (Grammatical (Json.HasWords room) document)
      (DocumentFault room document) := by
  have hnothing : (∀ nodes, ¬ Lists document nodes) →
      Judges (.error .notADocument : Except Fault (List Symbol × List Call))
        (Grammatical (Json.HasWords room) document) (DocumentFault room document) := by
    intro hnone
    refine judges_error ?_ fun fault => ⟨?_, ?_⟩
    · rintro ⟨hnodes, -, -⟩
      exact hnone _ hnodes
    · rintro (_ | ⟨hnodes, -⟩ | ⟨hnodes, -, -⟩)
      · rfl
      all_goals exact absurd hnodes (hnone _)
    · rintro rfl
      exact .notADocument hnone
  unfold parts
  split
  case h_1 members =>
    split
    case h_1 nodes hlookup =>
      have hnodes : Lists (.object members) nodes := ⟨members, rfl, hlookup⟩
      have hcalls : ∀ declared, readNodes room 0 nodes = .ok declared →
          Judges (declared.mapM fun d => do
            let cs ← readCalls room d.1.name d.2
            return cs.map fun c => ({ caller := d.1.name, callee := c.1, sites := c.2 } : Call))
            (∀ node ∈ nodes, CallsForm node)
            (FirstWrong CallsForm (fun _ => CallsFault room) nodes) := by
        intro declared hdeclared
        refine judges_mapM ((forall₂_named_of_readNodes hdeclared).imp ?_)
        rintro node d ⟨rfl, hname⟩
        exact (judges_readCalls room hname).map _
      refine ((judges_readNodes room 0 nodes).bind fun declared hdeclared =>
        (hcalls declared hdeclared).map _).congr (grammatical_iff hnodes).symm fun fault => ?_
      rw [documentFault_iff hnodes]
      simp only [Nat.zero_add]
    case h_2 hother =>
      refine hnothing ?_
      rintro nodes ⟨_, hsame, hlookup⟩
      cases hsame
      exact hother nodes hlookup
  case h_2 hother =>
    refine hnothing ?_
    rintro nodes ⟨members, rfl, -⟩
    exact hother members rfl

theorem judges_load (document : Json) (room : Option Nat) :
    Judges (load document room) (Grammatical (Json.HasWords room) document)
      (DocumentFault room document) := by
  rw [load_eq]
  exact (judges_parts document room).map _

/-! ## Values without words -/

theorem exists_mem_of_firstWrong {α ε : Type} {good : α → Prop} {wrong : Nat → α → ε → Prop}
    {as : List α} {e : ε} (h : FirstWrong good wrong as e) : ∃ i, ∃ a ∈ as, wrong i a e := by
  obtain ⟨before, a, after, rfl, -, hwrong⟩ := h
  exact ⟨_, a, by simp, hwrong⟩

/-- That something has no words is told only if the document holds a whole number that is too long,
    or there is no room for its levels. -/
theorem holdsOf_of_documentFault {room : Option Nat} {document : Json} {cause : Json.Unspellable}
    (h : DocumentFault room document (.unspellable cause)) :
    cause.HoldsOf room document.wholeNumbers document.levels := by
  have hnodes : ∀ {nodes : List Json}, Lists document nodes → ∀ {node : Json}, node ∈ nodes →
      cause.HoldsOf room node.wholeNumbers node.levels →
        cause.HoldsOf room document.wholeNumbers document.levels := by
    rintro nodes ⟨members, rfl, hlookup⟩ node hnode hcause
    exact (hcause.of_mem hnode).of_lookup hlookup
  obtain _ | ⟨hlists, h⟩ | ⟨hlists, -, h⟩ := h
  · obtain ⟨i, node, hnode, hfault⟩ := exists_mem_of_firstWrong h
    cases hfault with
    | address _ _ _ haddress =>
      obtain ⟨hlookup, -, hcause⟩ := haddress
      exact hnodes hlists hnode ((Json.holdsOf_of_wordless? hcause).of_lookup hlookup)
  · obtain ⟨i, node, hnode, hfault⟩ := exists_mem_of_firstWrong h
    cases hfault with
    | malformed hname hcalls h =>
      obtain ⟨i, call, hcall, -, hfault⟩ := exists_mem_of_firstWrong h
      cases hfault with
      | unspellable hcause =>
        exact hnodes hlists hnode
          (((Json.holdsOf_of_unspellable? call hcause).of_mem hcall).of_lookup hcalls)

/-- A document is accepted just if it follows the grammar, whether it becomes a store or a graph.
    Of any other value one thing is told: that it lists no nodes, or what is wrong with the first bad
    node, or if there is none, with the first calls that are no list or the first entry of calls that
    is no call. That is a fault of the input, unless there are no words for an address or for an entry
    that is no call: then the whole has a number that is too long to be written, or more levels than
    there is room for, and that is told in place of it. -/
theorem accepts_just_grammatical (document : Json) (room : Option Nat) :
    ((∃ s, load document room = .ok s) ↔ Grammatical (Json.HasWords room) document)
      ∧ (∀ fault, load document room = .error fault ↔ DocumentFault room document fault)
      ∧ ((∃ g, read document room = .ok g) ↔ Grammatical (Json.HasWords room) document)
      ∧ (∀ fault, read document room = .error fault ↔ DocumentFault room document fault)
      ∧ (∀ fault, (∀ cause, fault ≠ .unspellable cause) →
          (Failure.source (.document fault)).family = .input)
      ∧ (DocumentFault room document (.unspellable .longNumber) →
          (∃ n ∈ document.wholeNumbers, Text.isWritable n = false)
            ∧ (Failure.source (.document (.unspellable .longNumber))).family = .value)
      ∧ (∀ word, DocumentFault room document (.unspellable (.noRoom word)) →
          (∃ r ∈ room, r < document.levels)
            ∧ (Failure.source (.document (.unspellable (.noRoom word)))).family = .recursion) := by
  have hload := judges_load document room
  have hread : Judges (read document room) (Grammatical (Json.HasWords room) document)
      (DocumentFault room document) := by
    rw [read_eq]
    exact (judges_parts document room).map _
  refine ⟨hload.ok_iff, hload.error_iff, hread.ok_iff, hread.error_iff, ?input, ?long, ?deep⟩
  case input =>
    intro fault hwords
    cases fault with
    | unspellable cause => exact absurd rfl (hwords cause)
    | _ => rfl
  case long =>
    intro h
    have hlong : ¬ Json.Writable document.wholeNumbers := holdsOf_of_documentFault h
    refine ⟨?_, rfl⟩
    simpa [Json.Writable] using hlong
  case deep =>
    intro word h
    have hfull : ¬ Json.Fits room document.levels := holdsOf_of_documentFault h
    refine ⟨?_, rfl⟩
    simpa [Json.Fits] using hfull

/-- A bad node is told before the bad call that it comes after. -/
example : load (.object [("nodes", .list [
    .object [("name", .text "f"), ("calls", .list [.null])],
    .object [("name", .text "g"), ("line", .bool true)]])]) = .error (.lineNotInteger "g") := rfl

/-- A number of one digit more than can be written. -/
def longNumber : Int := Int.ofNat (Nat.pow 10 Text.maxDigits)

theorem isWritable_longNumber : Text.isWritable longNumber = false := by
  rw [← Bool.not_eq_true, Text.isWritable_iff, longNumber, Int.ofNat_eq_natCast, Int.natAbs_natCast]
  exact Nat.lt_irrefl _

/-- The members of a node with such a number for its address. -/
def longAddress : List (String × Json) := [("name", .text "f"), ("address", .int longNumber)]

/-- Not every value is an address: a document may follow the grammar but for an address without
    words, and is refused, and not with a fault of the input. -/
theorem wordless_address_refused :
    let document := Json.object [("nodes", .list [.object longAddress])]
    Grammatical (fun _ => True) document
      ∧ load document = .error (.unspellable .longNumber)
      ∧ (Failure.source (.document (.unspellable .longNumber))).family = .value := by
  intro document
  have hlists : Lists document [.object longAddress] := ⟨_, rfl, rfl⟩
  have hname : Named longAddress "f" := ⟨rfl, by decide⟩
  have hfile : FileForm longAddress := nofun
  have hline : LineForm longAddress := nofun
  refine ⟨?_, ?_, rfl⟩
  · refine .document hlists (List.forall_mem_singleton.mpr ?_) (List.forall_mem_singleton.mpr ?_)
    · exact .node hname hfile hline (fun v _ => .inr trivial) nofun
    · exact .none rfl
  · have hcause : Json.wordless? none (.int longNumber) = some .longNumber := by
      rw [Json.wordless?_of_ne_text (by simp), if_neg (by simp), Json.unspellable?_int (by simp),
        isWritable_longNumber]
      rfl
    have haddress : AddressFault none longAddress (.unspellable .longNumber) :=
      .wordless (v := .int longNumber) rfl (by simp) hcause
    refine ((judges_load document none).error_iff _).mpr (.node hlists ⟨[], _, [], rfl, nofun, ?_⟩)
    exact .address hname hfile hline haddress

end CallExcerpt.Document
