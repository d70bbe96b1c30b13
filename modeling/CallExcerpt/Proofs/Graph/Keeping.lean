import CallExcerpt.Proofs.Graph.Building
import CallExcerpt.Proofs.Success
import CallExcerpt.Proofs.Table

/-! # Keeping a graph in a store

    A store says three times where a call is; all three follow from the list
    of the calls' ends. `Keeps` says so: it relates a store to the graph that
    it keeps, and each operation on the store keeps what the operation makes
    of the graph.

    * `placesOf`: where the ends with a property stand in a list of ends.
    * `node?_update`, `node?_ensure`, `node?_link`: the symbols after a change.
    * `Keeps.declare`, `Keeps.connect`, `Keeps.set`, `Keeps.reset`: one step.
    * `run_keeps`: operations in a row.
-/

namespace CallExcerpt

/-! ## Places -/

namespace Ends

/-- The end of a call from which a walk comes. -/
def near (d : Direction) (e : Ends) : String :=
  match d with
  | .forward => e.caller
  | .reverse => e.callee

@[simp] theorem near_ends (d : Direction) (c : Call) : c.ends.near d = c.near d := by
  cases d
  · rfl
  · rfl

end Ends

/-- The places in a list of ends that have a property. -/
def placesOf (p : Ends → Bool) (ends : List Ends) : List Nat :=
  (ends.zipIdx.filter fun e => p e.1).map (·.2)

theorem mem_placesOf_iff {p : Ends → Bool} {ends : List Ends} {place : Nat} :
    place ∈ placesOf p ends ↔ ∃ e, ends[place]? = some e ∧ p e = true := by
  unfold placesOf
  constructor
  · intro h
    obtain ⟨e, he, rfl⟩ := List.mem_map.mp h
    obtain ⟨hmem, hp⟩ := List.mem_filter.mp he
    exact ⟨e.1, List.mem_zipIdx_iff_getElem?.mp hmem, hp⟩
  · rintro ⟨e, he, hp⟩
    refine List.mem_map.mpr ⟨(e, place), List.mem_filter.mpr ⟨?_, hp⟩, rfl⟩
    exact List.mk_mem_zipIdx_iff_getElem?.mpr he

theorem placesOf_concat (p : Ends → Bool) (ends : List Ends) (e : Ends) :
    placesOf p (ends ++ [e]) = placesOf p ends ++ if p e then [ends.length] else [] := by
  unfold placesOf
  rw [List.zipIdx_append, List.filter_append, List.map_append]
  by_cases h : p e = true
  · simp [h]
  · simp [h]

theorem placesOf_eq_nil {p : Ends → Bool} {ends : List Ends} (h : ∀ e ∈ ends, p e = false) :
    placesOf p ends = [] := by
  rw [List.eq_nil_iff_forall_not_mem]
  intro place hplace
  obtain ⟨e, he, hp⟩ := mem_placesOf_iff.mp hplace
  rw [h e (List.mem_of_getElem? he)] at hp
  cases hp

/-- Where each pair of ends is there once, a change in its place is a change of the call that has
    those ends. -/
theorem modify_eq_map {calls : List Call} (h : (calls.map Call.ends).Nodup) {e : Ends}
    {place : Nat} (hplace : (calls.map Call.ends)[place]? = some e) (change : Call → Call) :
    calls.modify place change = calls.map fun c => if c.ends = e then change c else c := by
  apply List.ext_getElem?
  intro i
  rw [List.getElem?_modify, List.getElem?_map]
  cases hc : calls[i]? with
  | none => rfl
  | some c =>
    have hi : (calls.map Call.ends)[i]? = some c.ends := by
      rw [List.getElem?_map, hc]
      rfl
    have hlt : i < (calls.map Call.ends).length := (List.getElem?_eq_some_iff.mp hi).1
    have hsame : place = i ↔ c.ends = e := by
      constructor
      · rintro rfl
        rw [hi] at hplace
        exact Option.some.inj hplace
      · rintro rfl
        exact ((List.getElem?_inj hlt h).mp (hi.trans hplace.symm)).symm
    by_cases hends : c.ends = e
    · simp [hends, hsame]
    · simp [hends, hsame]

namespace Store

variable {s : Store} {g : Graph}

/-! ## Symbols after a change -/

theorem node?_update (s : Store) (name : String) (change : Node → Node) (other : String) :
    (s.update name change).node? other
      = if other = name then (s.node? other).map change else s.node? other := by
  unfold update
  cases h : s.node? name with
  | none =>
    by_cases hname : other = name
    · simp [hname, h]
    · simp [hname]
  | some n =>
    by_cases hname : other = name
    · subst hname
      rw [h]
      simp [node?]
    · simp [node?, Table.lookup_put_ne hname, hname]

@[simp] theorem calls_update (s : Store) (name : String) (change : Node → Node) :
    (s.update name change).calls = s.calls := by
  unfold update
  split
  · rfl
  · rfl

@[simp] theorem places_update (s : Store) (name : String) (change : Node → Node) :
    (s.update name change).places = s.places := by
  unfold update
  split
  · rfl
  · rfl

@[simp] theorem keys_update (s : Store) (name : String) (change : Node → Node) :
    Table.keys (s.update name change).nodes = Table.keys s.nodes := by
  unfold update
  cases h : s.node? name with
  | none => rfl
  | some n =>
    have hmem : name ∈ Table.keys s.nodes := by
      rw [Table.mem_keys_iff]
      exact Option.isSome_of_eq_some h
    exact Table.keys_put_of_mem hmem (change n)

/-- A symbol that was met in a call only, as a store keeps it. -/
def newcomer (name : String) : Node := { Graph.external name with }

theorem node?_ensure (s : Store) (name other : String) :
    (s.ensure name).node? other
      = (s.node? other).or (if other = name then some (newcomer other) else none) := by
  unfold ensure
  cases h : s.node? name with
  | some n =>
    by_cases hname : other = name
    · simp [hname, h]
    · simp [hname]
  | none =>
    by_cases hname : other = name
    · subst hname
      rw [h]
      simp [node?, newcomer, Graph.external]
    · simp [node?, Table.lookup_put_ne hname, hname]

@[simp] theorem calls_ensure (s : Store) (name : String) : (s.ensure name).calls = s.calls := by
  unfold ensure
  split
  · rfl
  · rfl

@[simp] theorem places_ensure (s : Store) (name : String) : (s.ensure name).places = s.places := by
  unfold ensure
  split
  · rfl
  · rfl

theorem mem_keys_iff {name : String} :
    name ∈ Table.keys s.nodes ↔ (s.node? name).isSome = true := Table.mem_keys_iff

theorem keys_ensure (h : (Table.keys s.nodes).Nodup) (name : String) :
    Table.keys (s.ensure name).nodes = (Table.keys s.nodes ++ [name]).eraseDups := by
  unfold ensure
  cases hn : s.node? name with
  | some n =>
    have hmem : name ∈ Table.keys s.nodes := mem_keys_iff.mpr (Option.isSome_of_eq_some hn)
    rw [Firsts.eraseDups_concat_of_mem h hmem]
  | none => exact Table.keys_put h name _

/-- The symbol of a name with the place of a call that is linked. -/
def noted (e : Ends) (place : Nat) (name : String) (n : Node) : Node :=
  { n with
    callees := n.callees ++ if e.caller = name then [place] else []
    callers := n.callers ++ if e.callee = name then [place] else [] }

theorem listed_noted (e : Ends) (place : Nat) (name : String) (n : Node) (d : Direction) :
    (noted e place name n).listed d = n.listed d ++ if e.near d = name then [place] else [] := by
  cases d
  · rfl
  · rfl

/-- A change of a symbol that need not have been there. -/
theorem node?_update_ensure (s : Store) (name : String) (change : Node → Node) (other : String) :
    ((s.ensure name).update name change).node? other
      = if other = name then some (change ((s.node? other).getD (newcomer other)))
        else s.node? other := by
  rw [node?_update, node?_ensure]
  by_cases h : other = name
  · simp [h]
  · simp [h]

theorem node?_link (s : Store) (caller callee name : String) :
    (s.link caller callee).node? name
      = ((s.node? name).or (if name ∈ [caller, callee] then some (newcomer name) else none)).map
          (noted ⟨caller, callee⟩ s.calls.length name) := by
  -- the list of calls and the table of places say nothing of symbols
  have hsame : ∀ calls places, ({ s with calls, places } : Store).node? name = s.node? name := by
    intro calls places
    rfl
  unfold link
  simp only [node?_update_ensure, hsame]
  by_cases hcallee : name = callee
  · subst hcallee
    -- a symbol that calls itself gets the place in both of its lists
    by_cases hcaller : name = caller
    · subst hcaller
      cases h : s.node? name with
      | some n => simp [noted]
      | none => simp [noted]
    · cases h : s.node? name with
      | some n => simp [noted, hcaller, Ne.symm hcaller]
      | none => simp [noted, hcaller, Ne.symm hcaller]
  · by_cases hcaller : name = caller
    · subst hcaller
      cases h : s.node? name with
      | some n => simp [noted, hcallee, Ne.symm hcallee]
      | none => simp [noted, hcallee, Ne.symm hcallee]
    · cases h : s.node? name with
      | some n => simp [noted, hcallee, hcaller, Ne.symm hcaller, Ne.symm hcallee]
      | none => simp [hcallee, hcaller]

/-- What a declaration makes of the symbol that was kept under its name, if there was one. -/
def redeclared (before : Option Node) (symbol : Symbol) (style : Style) : Node :=
  match before with
  | none => { symbol with style }
  | some n => if symbol.defined && !n.defined then filledIn n symbol else n

theorem toSymbol_redeclared (before : Option Node) (symbol : Symbol) (style : Style) :
    (redeclared before symbol style).toSymbol
      = Graph.declared (before.map (·.toSymbol)) symbol := by
  cases before with
  | none => rfl
  | some n =>
    unfold redeclared
    simp only [Option.map_some, Graph.declared, Option.getD_some, Graph.merge]
    by_cases h : (symbol.defined && !n.defined) = true
    · obtain ⟨hdefined, -⟩ := Bool.and_eq_true_iff.mp h
      rw [if_pos h, if_pos h]
      simp [filledIn, hdefined]
    · rw [if_neg h, if_neg h]

theorem listed_redeclared (before : Option Node) (symbol : Symbol) (style : Style)
    (d : Direction) :
    (redeclared before symbol style).listed d = (before.map (·.listed d)).getD [] := by
  cases before with
  | none =>
    cases d
    · rfl
    · rfl
  | some n =>
    unfold redeclared
    simp only
    split
    · cases d
      · rfl
      · rfl
    · rfl

theorem node?_declare (s : Store) (symbol : Symbol) (style : Style) (name : String) :
    (s.declare symbol style).node? name
      = if name = symbol.name then some (redeclared (s.node? name) symbol style)
        else s.node? name := by
  unfold declare
  cases h : s.node? symbol.name with
  | none =>
    by_cases hname : name = symbol.name
    · subst hname
      rw [h]
      simp [node?, redeclared]
    · simp [node?, Table.lookup_put_ne hname, hname]
  | some n =>
    by_cases hfill : (symbol.defined && !n.defined) = true
    · simp only [if_pos hfill]
      rw [node?_update]
      by_cases hname : name = symbol.name
      · subst hname
        simp only [h, redeclared, if_pos hfill, Option.map_some]
      · simp [hname]
    · simp only [if_neg hfill]
      by_cases hname : name = symbol.name
      · subst hname
        simp only [h, redeclared, if_neg hfill, if_true]
      · simp [hname]

theorem keys_declare (h : (Table.keys s.nodes).Nodup) (symbol : Symbol) (style : Style) :
    Table.keys (s.declare symbol style).nodes
      = (Table.keys s.nodes ++ [symbol.name]).eraseDups := by
  unfold declare
  cases hn : s.node? symbol.name with
  | none => exact Table.keys_put h symbol.name _
  | some n =>
    have hmem : symbol.name ∈ Table.keys s.nodes :=
      mem_keys_iff.mpr (Option.isSome_of_eq_some hn)
    rw [Firsts.eraseDups_concat_of_mem h hmem]
    simp only
    split
    · exact keys_update s symbol.name _
    · rfl

theorem calls_declare (s : Store) (symbol : Symbol) (style : Style) :
    (s.declare symbol style).calls = s.calls := by
  unfold declare
  split
  · rfl
  · split
    · exact calls_update s symbol.name _
    · rfl

theorem places_declare (s : Store) (symbol : Symbol) (style : Style) :
    (s.declare symbol style).places = s.places := by
  unfold declare
  split
  · rfl
  · split
    · exact places_update s symbol.name _
    · rfl

theorem keys_link (h : (Table.keys s.nodes).Nodup) (caller callee : String) :
    Table.keys (s.link caller callee).nodes
      = (Table.keys s.nodes ++ [caller, callee]).eraseDups := by
  unfold link
  rw [keys_update, keys_ensure, keys_update, keys_ensure]
  · rw [Firsts.eraseDups_eraseDups_append, List.append_assoc]
    rfl
  · exact h
  · rw [keys_update, keys_ensure]
    · exact Firsts.nodup_eraseDups _
    · exact h

/-! ## Keeping a graph -/

/-- The store keeps the graph: its symbols and its calls in their order, and the place of each call
    in the table and in the lists of the two symbols. -/
structure Keeps (s : Store) (g : Graph) : Prop where
  names : Table.keys s.nodes = g.names
  symbol : ∀ name, (s.node? name).map (·.toSymbol) = g.find? name
  calls : s.calls = g.calls
  places : s.places = (g.calls.map Call.ends).zipIdx
  listed : ∀ name n, s.node? name = some n → ∀ d,
    n.listed d = placesOf (fun e => e.near d = name) (g.calls.map Call.ends)

theorem Keeps.empty : Keeps {} {} where
  names := rfl
  symbol := by
    intro name
    rfl
  calls := rfl
  places := rfl
  listed := by
    intro name n h
    cases h

/-- No call leads from a symbol that is not there, or to it. -/
theorem placesOf_of_not_mem (hs : g.Sound) {name : String} (h : name ∉ g.names) (d : Direction) :
    placesOf (fun e => e.near d = name) (g.calls.map Call.ends) = [] := by
  apply placesOf_eq_nil
  intro e he
  obtain ⟨c, hc, rfl⟩ := List.mem_map.mp he
  have hne : c.near d ≠ name := by
    rintro rfl
    exact h (hs.near hc d)
  simpa using hne

theorem Keeps.not_mem_of_node?_eq_none (h : s.Keeps g) {name : String}
    (hname : s.node? name = none) : name ∉ g.names := by
  rw [← Graph.contains_iff, Graph.contains, ← h.symbol, hname]
  exact Bool.false_ne_true

theorem Keeps.nodup_keys (h : s.Keeps g) (hs : g.Sound) : (Table.keys s.nodes).Nodup := by
  rw [h.names]
  exact hs.names

theorem Keeps.keys_places (h : s.Keeps g) : Table.keys s.places = g.calls.map Call.ends := by
  rw [h.places, Table.keys, List.zipIdx_map_fst]

theorem Keeps.lookup_places (h : s.Keeps g) (hs : g.Sound) {e : Ends} {place : Nat} :
    s.places.lookup e = some place ↔ (g.calls.map Call.ends)[place]? = some e := by
  have hkeys : (Table.keys s.places).Nodup := by
    rw [h.keys_places]
    exact hs.ends
  rw [Table.lookup_eq_some_iff_mem hkeys, h.places, List.mk_mem_zipIdx_iff_getElem?]

theorem Keeps.isSome_lookup_places (h : s.Keeps g) {e : Ends} :
    (s.places.lookup e).isSome = true ↔ e ∈ g.calls.map Call.ends := by
  rw [← Table.mem_keys_iff, h.keys_places]

/-! ## One step -/

/-- A change of drawing attributes says nothing of the graph. -/
theorem Keeps.restyle (h : s.Keeps g) {change : Node → Node}
    (hsymbol : ∀ n, (change n).toSymbol = n.toSymbol)
    (hlisted : ∀ n d, (change n).listed d = n.listed d) (name : String) :
    (s.update name change).Keeps g := by
  constructor
  · rw [keys_update]
    exact h.names
  · intro other
    rw [node?_update, ← h.symbol]
    split
    · simp [Option.map_map, Function.comp_def, hsymbol]
    · rfl
  · rw [calls_update]
    exact h.calls
  · rw [places_update]
    exact h.places
  · intro other n hn d
    rw [node?_update] at hn
    split at hn
    · obtain ⟨m, hm, rfl⟩ := Option.map_eq_some_iff.mp hn
      rw [hlisted]
      exact h.listed other m hm d
    · exact h.listed other n hn d

theorem Keeps.declare (h : s.Keeps g) (hs : g.Sound) (symbol : Symbol) (style : Style) :
    (s.declare symbol style).Keeps (g.declare symbol) := by
  constructor
  · rw [keys_declare (h.nodup_keys hs), Graph.names_declare hs.names, h.names]
  · intro name
    rw [node?_declare, Graph.find?_declare, ← h.symbol]
    split
    · rw [Option.map_some, toSymbol_redeclared]
    · rfl
  · rw [calls_declare, Graph.calls_declare]
    exact h.calls
  · rw [places_declare, Graph.calls_declare]
    exact h.places
  · intro name n hn d
    rw [Graph.calls_declare]
    rw [node?_declare] at hn
    split at hn
    · obtain rfl := Option.some.inj hn
      -- a declaration leaves the lists as they are; a new symbol has empty ones
      rw [listed_redeclared]
      cases hbefore : s.node? name with
      | none => exact (placesOf_of_not_mem hs (h.not_mem_of_node?_eq_none hbefore) d).symm
      | some m => exact h.listed name m hbefore d
    · exact h.listed name n hn d

/-- A call between ends that were not connected before gets its place, still without sites. -/
theorem Keeps.link (h : s.Keeps g) (hs : g.Sound) {caller callee : String}
    (hnew : (⟨caller, callee⟩ : Ends) ∉ g.calls.map Call.ends) :
    (s.link caller callee).Keeps (g.connect caller callee []) := by
  have hcalls : (g.connect caller callee []).calls
      = g.calls ++ [({ caller, callee } : Call)] := by
    rw [Graph.connect_of_not_mem hnew]
  have hends : (g.connect caller callee []).calls.map Call.ends
      = g.calls.map Call.ends ++ [⟨caller, callee⟩] := by
    rw [hcalls, List.map_append]
    rfl
  have hlength : s.calls.length = (g.calls.map Call.ends).length := by
    rw [h.calls, List.length_map]
  constructor
  · rw [keys_link (h.nodup_keys hs), Graph.names_connect hs, h.names]
  · intro name
    rw [node?_link, Graph.find?_connect hs, ← h.symbol, Option.map_map]
    cases s.node? name with
    | some n => rfl
    | none =>
      by_cases hname : name ∈ [caller, callee]
      · simp only [if_pos hname]
        rfl
      · simp only [if_neg hname]
        rfl
  · rw [hcalls]
    simp [Store.link, h.calls]
  · have hkey : (⟨caller, callee⟩ : Ends) ∉ Table.keys s.places := by
      rw [h.keys_places]
      exact hnew
    have hplaces : (s.link caller callee).places
        = Table.put ⟨caller, callee⟩ s.calls.length s.places := by
      simp [Store.link]
    rw [hplaces, Table.put_of_not_mem hkey, h.places, hends, hlength, List.zipIdx_append]
    simp
  · intro name n hn d
    rw [node?_link] at hn
    obtain ⟨m, hm, rfl⟩ := Option.map_eq_some_iff.mp hn
    have hold : m.listed d = placesOf (fun e => e.near d = name) (g.calls.map Call.ends) := by
      cases hbefore : s.node? name with
      | some before =>
        rw [hbefore, Option.some_or] at hm
        rw [← Option.some.inj hm]
        exact h.listed name before hbefore d
      | none =>
        -- a symbol that is met for the first time has no places, and no call has its name
        rw [placesOf_of_not_mem hs (h.not_mem_of_node?_eq_none hbefore)]
        rw [hbefore, Option.none_or, Option.ite_none_right_eq_some] at hm
        rw [← Option.some.inj hm.2]
        cases d
        · rfl
        · rfl
    rw [hends, placesOf_concat, listed_noted, hlength, hold]
    simp

/-- Sites join the call in its place. -/
theorem Keeps.addSites (h : s.Keeps g) (hs : g.Sound) {caller callee : String} {place : Nat}
    (hplace : (g.calls.map Call.ends)[place]? = some ⟨caller, callee⟩) (sites : List String) :
    (s.addSites place sites).Keeps (g.connect caller callee sites) := by
  have hmem : (⟨caller, callee⟩ : Ends) ∈ g.calls.map Call.ends := List.mem_of_getElem? hplace
  have hends : (g.connect caller callee sites).calls.map Call.ends = g.calls.map Call.ends := by
    rw [Graph.ends_connect hs.ends, Firsts.eraseDups_concat_of_mem hs.ends hmem]
  constructor
  · rw [Graph.connect_of_mem hmem]
    exact h.names
  · intro name
    rw [Graph.connect_of_mem hmem]
    exact h.symbol name
  · rw [Graph.connect_of_mem hmem, Store.addSites, h.calls]
    exact modify_eq_map hs.ends hplace _
  · rw [hends]
    exact h.places
  · intro name n hn d
    rw [hends]
    exact h.listed name n hn d

theorem Keeps.connect (h : s.Keeps g) (hs : g.Sound) (caller callee : String)
    (sites : List String) :
    (s.connect caller callee sites).Keeps (g.connect caller callee sites) := by
  unfold Store.connect
  by_cases hold : (⟨caller, callee⟩ : Ends) ∈ g.calls.map Call.ends
  · obtain ⟨place, hplace⟩ := Option.isSome_iff_exists.mp (h.isSome_lookup_places.mpr hold)
    simp only [hplace, Option.isSome_some, if_true]
    exact h.addSites hs ((h.lookup_places hs).mp hplace) sites
  · -- the call is linked first: then it is one that is there, like any other
    have hnone := mt h.isSome_lookup_places.mp hold
    have hlinked := h.link hs hold
    have hsound := hs.connect caller callee []
    have hmem : (⟨caller, callee⟩ : Ends)
        ∈ (g.connect caller callee []).calls.map Call.ends := by
      rw [Graph.connect_of_not_mem hold]
      simp [Call.ends]
    obtain ⟨place, hplace⟩ := Option.isSome_iff_exists.mp (hlinked.isSome_lookup_places.mpr hmem)
    simp only [if_neg hnone, hplace]
    rw [← Graph.connect_connect hold sites]
    exact hlinked.addSites hsound ((hlinked.lookup_places hsound).mp hplace) sites

theorem Keeps.withSaved (h : s.Keeps g) (saved : List (String × Style)) :
    ({ s with saved } : Store).Keeps g :=
  ⟨h.names, h.symbol, h.calls, h.places, h.listed⟩

theorem Keeps.put (h : s.Keeps g) (name key value : String) : (s.put name key value).Keeps g := by
  refine h.restyle ?_ ?_ name
  · intro n
    rfl
  · intro n d
    cases d
    · rfl
    · rfl

theorem Keeps.set (h : s.Keeps g) {name key value : String} {s' : Store}
    (hset : s.set name key value = .ok s') : s'.Keeps g := by
  unfold Store.set at hset
  obtain ⟨n, -, hset⟩ := Success.of_bind hset
  cases hset
  exact (h.withSaved _).put name key value

theorem Keeps.reset (h : s.Keeps g) : s.reset.Keeps g := by
  have hfold : ∀ (saved : List (String × Style)) (s : Store), s.Keeps g →
      (saved.foldl (fun s e => s.update e.1 fun n => { n with style := e.2 }) s).Keeps g := by
    intro saved
    induction saved with
    | nil =>
      intro s h
      exact h
    | cons e saved ih =>
      intro s h
      apply ih
      refine h.restyle ?_ ?_ e.1
      · intro n
        rfl
      · intro n d
        cases d
        · rfl
        · rfl
  exact (hfold s.saved s h).withSaved []

theorem Keeps.perform (h : s.Keeps g) (hs : g.Sound) (o : Operation) :
    (s.perform o).Keeps (g.perform o) := by
  cases o with
  | declare symbol style => exact h.declare hs symbol style
  | connect caller callee sites => exact h.connect hs caller callee sites
  | set name key value =>
    unfold Store.perform
    simp only
    split
    · next s' hset => exact h.set hset
    · exact h
  | reset => exact h.reset

/-! ## A run -/

/-- After any operations a store keeps what they make of a graph. -/
theorem run_keeps (operations : List Operation) : (run operations).Keeps (Graph.after operations) := by
  induction operations using List.reverseRecOn with
  | nil => exact Keeps.empty
  | append_singleton operations o ih =>
    rw [Graph.after_concat, run, List.foldl_concat]
    exact ih.perform (Graph.sound_after operations) o

end Store

end CallExcerpt
