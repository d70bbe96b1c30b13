import CallExcerpt.Proofs.Graph.Keeping
import Mathlib.Data.List.Perm.Basic

/-! # Consistent stores

    Whatever is done with a store, its table of calls and the lists of its
    symbols agree. All of it is read off the graph that the store keeps.

    * `Keeps.relations`, `Keeps.call?_eq_some_iff`, `Keeps.neighbours`,
      `Keeps.summary`: what a store finds is what the graph says.
    * `Consistent`: the table and the lists agree, and nothing is there twice.
    * `Leads`: one symbol is next to another.
    * `run_consistent`: all stores are consistent, no neighbour is ever
      missing, and to lead forward is to lead back.
-/

namespace CallExcerpt

/-! ## Lists -/

/-- Things in lists by their keys, one list for each key: none is lost and none is there twice. -/
theorem perm_flatMap_filter {α κ : Type} [DecidableEq κ] (key : α → κ) {keys : List κ}
    (hkeys : keys.Nodup) {xs : List α} (h : ∀ x ∈ xs, key x ∈ keys) :
    (keys.flatMap fun k => xs.filter fun x => key x = k).Perm xs := by
  induction keys generalizing xs with
  | nil =>
    have hnone : xs = [] := by
      rw [List.eq_nil_iff_forall_not_mem]
      intro x hx
      exact List.not_mem_nil (h x hx)
    rw [hnone]
    exact List.Perm.refl _
  | cons k keys ih =>
    obtain ⟨hfresh, hrest⟩ := List.nodup_cons.mp hkeys
    -- the other lists hold only what the first one leaves
    have hothers : (keys.flatMap fun k' => xs.filter fun x => key x = k')
        = keys.flatMap fun k' => (xs.filter fun x => !decide (key x = k)).filter fun x =>
            key x = k' := by
      apply List.flatMap_congr
      intro k' hk'
      rw [List.filter_filter]
      refine List.filter_congr ?_
      intro x _
      have hne : k' ≠ k := by
        rintro rfl
        exact hfresh hk'
      by_cases hx : key x = k'
      · simp [hx, hne]
      · simp [hx]
    rw [List.flatMap_cons, hothers]
    refine List.Perm.trans ?_ (List.filter_append_perm (fun x => decide (key x = k)) xs)
    apply List.Perm.append_left
    apply ih hrest
    intro x hx
    obtain ⟨hmem, hne⟩ := List.mem_filter.mp hx
    have hk : key x ≠ k := by simpa using hne
    exact (List.mem_cons.mp (h x hmem)).resolve_left hk

theorem filter_eq_singleton {α κ : Type} [DecidableEq κ] {key : α → κ} {xs : List α}
    (h : (xs.map key).Nodup) {x : α} (hx : x ∈ xs) : (xs.filter fun y => key y = key x) = [x] := by
  induction xs with
  | nil => cases hx
  | cons y xs ih =>
    obtain ⟨hfresh, hrest⟩ := List.nodup_cons.mp h
    rcases List.mem_cons.mp hx with rfl | hx
    · have hnone : (xs.filter fun y => decide (key y = key x)) = [] := by
        rw [List.filter_eq_nil_iff]
        intro y hy hsame
        exact hfresh (List.mem_map.mpr ⟨y, hy, of_decide_eq_true hsame⟩)
      simp [hnone]
    · have hne : key y ≠ key x := by
        intro hsame
        exact hfresh (List.mem_map.mpr ⟨x, hx, hsame.symm⟩)
      rw [List.filter_cons_of_neg (by simpa using hne)]
      exact ih hrest hx

theorem placesOf_map_ends (p : Ends → Bool) (calls : List Call) :
    placesOf p (calls.map Call.ends) = (calls.zipIdx.filter fun e => p e.1.ends).map (·.2) := by
  unfold placesOf
  rw [List.zipIdx_map, List.filter_map, List.map_map]
  rfl

theorem map_fst_filter_zipIdx (p : Ends → Bool) (calls : List Call) :
    (calls.zipIdx.filter fun e => p e.1.ends).map (·.1) = calls.filter fun c => p c.ends := by
  have hfilter : (calls.zipIdx.map (·.1)).filter (fun c => p c.ends)
      = (calls.zipIdx.filter fun e => p e.1.ends).map (·.1) := List.filter_map
  rw [← hfilter, List.zipIdx_map_fst]

theorem length_placesOf (p : Ends → Bool) (calls : List Call) :
    (placesOf p (calls.map Call.ends)).length = (calls.filter fun c => p c.ends).length := by
  rw [placesOf_map_ends, ← map_fst_filter_zipIdx, List.length_map, List.length_map]

/-- What stands in the places of some ends are the calls that have such ends. -/
theorem filterMap_placesOf (p : Ends → Bool) (calls : List Call) :
    (placesOf p (calls.map Call.ends)).filterMap (calls[·]?) = calls.filter fun c => p c.ends := by
  have hfound : ∀ e ∈ calls.zipIdx.filter fun e => p e.1.ends, calls[e.2]? = some e.1 := by
    intro e he
    exact List.mem_zipIdx_iff_getElem?.mp (List.mem_of_mem_filter he)
  calc (placesOf p (calls.map Call.ends)).filterMap (calls[·]?)
      = (calls.zipIdx.filter fun e => p e.1.ends).filterMap fun e => calls[e.2]? := by
        rw [placesOf_map_ends, List.filterMap_map]
        rfl
    _ = (calls.zipIdx.filter fun e => p e.1.ends).map (·.1) := by
        rw [List.filterMap_congr hfound, ← List.filterMap_eq_map]
        rfl
    _ = calls.filter fun c => p c.ends := map_fst_filter_zipIdx p calls

namespace Store

variable {s : Store} {g : Graph}

/-! ## What a store finds -/

theorem Keeps.name_of_node? (h : s.Keeps g) {name : String} {n : Node}
    (hn : s.node? name = some n) : n.name = name := by
  have hfind : g.find? name = some n.toSymbol := by
    rw [← h.symbol, hn]
    rfl
  exact Graph.name_of_find? hfind

theorem Keeps.exists_node? (h : s.Keeps g) {name : String} (hname : name ∈ g.names) :
    ∃ n, s.node? name = some n := by
  rw [← h.names, mem_keys_iff] at hname
  exact Option.isSome_iff_exists.mp hname

theorem Keeps.relations (h : s.Keeps g) {name : String} {n : Node} (hn : s.node? name = some n)
    (d : Direction) : s.relations d n = g.relations d name := by
  unfold Store.relations
  rw [h.listed name n hn d, h.calls, filterMap_placesOf]
  simp [Graph.relations]

theorem Keeps.call?_eq_some_iff (h : s.Keeps g) (hs : g.Sound) {caller callee : String}
    {call : Call} :
    s.call? caller callee = some call ↔ call ∈ g.calls ∧ call.ends = ⟨caller, callee⟩ := by
  unfold Store.call?
  rw [Option.bind_eq_some_iff, h.calls]
  constructor
  · rintro ⟨place, hplace, hcall⟩
    rw [h.lookup_places hs, List.getElem?_map, hcall] at hplace
    exact ⟨List.mem_of_getElem? hcall, Option.some.inj hplace⟩
  · rintro ⟨hmem, hends⟩
    obtain ⟨place, hplace⟩ := List.getElem?_of_mem hmem
    refine ⟨place, ?_, hplace⟩
    rw [h.lookup_places hs, List.getElem?_map, hplace]
    exact congrArg some hends

/-- No symbol to which a call leads is missing. -/
theorem Keeps.mapM_lead (h : s.Keeps g) (hs : g.Sound) (d : Direction) {calls : List Call}
    (hcalls : ∀ c ∈ calls, c ∈ g.calls) :
    ∃ next, calls.mapM (s.lead d) = .ok next ∧
      next.map (fun e => (e.1.toSymbol, e.2))
        = calls.filterMap fun c => (g.find? (c.far d)).map (·, c) := by
  induction calls with
  | nil => exact ⟨[], rfl, rfl⟩
  | cons c calls ih =>
    obtain ⟨hc, hothers⟩ := List.forall_mem_cons.mp hcalls
    obtain ⟨next, hnext, hsymbols⟩ := ih hothers
    obtain ⟨n, hn⟩ := h.exists_node? (hs.far c hc d)
    have hlead : s.lead d c = .ok (n, c) := by
      unfold lead
      rw [hn]
    have hfound : (g.find? (c.far d)).map (·, c) = some (n.toSymbol, c) := by
      rw [← h.symbol, hn]
      rfl
    refine ⟨(n, c) :: next, ?_, ?_⟩
    · rw [List.mapM_cons, hlead, hnext]
      rfl
    · rw [List.map_cons, hsymbols, List.filterMap_cons, hfound]

/-- The neighbours in the store are those in the graph. -/
theorem Keeps.neighbours (h : s.Keeps g) (hs : g.Sound) {name : String} {n : Node}
    (hn : s.node? name = some n) (d : Direction) :
    ∃ next, s.neighbours d n = .ok next ∧
      next.map (fun e => (e.1.toSymbol, e.2)) = g.neighbours d name := by
  unfold Store.neighbours
  rw [h.relations hn d]
  exact h.mapM_lead hs d fun c hc => List.mem_of_mem_filter hc

theorem Keeps.symbols (h : s.Keeps g) (hs : g.Sound) :
    s.nodes.map (·.2.toSymbol) = g.symbols := by
  have hkeys := h.nodup_keys hs
  -- both lists are what is found under the names, one by one
  have hnodes : (s.nodes.map (·.2.toSymbol)).map some = (Table.keys s.nodes).map g.find? := by
    rw [Table.keys, List.map_map, List.map_map]
    refine List.map_congr_left ?_
    intro e he
    have hnode : s.node? e.1 = some e.2 := (Table.lookup_eq_some_iff_mem hkeys).mpr he
    simp only [Function.comp_apply]
    rw [← h.symbol, hnode]
    rfl
  rw [h.names, ← Graph.map_some_symbols hs.names] at hnodes
  exact List.map_injective_iff.mpr (fun _ _ h => Option.some.inj h) hnodes

/-- What is said of a store as a whole is what is said of the graph. -/
theorem Keeps.summary (h : s.Keeps g) (hs : g.Sound) :
    s.symbolCount = g.symbolCount ∧ s.callCount = g.callCount ∧
      s.externCount = g.externCount ∧ s.summary = g.summary := by
  have hsymbols : s.symbolCount = g.symbolCount := by
    rw [symbolCount, Graph.symbolCount, ← h.symbols hs, List.length_map]
  have hcalls : s.callCount = g.callCount := by
    rw [callCount, Graph.callCount, h.places, List.length_zipIdx, List.length_map]
  have hexterns : s.externCount = g.externCount := by
    rw [externCount, Graph.externCount, ← h.symbols hs, List.countP_map]
    rfl
  refine ⟨hsymbols, hcalls, hexterns, ?_⟩
  unfold Store.summary Graph.summary
  rw [hsymbols, hcalls]

/-- What is said of a symbol in the store is what is said of it in the graph. -/
theorem Keeps.symbolSummary (h : s.Keeps g) {name : String} {n : Node}
    (hn : s.node? name = some n) : n.summary = g.symbolSummary n.toSymbol := by
  have hname : n.name = name := h.name_of_node? hn
  have hlength : ∀ d, (n.listed d).length = (g.relations d n.name).length := by
    intro d
    rw [h.listed name n hn d, length_placesOf, hname]
    simp [Graph.relations]
  have hcallees : n.callees.length = (g.callees n.name).length := hlength .forward
  have hcallers : n.callers.length = (g.callers n.name).length := hlength .reverse
  unfold Node.summary Graph.symbolSummary
  rw [hcallees, hcallers]

/-! ## Consistency -/

/-- The symbols, the table of calls and the lists of the symbols agree. -/
structure Consistent (s : Store) : Prop where
  /-- Each name is there once. -/
  keys : (Table.keys s.nodes).Nodup
  /-- Each symbol is kept under its own name. -/
  named : ∀ e ∈ s.nodes, e.2.name = e.1
  /-- Each pair of ends is there once. -/
  ends : (Table.keys s.places).Nodup
  /-- Each call has both of its symbols, and is once in the list of each, with the same sites. -/
  linked : ∀ e ∈ Table.keys s.places, ∃ call caller callee,
    s.call? e.caller e.callee = some call ∧ call.ends = e ∧
    s.node? e.caller = some caller ∧ s.node? e.callee = some callee ∧
    ((s.relations .forward caller).filter fun c => c.ends = e) = [call] ∧
    ((s.relations .reverse callee).filter fun c => c.ends = e) = [call]
  /-- The lists hold nothing but calls that stand in the table, with the symbol at their near end. -/
  listed : ∀ name n, s.node? name = some n → ∀ d, ∀ place ∈ n.listed d,
    ∃ call, s.calls[place]? = some call ∧ call.near d = name ∧
      s.places.lookup call.ends = some place
  /-- No list has two calls with the same ends. -/
  apart : ∀ name n, s.node? name = some n → ∀ d, ((s.relations d n).map Call.ends).Nodup
  /-- There are as many calls as places in all lists of either kind. -/
  counted : ∀ d, (s.nodes.flatMap fun e => e.2.listed d).length = s.callCount

/-- One symbol is next to another. -/
def Leads (s : Store) (d : Direction) (u v : String) : Prop :=
  ∃ n next, s.node? u = some n ∧ s.neighbours d n = .ok next ∧ v ∈ next.map (·.1.name)

/-- A call is once in each of its lists. -/
theorem filter_relations (hs : g.Sound) {call : Call} (hcall : call ∈ g.calls) (d : Direction) :
    ((g.relations d (call.near d)).filter fun c => c.ends = call.ends) = [call] := by
  have hnear : ((g.relations d (call.near d)).filter fun c => c.ends = call.ends)
      = g.calls.filter fun c => c.ends = call.ends := by
    unfold Graph.relations
    rw [List.filter_filter]
    refine List.filter_congr ?_
    intro c _
    by_cases hends : c.ends = call.ends
    · have hsame : c.near d = call.near d := by
        rw [← Ends.near_ends, hends, Ends.near_ends]
      simp [hends, hsame]
    · simp [hends]
  rw [hnear]
  exact filter_eq_singleton hs.ends hcall

/-- The lists of all symbols together have each place once. -/
theorem length_flatMap_placesOf (hs : g.Sound) (d : Direction) :
    (g.names.flatMap fun name =>
      placesOf (fun e => e.near d = name) (g.calls.map Call.ends)).length = g.calls.length := by
  have hnear : ∀ e ∈ (g.calls.map Call.ends).zipIdx, e.1.near d ∈ g.names := by
    intro e he
    have hmem : e.1 ∈ g.calls.map Call.ends := by
      rw [← List.zipIdx_map_fst 0 (g.calls.map Call.ends)]
      exact List.mem_map_of_mem he
    obtain ⟨c, hc, hends⟩ := List.mem_map.mp hmem
    rw [← hends, Ends.near_ends]
    exact hs.near hc d
  have hperm := perm_flatMap_filter (fun e : Ends × Nat => e.1.near d) hs.names hnear
  unfold placesOf
  rw [← List.map_flatMap, List.length_map, hperm.length_eq, List.length_zipIdx, List.length_map]

theorem Keeps.consistent (h : s.Keeps g) (hs : g.Sound) : s.Consistent := by
  have hkeys := h.nodup_keys hs
  have hnode : ∀ e ∈ s.nodes, s.node? e.1 = some e.2 := by
    intro e he
    exact (Table.lookup_eq_some_iff_mem hkeys).mpr he
  constructor
  · exact hkeys
  · intro e he
    exact h.name_of_node? (hnode e he)
  · rw [h.keys_places]
    exact hs.ends
  · intro e he
    rw [h.keys_places] at he
    obtain ⟨call, hcall, rfl⟩ := List.mem_map.mp he
    obtain ⟨caller, hcaller⟩ := h.exists_node? (hs.near hcall .forward)
    obtain ⟨callee, hcallee⟩ := h.exists_node? (hs.near hcall .reverse)
    refine ⟨call, caller, callee, (h.call?_eq_some_iff hs).mpr ⟨hcall, rfl⟩, rfl, hcaller, hcallee,
      ?_, ?_⟩
    · rw [h.relations hcaller]
      exact filter_relations hs hcall .forward
    · rw [h.relations hcallee]
      exact filter_relations hs hcall .reverse
  · intro name n hn d place hplace
    rw [h.listed name n hn d, mem_placesOf_iff] at hplace
    obtain ⟨e, he, hnear⟩ := hplace
    obtain ⟨call, hcall, rfl⟩ := by
      rw [List.getElem?_map, Option.map_eq_some_iff] at he
      exact he
    refine ⟨call, ?_, ?_, (h.lookup_places hs).mpr he⟩
    · rw [h.calls]
      exact hcall
    · simpa using hnear
  · intro name n hn d
    rw [h.relations hn d]
    exact hs.ends.sublist (List.filter_sublist.map Call.ends)
  · intro d
    have hlists : (s.nodes.flatMap fun e => e.2.listed d)
        = (Table.keys s.nodes).flatMap fun name =>
            placesOf (fun e => e.near d = name) (g.calls.map Call.ends) := by
      rw [Table.keys, List.flatMap_map]
      apply List.flatMap_congr
      intro e he
      exact h.listed e.1 e.2 (hnode e he) d
    rw [hlists, h.names, length_flatMap_placesOf hs d, callCount, h.places, List.length_zipIdx,
      List.length_map]

/-! ## Leading on -/

theorem mem_neighbours_iff (hs : g.Sound) (d : Direction) (u v : String) :
    v ∈ (g.neighbours d u).map (·.1.name) ↔ ∃ c ∈ g.calls, c.near d = u ∧ c.far d = v := by
  unfold Graph.neighbours
  constructor
  · intro h
    obtain ⟨e, he, rfl⟩ := List.mem_map.mp h
    obtain ⟨c, hc, hfound⟩ := List.mem_filterMap.mp he
    obtain ⟨t, ht, rfl⟩ := Option.map_eq_some_iff.mp hfound
    obtain ⟨hmem, hnear⟩ := List.mem_filter.mp hc
    exact ⟨c, hmem, of_decide_eq_true hnear, (Graph.name_of_find? ht).symm⟩
  · rintro ⟨c, hc, rfl, rfl⟩
    obtain ⟨t, ht⟩ := Option.isSome_iff_exists.mp (Graph.contains_iff.mpr (hs.far c hc d))
    refine List.mem_map.mpr ⟨(t, c), List.mem_filterMap.mpr ⟨c, ?_, ?_⟩, Graph.name_of_find? ht⟩
    · exact List.mem_filter.mpr ⟨hc, decide_eq_true rfl⟩
    · rw [ht]
      rfl

theorem Keeps.leads_iff (h : s.Keeps g) (hs : g.Sound) (d : Direction) (u v : String) :
    s.Leads d u v ↔ ∃ c ∈ g.calls, c.near d = u ∧ c.far d = v := by
  rw [← mem_neighbours_iff hs]
  -- the neighbours in the store have the names of those in the graph
  have hnames : ∀ n next, s.node? u = some n → s.neighbours d n = .ok next →
      next.map (·.1.name) = (g.neighbours d u).map (·.1.name) := by
    intro n next hn hnext
    obtain ⟨next', hnext', hsymbols⟩ := h.neighbours hs hn d
    obtain rfl : next = next' := Except.ok.inj (hnext.symm.trans hnext')
    rw [← hsymbols, List.map_map]
    rfl
  constructor
  · rintro ⟨n, next, hn, hnext, hv⟩
    rwa [hnames n next hn hnext] at hv
  · intro hv
    obtain ⟨c, hc, rfl, -⟩ := (mem_neighbours_iff hs d u v).mp hv
    obtain ⟨n, hn⟩ := h.exists_node? (hs.near hc d)
    obtain ⟨next, hnext, -⟩ := h.neighbours hs hn d
    refine ⟨n, next, hn, hnext, ?_⟩
    rwa [hnames n next hn hnext]

/-! ## Any operations in a row -/

open Operation (told)

/-- A call has all sites that were told for its ends. -/
theorem call?_run (operations : List Operation) (e : Ends) :
    (run operations).call? e.caller e.callee
      = if e ∈ (told operations).map Call.ends then
          some { caller := e.caller, callee := e.callee, sites := Call.sitesOf (told operations) e }
        else none := by
  have hkeeps := run_keeps operations
  have hsound := Graph.sound_after operations
  split
  · next he =>
    rw [hkeeps.call?_eq_some_iff hsound, Graph.calls_after, Call.mem_joined_iff]
    exact ⟨⟨he, rfl⟩, rfl⟩
  · next he =>
    rw [Option.eq_none_iff_forall_ne_some]
    intro call hcall
    rw [hkeeps.call?_eq_some_iff hsound, Graph.calls_after, Call.mem_joined_iff] at hcall
    obtain ⟨⟨htold, -⟩, hends⟩ := hcall
    rw [hends] at htold
    exact he htold

/-- Whatever is done with a store in whatever order: the table of calls and the lists of the symbols
    agree, a call has all sites that were told for its ends, no neighbour is ever missing, and one
    symbol leads forward to another just if the other leads back to it. -/
theorem run_consistent (operations : List Operation) :
    (run operations).Consistent ∧
    (∀ e : Ends, (run operations).call? e.caller e.callee
      = if e ∈ (told operations).map Call.ends then
          some { caller := e.caller, callee := e.callee, sites := Call.sitesOf (told operations) e }
        else none) ∧
    (∀ name n, (run operations).node? name = some n → ∀ d,
      ∃ next, (run operations).neighbours d n = .ok next) ∧
    ∀ u v, (run operations).Leads .forward u v ↔ (run operations).Leads .reverse v u := by
  have hkeeps := run_keeps operations
  have hsound := Graph.sound_after operations
  refine ⟨hkeeps.consistent hsound, ?_, ?_, ?_⟩
  · exact call?_run operations
  · intro name n hn d
    obtain ⟨next, hnext, -⟩ := hkeeps.neighbours hsound hn d
    exact ⟨next, hnext⟩
  · intro u v
    rw [hkeeps.leads_iff hsound, hkeeps.leads_iff hsound]
    constructor
    · rintro ⟨c, hc, hu, hv⟩
      exact ⟨c, hc, hv, hu⟩
    · rintro ⟨c, hc, hv, hu⟩
      exact ⟨c, hc, hu, hv⟩

-- a symbol that calls itself before it is declared
example : (run [.connect "a" "a" ["x"], .declare { name := "a", file := some "a.c" } [],
    .connect "a" "a" ["y"]]).call? "a" "a"
      = some { caller := "a", callee := "a", sites := ["x", "y"] } := by rfl

end Store

end CallExcerpt
