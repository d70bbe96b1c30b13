import CallExcerpt.Graph.Store
import CallExcerpt.Proofs.Firsts
import Mathlib.Data.List.Induction
import Mathlib.Data.List.Nodup

/-! # Building graphs

    What declaring symbols and connecting them makes of a graph, told by the
    symbols and the calls that it was built from.

    * `Call.joined`: calls that were told one by one, each pair of ends once
      with all its sites.
    * `names_declare`, `names_connect`: a name that is new goes last, and no
      name is taken away.
    * `find?_declare`, `find?_connect`: the symbols.
    * `calls_connect`: a graph whose calls were joined stays one.
    * `Sound`: each name and each pair of ends is there once, and the ends of
      all calls are there; kept by building.
    * `names_after`, `calls_after`: a graph after operations in a row.
    * `settled`, `find?_after_building`: symbols that are declared several
      times.
-/

namespace CallExcerpt

/-! ## Calls that are told one by one -/

namespace Call

theorem far_eq_of_ends_eq {b c : Call} (h : c.ends = b.ends) (d : Direction) :
    c.far d = b.far d := by
  obtain ⟨hcaller, hcallee⟩ := Ends.mk.inj h
  cases d with
  | forward => exact hcallee
  | reverse => exact hcaller

/-- All sites that were told for a pair of ends, in their order. -/
def sitesOf (told : List Call) (e : Ends) : List String :=
  (told.filter fun c => c.ends = e).flatMap (·.sites)

/-- The calls that were told, each pair of ends once, with all its sites. -/
def joined (told : List Call) : List Call :=
  (told.map ends).eraseDups.map fun e =>
    { caller := e.caller, callee := e.callee, sites := sitesOf told e }

@[simp] theorem ends_joined (told : List Call) :
    (joined told).map ends = (told.map ends).eraseDups := by
  simp [joined, ends, Function.comp_def]

theorem mem_joined_iff {told : List Call} {c : Call} :
    c ∈ joined told ↔ c.ends ∈ told.map ends ∧ c.sites = sitesOf told c.ends := by
  unfold joined
  constructor
  · intro h
    obtain ⟨e, he, rfl⟩ := List.mem_map.mp h
    exact ⟨List.mem_eraseDups.mp he, rfl⟩
  · rintro ⟨hends, hsites⟩
    refine List.mem_map.mpr ⟨c.ends, List.mem_eraseDups.mpr hends, ?_⟩
    rw [← hsites]
    rfl

theorem sitesOf_concat (told : List Call) (c : Call) (e : Ends) :
    sitesOf (told ++ [c]) e = sitesOf told e ++ if c.ends = e then c.sites else [] := by
  unfold sitesOf
  by_cases he : c.ends = e
  · simp [he]
  · simp [he]

theorem sitesOf_of_not_mem {told : List Call} {e : Ends} (h : e ∉ told.map ends) :
    sitesOf told e = [] := by
  have hnone : (told.filter fun c => decide (c.ends = e)) = [] := by
    rw [List.filter_eq_nil_iff]
    intro c hc hce
    exact h (List.mem_map.mpr ⟨c, hc, of_decide_eq_true hce⟩)
  unfold sitesOf
  rw [hnone, List.flatMap_nil]

/-- A call that is told last joins the one with its ends, or goes last itself. -/
theorem joined_concat (told : List Call) (c : Call) :
    joined (told ++ [c])
      = if c.ends ∈ told.map ends then
          (joined told).map fun b =>
            if b.ends = c.ends then { b with sites := b.sites ++ c.sites } else b
        else joined told ++ [c] := by
  have hother : ∀ e : Ends, e ≠ c.ends → sitesOf (told ++ [c]) e = sitesOf told e := by
    intro e he
    rw [sitesOf_concat, if_neg (Ne.symm he), List.append_nil]
  have hsame : sitesOf (told ++ [c]) c.ends = sitesOf told c.ends ++ c.sites := by
    rw [sitesOf_concat, if_pos rfl]
  unfold joined
  rw [List.map_append, List.map_singleton, Firsts.eraseDups_concat]
  by_cases hc : c.ends ∈ told.map ends
  · rw [if_pos hc, if_pos hc, List.map_map]
    refine List.map_congr_left ?_
    intro e _
    by_cases he : e = c.ends
    · rw [he, hsame]
      exact (if_pos rfl).symm
    · rw [hother e he]
      exact (if_neg he).symm
  · rw [if_neg hc, if_neg hc, List.map_append, List.map_singleton, hsame,
      sitesOf_of_not_mem hc, List.nil_append]
    congr 1
    refine List.map_congr_left ?_
    intro e he
    have hne : e ≠ c.ends := by
      rintro rfl
      exact hc (List.mem_eraseDups.mp he)
    rw [hother e hne]

end Call

namespace Graph

variable {g : Graph}

/-! ## Names -/

/-- The names of the symbols, in their order. -/
def names (g : Graph) : List String := g.symbols.map (·.name)

theorem contains_iff {name : String} : g.contains name = true ↔ name ∈ g.names := by
  simp [contains, find?, names]

/-- Where each name is there once, each symbol is found under its name. -/
theorem map_some_symbols (h : g.names.Nodup) : g.symbols.map some = g.names.map g.find? := by
  rw [names, List.map_map]
  refine List.map_congr_left ?_
  intro t ht
  have hfound : (g.find? t.name).isSome = true := contains_iff.mpr (List.mem_map.mpr ⟨t, ht, rfl⟩)
  obtain ⟨t', ht'⟩ := Option.isSome_iff_exists.mp hfound
  have hmem : t' ∈ g.symbols := List.mem_of_find?_eq_some ht'
  have hsame : t' = t := List.inj_on_of_nodup_map h hmem ht (name_of_find? ht')
  rw [Function.comp_apply, ht', hsame]

/-- A symbol that was met in a call only. -/
def external (name : String) : Symbol := { name, defined := false }

@[simp] theorem name_merge (before now : Symbol) : (merge before now).name = before.name := by
  unfold merge
  split <;> rfl

/-- What a declaration makes of the symbol that had its name before, if there was one. -/
def declared (before : Option Symbol) (s : Symbol) : Symbol := (before.map (merge · s)).getD s

theorem find?_append_singleton (symbols : List Symbol) (calls : List Call) (s : Symbol)
    (name : String) :
    ({ symbols := symbols ++ [s], calls } : Graph).find? name
      = (({ symbols, calls } : Graph).find? name).or (if s.name = name then some s else none) := by
  simp [find?, List.find?_append, List.find?_singleton]

theorem find?_declare (g : Graph) (s : Symbol) (name : String) :
    (g.declare s).find? name
      = if name = s.name then some (declared (g.find? name) s) else g.find? name := by
  unfold declare
  by_cases hin : g.contains s.name = true
  · rw [if_pos hin]
    -- what was declared again keeps its name, so that it is found where it was
    have hkept : ∀ t : Symbol, (if t.name = s.name then merge t s else t).name = t.name := by
      intro t
      split
      · exact name_merge t s
      · rfl
    simp only [find?, List.find?_map, Function.comp_def, hkept]
    by_cases hname : name = s.name
    · subst hname
      obtain ⟨t, ht⟩ := Option.isSome_iff_exists.mp hin
      have htname : t.name = s.name := name_of_find? ht
      have hfound : g.symbols.find? (fun t => decide (t.name = s.name)) = some t := ht
      simp [hfound, htname, declared]
    · rw [if_neg hname]
      cases hfound : g.symbols.find? fun t => decide (t.name = name) with
      | none => rfl
      | some t =>
        have htname : t.name = name := by simpa using List.find?_some hfound
        have hne : t.name ≠ s.name := htname ▸ hname
        simp [hne]
  · rw [if_neg hin]
    have hnone : g.find? s.name = none := by simpa [contains] using hin
    rw [find?_append_singleton g.symbols g.calls s name]
    by_cases hname : name = s.name
    · subst hname
      simp [hnone, declared]
    · simp [hname, Ne.symm hname]

theorem find?_ensure (g : Graph) (name other : String) :
    (g.ensure name).find? other
      = (g.find? other).or (if other = name then some (external other) else none) := by
  unfold ensure
  by_cases hin : g.contains name = true
  · rw [if_pos hin]
    by_cases hname : other = name
    · subst hname
      obtain ⟨t, ht⟩ := Option.isSome_iff_exists.mp hin
      simp [ht]
    · simp [hname]
  · rw [if_neg hin, find?_append_singleton g.symbols g.calls]
    congr 1
    by_cases hname : other = name
    · simp [external, hname]
    · simp [hname, Ne.symm hname]

/-! ## Names of what is built -/

theorem names_declare (h : g.names.Nodup) (s : Symbol) :
    (g.declare s).names = (g.names ++ [s.name]).eraseDups := by
  rw [Firsts.eraseDups_concat, Firsts.eraseDups_of_nodup h]
  unfold declare
  by_cases hin : g.contains s.name = true
  · rw [if_pos hin, if_pos (contains_iff.mp hin)]
    simp only [names, List.map_map]
    refine List.map_congr_left ?_
    intro t _
    simp only [Function.comp_apply]
    split
    · exact name_merge t s
    · rfl
  · rw [if_neg hin, if_neg (mt contains_iff.mpr hin)]
    simp [names]

theorem names_ensure (h : g.names.Nodup) (name : String) :
    (g.ensure name).names = (g.names ++ [name]).eraseDups := by
  rw [Firsts.eraseDups_concat, Firsts.eraseDups_of_nodup h]
  unfold ensure
  by_cases hin : g.contains name = true
  · rw [if_pos hin, if_pos (contains_iff.mp hin)]
  · rw [if_neg hin, if_neg (mt contains_iff.mpr hin)]
    simp [names]

/-! ## Calls -/

@[simp] theorem calls_declare (g : Graph) (s : Symbol) : (g.declare s).calls = g.calls := by
  unfold declare
  split
  · rfl
  · rfl

@[simp] theorem calls_ensure (g : Graph) (name : String) : (g.ensure name).calls = g.calls := by
  unfold ensure
  split
  · rfl
  · rfl

theorem isSome_call?_iff {caller callee : String} :
    (g.call? caller callee).isSome = true ↔ (⟨caller, callee⟩ : Ends) ∈ g.calls.map Call.ends := by
  simp [call?, Call.ends]

/-- A call between ends that were connected before. -/
theorem connect_of_mem {caller callee : String}
    (h : (⟨caller, callee⟩ : Ends) ∈ g.calls.map Call.ends) (sites : List String) :
    g.connect caller callee sites = { g with calls := g.calls.map fun c =>
      if c.ends = ⟨caller, callee⟩ then { c with sites := c.sites ++ sites } else c } := by
  unfold connect
  rw [if_pos (isSome_call?_iff.mpr h)]
  simp [Call.ends]

/-- A call between ends that were not connected before. -/
theorem connect_of_not_mem {caller callee : String}
    (h : (⟨caller, callee⟩ : Ends) ∉ g.calls.map Call.ends) (sites : List String) :
    g.connect caller callee sites
      = { (g.ensure caller).ensure callee with calls := g.calls ++ [{ caller, callee, sites }] } := by
  unfold connect
  rw [if_neg (mt isSome_call?_iff.mp h)]
  simp only [calls_ensure]

/-- A new call may be connected before its sites are told. -/
theorem connect_connect {caller callee : String}
    (h : (⟨caller, callee⟩ : Ends) ∉ g.calls.map Call.ends) (sites : List String) :
    (g.connect caller callee []).connect caller callee sites = g.connect caller callee sites := by
  have hmem : (⟨caller, callee⟩ : Ends) ∈ (g.connect caller callee []).calls.map Call.ends := by
    rw [connect_of_not_mem h]
    simp [Call.ends]
  have hothers : (g.calls.map fun c =>
      if c.ends = ⟨caller, callee⟩ then { c with sites := c.sites ++ sites } else c) = g.calls := by
    refine (List.map_congr_left ?_).trans (List.map_id g.calls)
    intro c hc
    have hne : c.ends ≠ ⟨caller, callee⟩ := by
      intro hends
      exact h (List.mem_map.mpr ⟨c, hc, hends⟩)
    exact if_neg hne
  rw [connect_of_mem hmem, connect_of_not_mem h, connect_of_not_mem h]
  simp only [List.map_append, List.map_singleton, hothers]
  simp [Call.ends]

theorem calls_connect {told : List Call} (h : g.calls = Call.joined told) (c : Call) :
    (g.connect c.caller c.callee c.sites).calls = Call.joined (told ++ [c]) := by
  have hends : c.ends ∈ g.calls.map Call.ends ↔ c.ends ∈ told.map Call.ends := by
    rw [h, Call.ends_joined, List.mem_eraseDups]
  rw [Call.joined_concat]
  by_cases hc : c.ends ∈ told.map Call.ends
  · rw [if_pos hc, connect_of_mem (hends.mpr hc), h]
    rfl
  · rw [if_neg hc, connect_of_not_mem (mt hends.mp hc), h]

/-! ## Soundness -/

/-- Each name and each pair of ends is there once, and the ends of all calls are there. -/
structure Sound (g : Graph) : Prop where
  names : g.names.Nodup
  ends : (g.calls.map Call.ends).Nodup
  far : ∀ c ∈ g.calls, ∀ d, c.far d ∈ g.names

theorem Sound.near (h : g.Sound) {c : Call} (hc : c ∈ g.calls) (d : Direction) :
    c.near d ∈ g.names := by
  cases d with
  | forward => exact h.far c hc .reverse
  | reverse => exact h.far c hc .forward

/-- No two calls of a symbol lead to the same one. -/
theorem Sound.nodup_far (h : g.Sound) (d : Direction) (name : String) :
    ((g.relations d name).map (Call.far d)).Nodup := by
  have hends : ((g.relations d name).map Call.ends).Nodup :=
    h.ends.sublist (List.filter_sublist.map Call.ends)
  refine List.Nodup.map_on ?_ hends.of_map
  intro b hb c hc hfar
  refine List.inj_on_of_nodup_map hends hb hc ?_
  have hnear : b.near d = c.near d :=
    (of_decide_eq_true (List.mem_filter.mp hb).2).trans
      (of_decide_eq_true (List.mem_filter.mp hc).2).symm
  cases d with
  | forward => exact congrArg₂ Ends.mk hnear hfar
  | reverse => exact congrArg₂ Ends.mk hfar hnear

theorem Sound.empty : Sound {} where
  names := List.nodup_nil
  ends := List.nodup_nil
  far := by
    intro c hc
    cases hc

theorem Sound.declare (h : g.Sound) (s : Symbol) : (g.declare s).Sound := by
  constructor
  · rw [names_declare h.names]
    exact Firsts.nodup_eraseDups _
  · rw [calls_declare]
    exact h.ends
  · intro c hc d
    rw [calls_declare] at hc
    rw [names_declare h.names, List.mem_eraseDups, List.mem_append]
    exact .inl (h.far c hc d)

/-- A pair of ends that is new goes last. -/
theorem ends_connect (h : (g.calls.map Call.ends).Nodup) (caller callee : String)
    (sites : List String) :
    (g.connect caller callee sites).calls.map Call.ends
      = (g.calls.map Call.ends ++ [(⟨caller, callee⟩ : Ends)]).eraseDups := by
  rw [Firsts.eraseDups_concat, Firsts.eraseDups_of_nodup h]
  by_cases hc : (⟨caller, callee⟩ : Ends) ∈ g.calls.map Call.ends
  · rw [if_pos hc, connect_of_mem hc, List.map_map]
    refine List.map_congr_left ?_
    intro c _
    simp only [Function.comp_apply]
    -- sites that join a call leave its ends as they are
    split
    · rfl
    · rfl
  · rw [if_neg hc, connect_of_not_mem hc, List.map_append]
    rfl

/-- Both ends of a call are there. -/
theorem Sound.mem_names (h : g.Sound) {caller callee : String}
    (hc : (⟨caller, callee⟩ : Ends) ∈ g.calls.map Call.ends) :
    caller ∈ g.names ∧ callee ∈ g.names := by
  obtain ⟨c, hmem, hends⟩ := List.mem_map.mp hc
  obtain ⟨rfl, rfl⟩ := Ends.mk.inj hends
  exact ⟨h.far c hmem .reverse, h.far c hmem .forward⟩

theorem names_connect (h : g.Sound) (caller callee : String) (sites : List String) :
    (g.connect caller callee sites).names = (g.names ++ [caller, callee]).eraseDups := by
  by_cases hc : (⟨caller, callee⟩ : Ends) ∈ g.calls.map Call.ends
  · -- the call is there, and so are its ends
    obtain ⟨hcaller, hcallee⟩ := h.mem_names hc
    rw [connect_of_mem hc, Firsts.eraseDups_append_of_subset (by simp [hcaller, hcallee]),
      Firsts.eraseDups_of_nodup h.names]
    rfl
  · have hensure : (g.ensure caller).names = (g.names ++ [caller]).eraseDups :=
      names_ensure h.names caller
    have hnodup : (g.ensure caller).names.Nodup := by
      rw [hensure]
      exact Firsts.nodup_eraseDups _
    calc (g.connect caller callee sites).names
        = ((g.ensure caller).ensure callee).names := by rw [connect_of_not_mem hc]; rfl
      _ = ((g.ensure caller).names ++ [callee]).eraseDups := names_ensure hnodup callee
      _ = (g.names ++ [caller] ++ [callee]).eraseDups := by
          rw [hensure, Firsts.eraseDups_eraseDups_append]
      _ = (g.names ++ [caller, callee]).eraseDups := by rw [List.append_assoc, List.cons_append,
          List.nil_append]

theorem Sound.connect (h : g.Sound) (caller callee : String) (sites : List String) :
    (g.connect caller callee sites).Sound := by
  constructor
  · rw [names_connect h]
    exact Firsts.nodup_eraseDups _
  · rw [ends_connect h.ends]
    exact Firsts.nodup_eraseDups _
  · intro c hc d
    have hends : c.ends ∈ (g.connect caller callee sites).calls.map Call.ends :=
      List.mem_map_of_mem hc
    rw [ends_connect h.ends, List.mem_eraseDups, List.mem_append, List.mem_singleton] at hends
    rw [names_connect h, List.mem_eraseDups, List.mem_append]
    rcases hends with hold | hnew
    · left
      obtain ⟨b, hb, hsame⟩ := List.mem_map.mp hold
      rw [Call.far_eq_of_ends_eq hsame.symm]
      exact h.far b hb d
    · right
      obtain ⟨rfl, rfl⟩ := Ends.mk.inj hnew
      cases d with
      | forward => exact List.mem_cons_of_mem _ List.mem_cons_self
      | reverse => exact List.mem_cons_self

/-! ## Symbols -/

theorem find?_connect (h : g.Sound) (caller callee : String) (sites : List String) (name : String) :
    (g.connect caller callee sites).find? name
      = (g.find? name).or (if name ∈ [caller, callee] then some (external name) else none) := by
  by_cases hc : (⟨caller, callee⟩ : Ends) ∈ g.calls.map Call.ends
  · rw [connect_of_mem hc]
    obtain ⟨hcaller, hcallee⟩ := h.mem_names hc
    have hkept : name ∈ [caller, callee] → (g.find? name).isSome = true := by
      intro hname
      apply contains_iff.mpr
      obtain rfl | rfl : name = caller ∨ name = callee := by simpa using hname
      · exact hcaller
      · exact hcallee
    change g.find? name = _
    split
    · next hname =>
      obtain ⟨t, ht⟩ := Option.isSome_iff_exists.mp (hkept hname)
      rw [ht, Option.some_or]
    · rw [Option.or_none]
  · rw [connect_of_not_mem hc]
    change ((g.ensure caller).ensure callee).find? name = _
    rw [find?_ensure, find?_ensure, Option.or_assoc]
    congr 1
    by_cases hcaller : name = caller
    · simp [hcaller]
    · rw [if_neg hcaller, Option.none_or]
      simp [hcaller]

end Graph

/-! ## Operations in a row -/

namespace Store.Operation

/-- The names that an operation brings, in their order. -/
def names : Operation → List String
  | .declare symbol _ => [symbol.name]
  | .connect caller callee _ => [caller, callee]
  | _ => []

/-- The call that an operation tells. -/
def call? : Operation → Option Call
  | .connect caller callee sites => some { caller, callee, sites }
  | _ => none

/-- The calls that operations tell one by one. -/
def told (operations : List Operation) : List Call := operations.filterMap call?

theorem told_concat (operations : List Operation) (o : Operation) :
    told (operations ++ [o]) = told operations ++ o.call?.toList := by
  unfold told
  rw [List.filterMap_append]
  cases h : o.call? with
  | none => rw [List.filterMap_cons_none h, List.filterMap_nil, Option.toList_none]
  | some c => rw [List.filterMap_cons_some h, List.filterMap_nil, Option.toList_some]

end Store.Operation

namespace Graph

open Store (Operation)

/-- The graph after an operation. -/
def perform (g : Graph) : Operation → Graph
  | .declare symbol _ => g.declare symbol
  | .connect caller callee sites => g.connect caller callee sites
  | _ => g

/-- The graph after operations in a row on an empty one. -/
def after (operations : List Operation) : Graph := operations.foldl perform {}

theorem after_concat (operations : List Operation) (o : Operation) :
    after (operations ++ [o]) = (after operations).perform o := by
  simp [after]

theorem Sound.perform {g : Graph} (h : g.Sound) (o : Operation) : (g.perform o).Sound := by
  cases o with
  | declare symbol style => exact h.declare symbol
  | connect caller callee sites => exact h.connect caller callee sites
  | set name key value => exact h
  | reset => exact h

theorem sound_after (operations : List Operation) : (after operations).Sound := by
  induction operations using List.reverseRecOn with
  | nil => exact Sound.empty
  | append_singleton operations o ih =>
    rw [after_concat]
    exact ih.perform o

theorem names_perform {g : Graph} (h : g.Sound) (o : Operation) :
    (g.perform o).names = (g.names ++ o.names).eraseDups := by
  have hsame : g.names = (g.names ++ []).eraseDups := by
    rw [List.append_nil, Firsts.eraseDups_of_nodup h.names]
  cases o with
  | declare symbol style => exact names_declare h.names symbol
  | connect caller callee sites => exact names_connect h caller callee sites
  | set name key value => exact hsame
  | reset => exact hsame

/-- The names come in the order in which operations brought them first. -/
theorem names_after (operations : List Operation) :
    (after operations).names = (operations.flatMap (·.names)).eraseDups := by
  induction operations using List.reverseRecOn with
  | nil => rfl
  | append_singleton operations o ih =>
    rw [after_concat, names_perform (sound_after operations), ih, List.flatMap_append,
      List.flatMap_singleton, Firsts.eraseDups_eraseDups_append]

theorem calls_perform {g : Graph} {told : List Call} (h : g.calls = Call.joined told)
    (o : Operation) : (g.perform o).calls = Call.joined (told ++ o.call?.toList) := by
  have hsame : g.calls = Call.joined (told ++ []) := by rw [List.append_nil, h]
  cases o with
  | declare symbol style => exact (calls_declare g symbol).trans hsame
  | connect caller callee sites => exact calls_connect h { caller, callee, sites }
  | set name key value => exact hsame
  | reset => exact hsame

/-- The calls are those that operations told, joined. -/
theorem calls_after (operations : List Operation) :
    (after operations).calls = Call.joined (Operation.told operations) := by
  induction operations using List.reverseRecOn with
  | nil => rfl
  | append_singleton operations o ih =>
    rw [after_concat, calls_perform ih, Operation.told_concat]

/-! ## Building from parts -/

open Store (building)

/-- What several declarations of one name come to: the first one that tells a definition, or else
    the first one. -/
def settled (declarations : List Symbol) : Option Symbol :=
  (declarations.find? (·.defined)).or declarations.head?

/-- Declarations come to a symbol, if there are any. -/
theorem exists_settled {declarations : List Symbol} (h : declarations ≠ []) :
    ∃ t ∈ declarations, settled declarations = some t ∧
      (t.defined = false ↔ ∀ u ∈ declarations, u.defined = false) := by
  unfold settled
  cases hdefined : declarations.find? (·.defined) with
  | some t =>
    have hmem : t ∈ declarations := List.mem_of_find?_eq_some hdefined
    refine ⟨t, hmem, rfl, ?_⟩
    constructor
    · intro ht
      have hfound := List.find?_some hdefined
      rw [ht] at hfound
      cases hfound
    · intro hall
      exact hall t hmem
  | none =>
    obtain ⟨t, others, rfl⟩ := List.exists_cons_of_ne_nil h
    have hall : ∀ u ∈ t :: others, u.defined = false := by
      intro u hu
      simpa using List.find?_eq_none.mp hdefined u hu
    refine ⟨t, List.mem_cons_self, rfl, ?_⟩
    constructor
    · intro _
      exact hall
    · intro _
      exact hall t List.mem_cons_self

theorem settled_concat {declarations : List Symbol} {s : Symbol}
    (h : ∀ t ∈ declarations, t.name = s.name) :
    settled (declarations ++ [s]) = some (declared (settled declarations) s) := by
  unfold settled
  rw [List.find?_append]
  cases hdefined : declarations.find? (·.defined) with
  | some t =>
    -- what tells a definition is not changed any more
    have ht : t.defined = true := List.find?_some hdefined
    simp [declared, merge, ht]
  | none =>
    cases declarations with
    | nil =>
      by_cases hs : s.defined = true
      · simp [declared, hs]
      · simp [declared, hs]
    | cons t declarations =>
      have ht : t.defined = false := by
        simpa using List.find?_eq_none.mp hdefined t List.mem_cons_self
      have hname : t.name = s.name := h t List.mem_cons_self
      by_cases hs : s.defined = true
      · have hmerge : merge t s = s := by
          unfold merge
          rw [if_pos (by simp [hs, ht]), hname]
        simp [declared, hs, hmerge]
      · simp [declared, merge, hs]

/-- A symbol that is declared has the data to which its declarations come; one that only calls bring
    is an extern. -/
theorem find?_after_building (symbols : List Symbol) (calls : List Call) (name : String) :
    (after (building symbols calls)).find? name
      = (settled (symbols.filter fun s => s.name = name)).or
          (if name ∈ calls.flatMap fun c => [c.caller, c.callee] then some (external name)
           else none) := by
  induction calls using List.reverseRecOn with
  | nil =>
    rw [List.flatMap_nil, if_neg List.not_mem_nil, Option.or_none]
    induction symbols using List.reverseRecOn with
    | nil => rfl
    | append_singleton symbols s ih =>
      have hlast : building (symbols ++ [s]) [] = building symbols [] ++ [.declare s []] := by
        simp [building]
      rw [hlast, after_concat, perform, find?_declare, ih, List.filter_append]
      by_cases hname : name = s.name
      · subst hname
        have hsame : ∀ t ∈ symbols.filter fun t => t.name = s.name, t.name = s.name := by
          intro t ht
          exact of_decide_eq_true (List.mem_filter.mp ht).2
        simp [settled_concat hsame]
      · simp [hname, Ne.symm hname]
  | append_singleton calls c ih =>
    have hlast : building symbols (calls ++ [c])
        = building symbols calls ++ [.connect c.caller c.callee c.sites] := by
      simp [building]
    rw [hlast, after_concat, perform, find?_connect (sound_after _), ih, Option.or_assoc,
      List.flatMap_append, List.flatMap_singleton]
    congr 1
    by_cases hold : name ∈ calls.flatMap fun c => [c.caller, c.callee]
    · rw [if_pos hold, if_pos (List.mem_append_left _ hold), Option.some_or]
    · rw [if_neg hold, Option.none_or]
      simp only [List.mem_append, hold, false_or]

theorem told_building (symbols : List Symbol) (calls : List Call) :
    Operation.told (building symbols calls) = calls := by
  unfold Operation.told building
  rw [List.filterMap_append, List.filterMap_map, List.filterMap_map]
  have hnone : symbols.filterMap (Operation.call? ∘ fun s => .declare s []) = [] := by
    rw [List.filterMap_eq_nil_iff]
    intro s _
    rfl
  have hall : calls.filterMap (Operation.call? ∘ fun c => .connect c.caller c.callee c.sites)
      = calls := List.filterMap_some
  rw [hnone, hall, List.nil_append]

theorem names_building (symbols : List Symbol) (calls : List Call) :
    (building symbols calls).flatMap (·.names)
      = symbols.map (·.name) ++ calls.flatMap fun c => [c.caller, c.callee] := by
  unfold building
  rw [List.flatMap_append, List.flatMap_map, List.flatMap_map]
  congr 1
  exact List.map_eq_flatMap.symm

end Graph

end CallExcerpt
