import CallExcerpt.Proofs.Graph.Keeping
import CallExcerpt.Proofs.Graph.Styling

/-! # Attributes laid over those of a store

    A store copies the attributes of a symbol before it changes them for the
    first time, and a reset puts each copy back. Whatever was set in between, in
    whatever order and however often, comes to nothing under the copy of its
    symbol: the reset leaves the store that was there at the start, and so do
    any number of rounds of setting and resetting.

    * `update_update`, `update_comm`, `update_of_unchanged`: of two changes of a
      symbol, of changes of two symbols, and of a change that is none.
    * `broughtBack`: the store with copies put back, as a reset does it.
    * `reset_perform_set`: to set an attribute changes nothing that a reset leaves.
    * `Setting`, `afterSettings`, `afterRounds`: attributes set in a row, and
      rounds of these with a reset after each.
    * `node?_afterSettings`, `saved_afterSettings`: the symbols and the copies in
      between.
    * `undoes_rounds`: all of this at any moment of any round.
-/

namespace CallExcerpt

namespace Store

variable {s : Store}

/-! ## Changes of symbols -/

theorem update_of_some {name : String} {n : Node} (h : s.node? name = some n)
    (change : Node → Node) :
    s.update name change = { s with nodes := Table.put name (change n) s.nodes } := by
  unfold update
  rw [h]

theorem update_of_none {name : String} (h : s.node? name = none) (change : Node → Node) :
    s.update name change = s := by
  unfold update
  rw [h]

/-- Of two changes of a symbol the second one sees the first one. -/
theorem update_update (s : Store) (name : String) (change later : Node → Node) :
    (s.update name change).update name later = s.update name fun n => later (change n) := by
  cases h : s.node? name with
  | none => rw [update_of_none h, update_of_none h, update_of_none h]
  | some n =>
    have hchanged : (s.update name change).node? name = some (change n) := by
      rw [node?_update, if_pos rfl, h]
      rfl
    rw [update_of_some hchanged, update_of_some h, update_of_some h]
    exact congrArg (fun nodes => { s with nodes }) (Table.put_put name _ _ s.nodes)

/-- Changes of two symbols can change places. -/
theorem update_comm (s : Store) {name other : String} (hne : name ≠ other)
    (change change' : Node → Node) :
    (s.update name change).update other change' = (s.update other change').update name change := by
  have hother : (s.update name change).node? other = s.node? other := by
    rw [node?_update, if_neg (Ne.symm hne)]
  have hname : (s.update other change').node? name = s.node? name := by
    rw [node?_update, if_neg hne]
  cases hn : s.node? name with
  | none => rw [update_of_none hn, update_of_none (hname.trans hn)]
  | some n =>
    cases ho : s.node? other with
    | none => rw [update_of_none (hother.trans ho), update_of_none ho]
    | some m =>
      have hmem : other ∈ Table.keys s.nodes := mem_keys_iff.mpr (Option.isSome_of_eq_some ho)
      rw [update_of_some (hother.trans ho), update_of_some (hname.trans hn), update_of_some hn,
        update_of_some ho]
      exact congrArg (fun nodes => { s with nodes })
        (Table.put_comm (Ne.symm hne) hmem (change' m) (change n))

theorem update_of_unchanged {name : String} {n : Node} (h : s.node? name = some n)
    {change : Node → Node} (hsame : change n = n) : s.update name change = s := by
  rw [update_of_some h, hsame, Table.put_of_lookup h]

theorem update_withSaved (s : Store) (saved : List (String × Style)) (name : String)
    (change : Node → Node) :
    ({ s with saved } : Store).update name change = { s.update name change with saved } := by
  cases h : s.node? name with
  | none =>
    have hsaved : ({ s with saved } : Store).node? name = none := h
    rw [update_of_none h, update_of_none hsaved]
  | some n =>
    have hsaved : ({ s with saved } : Store).node? name = some n := h
    rw [update_of_some h, update_of_some hsaved]

/-! ## Putting copies back -/

/-- The store with copies of attributes put back. -/
def broughtBack (s : Store) (copies : List (String × Style)) : Store :=
  copies.foldl (fun s e => s.update e.1 fun n => { n with style := e.2 }) s

theorem reset_eq (s : Store) : s.reset = { s.broughtBack s.saved with saved := [] } := rfl

theorem broughtBack_withSaved (s : Store) (saved copies : List (String × Style)) :
    ({ s with saved } : Store).broughtBack copies = { s.broughtBack copies with saved } := by
  induction copies generalizing s with
  | nil => rfl
  | cons e copies ih =>
    show (({ s with saved } : Store).update e.1 _).broughtBack copies = _
    rw [update_withSaved, ih]
    rfl

/-- Under the copy of its symbol a change of attributes comes to nothing. -/
theorem broughtBack_update_of_mem {name : String} {copies : List (String × Style)}
    (h : name ∈ Table.keys copies) {change : Node → Node}
    (hrest : ∀ n style, { change n with style } = { n with style }) (s : Store) :
    (s.update name change).broughtBack copies = s.broughtBack copies := by
  induction copies generalizing s with
  | nil => cases h
  | cons e copies ih =>
    show ((s.update name change).update e.1 _).broughtBack copies = (s.update e.1 _).broughtBack copies
    -- its own copy wipes the change out; past the copy of another symbol it moves on
    by_cases hsame : name = e.1
    · rw [hsame, update_update]
      simp only [hrest]
    · have hcopies : name ∈ Table.keys copies := (List.mem_cons.mp h).resolve_left hsame
      rw [update_comm s hsame, ih hcopies]

/-- A change of a symbol without a copy can come after the copies are put back. -/
theorem broughtBack_update_of_not_mem {name : String} {copies : List (String × Style)}
    (h : name ∉ Table.keys copies) (change : Node → Node) (s : Store) :
    (s.update name change).broughtBack copies = (s.broughtBack copies).update name change := by
  induction copies generalizing s with
  | nil => rfl
  | cons e copies ih =>
    obtain ⟨hne, hcopies⟩ : name ≠ e.1 ∧ name ∉ Table.keys copies := by
      simpa [Table.keys] using h
    show ((s.update name change).update e.1 _).broughtBack copies = _
    rw [update_comm s hne, ih hcopies]
    rfl

theorem node?_broughtBack_of_not_mem {name : String} {copies : List (String × Style)}
    (h : name ∉ Table.keys copies) (s : Store) :
    (s.broughtBack copies).node? name = s.node? name := by
  induction copies generalizing s with
  | nil => rfl
  | cons e copies ih =>
    obtain ⟨hne, hcopies⟩ : name ≠ e.1 ∧ name ∉ Table.keys copies := by
      simpa [Table.keys] using h
    show ((s.update e.1 _).broughtBack copies).node? name = _
    rw [ih hcopies, node?_update, if_neg hne]

theorem reset_reset (s : Store) : s.reset.reset = s.reset := rfl

theorem reset_of_no_copies (h : s.saved = []) : s.reset = s := by
  obtain ⟨nodes, calls, places, saved⟩ := s
  obtain rfl : saved = [] := h
  rfl

/-! ## One attribute -/

/-- What is kept of the attributes of a symbol when one is set: a copy, unless there is one. -/
def savedFor (s : Store) (name : String) (style : Style) : List (String × Style) :=
  if (s.saved.lookup name).isSome then s.saved else Table.put name style s.saved

theorem savedFor_of_mem {name : String} (h : name ∈ Table.keys s.saved) (style : Style) :
    s.savedFor name style = s.saved := if_pos (Table.mem_keys_iff.mp h)

theorem savedFor_of_not_mem {name : String} (h : name ∉ Table.keys s.saved) (style : Style) :
    s.savedFor name style = s.saved ++ [(name, style)] := by
  rw [savedFor, if_neg (mt Table.mem_keys_iff.mpr h), Table.put_of_not_mem h]

theorem set_of_none {name : String} (h : s.node? name = none) (key value : String) :
    s.set name key value = .error (.unknownSymbol name) := by
  unfold set resolve
  rw [h]
  rfl

theorem set_of_some {name : String} {n : Node} (h : s.node? name = some n) (key value : String) :
    s.set name key value = .ok (({ s with saved := s.savedFor name n.style } : Store).put name key
      value) := by
  unfold set resolve
  rw [h]
  rfl

theorem perform_set_of_none {name : String} (h : s.node? name = none) (key value : String) :
    s.perform (.set name key value) = s := by
  unfold perform
  simp only [set_of_none h]

theorem perform_set_of_some {name : String} {n : Node} (h : s.node? name = some n)
    (key value : String) :
    s.perform (.set name key value)
      = { s.put name key value with saved := s.savedFor name n.style } := by
  unfold perform
  simp only [set_of_some h]
  exact update_withSaved s _ name _

/-- To set an attribute changes nothing that a reset leaves. -/
theorem reset_perform_set (s : Store) (name key value : String) :
    (s.perform (.set name key value)).reset = s.reset := by
  cases h : s.node? name with
  | none => rw [perform_set_of_none h]
  | some n =>
    rw [perform_set_of_some h, reset_eq, broughtBack_withSaved]
    show { (s.put name key value).broughtBack (s.savedFor name n.style) with saved := [] } = s.reset
    rw [reset_eq]
    by_cases hkept : name ∈ Table.keys s.saved
    · rw [savedFor_of_mem hkept, put, broughtBack_update_of_mem hkept]
      intro m style
      rfl
    · -- the copy that is made now is put back last, over attributes that no other copy touched
      have hback : (s.broughtBack s.saved).node? name = some n := by
        rw [node?_broughtBack_of_not_mem hkept, h]
      have hlast : (s.put name key value).broughtBack (s.saved ++ [(name, n.style)])
          = s.broughtBack s.saved := by
        calc (s.put name key value).broughtBack (s.saved ++ [(name, n.style)])
            = ((s.put name key value).broughtBack s.saved).update name
                fun m => { m with style := n.style } := List.foldl_append
          _ = ((s.broughtBack s.saved).put name key value).update name
                fun m => { m with style := n.style } := by
              rw [put, broughtBack_update_of_not_mem hkept]
              rfl
          _ = (s.broughtBack s.saved).update name fun m => { m with style := n.style } :=
              update_update _ name _ _
          _ = s.broughtBack s.saved := update_of_unchanged hback rfl
      rw [savedFor_of_not_mem hkept, hlast]

/-- What one setting makes of the symbols. -/
theorem node?_perform_set (s : Store) (name key value other : String) :
    (s.perform (.set name key value)).node? other
      = (s.node? other).map fun n =>
          if other = name then { n with style := Table.put key value n.style } else n := by
  have hput : (s.put name key value).node? other
      = (s.node? other).map fun n =>
          if other = name then { n with style := Table.put key value n.style } else n := by
    rw [put, node?_update]
    split
    · rfl
    · exact Option.map_id'.symm
  cases h : s.node? name with
  | none =>
    have hnone : s.put name key value = s := update_of_none h _
    rw [perform_set_of_none h, ← hput, hnone]
  | some n =>
    rw [perform_set_of_some h, ← hput]
    rfl

/-- What depends neither on single symbols nor on the copies stays when an attribute is set. -/
theorem view_perform_set {α : Type} (view : Store → α)
    (hupdate : ∀ s name change, view (s.update name change) = view s)
    (hsaved : ∀ (s : Store) saved, view { s with saved } = view s) (s : Store)
    (name key value : String) : view (s.perform (.set name key value)) = view s := by
  cases h : s.node? name with
  | none => rw [perform_set_of_none h]
  | some n => rw [perform_set_of_some h, hsaved, put, hupdate]

/-! ## Attributes in a row -/

/-- An attribute to be set until the next reset. -/
structure Setting where
  /-- The symbol that gets it. -/
  name : String
  /-- The key. -/
  key : String
  /-- The value. -/
  value : String
  deriving Repr, DecidableEq

/-- The store after attributes are set in a row; one that fails leaves it as it was. -/
def afterSettings (s : Store) (settings : List Setting) : Store :=
  settings.foldl (fun s a => s.perform (.set a.name a.key a.value)) s

/-- The store after rounds of settings, with a reset after each round. -/
def afterRounds (s : Store) (rounds : List (List Setting)) : Store :=
  rounds.foldl (fun s settings => (s.afterSettings settings).reset) s

/-- What settings give to a symbol, in order. -/
def givenTo (name : String) (settings : List Setting) : Style :=
  settings.filterMap fun a => if a.name = name then some (a.key, a.value) else none

/-- A copy of the attributes of a symbol, if there is one of the name. -/
def copy? (s : Store) (name : String) : Option (String × Style) :=
  (s.node? name).map fun n => (name, n.style)

/-- The copies for the symbols of some settings, each symbol where it comes first. -/
def copiesFor (s : Store) (settings : List Setting) : List (String × Style) :=
  (settings.map (·.name)).eraseDups.filterMap s.copy?

theorem afterSettings_concat (s : Store) (settings : List Setting) (a : Setting) :
    s.afterSettings (settings ++ [a])
      = (s.afterSettings settings).perform (.set a.name a.key a.value) := List.foldl_concat ..

theorem reset_afterSettings (s : Store) (settings : List Setting) :
    (s.afterSettings settings).reset = s.reset := by
  induction settings using List.reverseRecOn with
  | nil => rfl
  | append_singleton settings a ih => rw [afterSettings_concat, reset_perform_set, ih]

/-- Rounds leave nothing. -/
theorem afterRounds_eq (h : s.saved = []) (rounds : List (List Setting)) :
    s.afterRounds rounds = s := by
  induction rounds with
  | nil => rfl
  | cons settings rounds ih =>
    show (s.afterSettings settings).reset.afterRounds rounds = s
    rw [reset_afterSettings, reset_of_no_copies h, ih]

theorem view_afterSettings {α : Type} (view : Store → α)
    (hupdate : ∀ s name change, view (s.update name change) = view s)
    (hsaved : ∀ (s : Store) saved, view { s with saved } = view s) (s : Store)
    (settings : List Setting) : view (s.afterSettings settings) = view s := by
  induction settings using List.reverseRecOn with
  | nil => rfl
  | append_singleton settings a ih =>
    rw [afterSettings_concat, view_perform_set view hupdate hsaved, ih]

theorem givenTo_concat (name : String) (settings : List Setting) (a : Setting) :
    givenTo name (settings ++ [a])
      = givenTo name settings ++ if a.name = name then [(a.key, a.value)] else [] := by
  unfold givenTo
  rw [List.filterMap_append]
  by_cases h : a.name = name
  · simp [h]
  · simp [h]

theorem givenTo_of_not_mem {name : String} {settings : List Setting}
    (h : name ∉ settings.map (·.name)) : givenTo name settings = [] := by
  unfold givenTo
  rw [List.filterMap_eq_nil_iff]
  intro a ha
  have hne : a.name ≠ name := by
    rintro rfl
    exact h (List.mem_map_of_mem ha)
  rw [if_neg hne]

/-- In between, the attributes of a symbol are those that it had, with what it was given laid over
    them in order; all else of it is as it was. -/
theorem node?_afterSettings (s : Store) (settings : List Setting) (name : String) :
    (s.afterSettings settings).node? name
      = (s.node? name).map fun n =>
          { n with style := Styling.overlaid n.style (givenTo name settings) } := by
  induction settings using List.reverseRecOn with
  | nil => exact Option.map_id'.symm
  | append_singleton settings a ih =>
    rw [afterSettings_concat, node?_perform_set, ih, Option.map_map, givenTo_concat]
    refine congrArg (fun change => (s.node? name).map change) ?_
    funext n
    by_cases h : a.name = name
    · simp [h, Styling.overlaid]
    · simp [h, Ne.symm h]

theorem copiesFor_concat (s : Store) (settings : List Setting) (a : Setting) :
    s.copiesFor (settings ++ [a])
      = if a.name ∈ settings.map (·.name) then s.copiesFor settings
        else s.copiesFor settings ++ (s.copy? a.name).toList := by
  unfold copiesFor
  rw [List.map_append, List.map_singleton, Firsts.eraseDups_concat]
  split
  · rfl
  · rw [List.filterMap_append]
    cases h : s.copy? a.name with
    | none => simp [h]
    | some e => simp [h]

theorem mem_keys_copiesFor_iff {settings : List Setting} {name : String} :
    name ∈ Table.keys (s.copiesFor settings)
      ↔ name ∈ settings.map (·.name) ∧ (s.node? name).isSome = true := by
  unfold copiesFor Table.keys
  rw [List.mem_map]
  constructor
  · rintro ⟨e, he, rfl⟩
    obtain ⟨other, hother, hcopy⟩ := List.mem_filterMap.mp he
    obtain ⟨n, hn, rfl⟩ := Option.map_eq_some_iff.mp hcopy
    exact ⟨List.mem_eraseDups.mp hother, Option.isSome_of_eq_some hn⟩
  · rintro ⟨hname, hsome⟩
    obtain ⟨n, hn⟩ := Option.isSome_iff_exists.mp hsome
    refine ⟨(name, n.style), List.mem_filterMap.mpr ⟨name, List.mem_eraseDups.mpr hname, ?_⟩, rfl⟩
    rw [copy?, hn]
    rfl

/-- In between, each symbol that was given something has its copy, made before the first change. -/
theorem saved_afterSettings (h : s.saved = []) (settings : List Setting) :
    (s.afterSettings settings).saved = s.copiesFor settings := by
  induction settings using List.reverseRecOn with
  | nil => exact h
  | append_singleton settings a ih =>
    have hnow := node?_afterSettings s settings a.name
    rw [afterSettings_concat, copiesFor_concat]
    cases hn : s.node? a.name with
    | none =>
      -- settings bring no symbols, so that this one fails now as it would have at the start
      have hcopy : s.copy? a.name = none := by rw [copy?, hn, Option.map_none]
      rw [hn, Option.map_none] at hnow
      rw [perform_set_of_none hnow, ih, hcopy]
      simp
    | some n =>
      have hcopy : s.copy? a.name = some (a.name, n.style) := by rw [copy?, hn, Option.map_some]
      rw [hn, Option.map_some] at hnow
      rw [perform_set_of_some hnow, hcopy]
      by_cases hold : a.name ∈ settings.map (·.name)
      · have hkept : a.name ∈ Table.keys (s.afterSettings settings).saved := by
          rw [ih, mem_keys_copiesFor_iff]
          exact ⟨hold, Option.isSome_of_eq_some hn⟩
        rw [if_pos hold, ← ih]
        exact savedFor_of_mem hkept _
      · -- nothing was given to the symbol before, so that its attributes are those of the start
        have hkept : a.name ∉ Table.keys (s.afterSettings settings).saved := by
          rw [ih, mem_keys_copiesFor_iff]
          exact fun hmem => hold hmem.1
        rw [if_neg hold, ← ih, givenTo_of_not_mem hold]
        exact savedFor_of_not_mem hkept _

/-- At any moment of any round of settings and resets, on a store without copies: a setting succeeds
    just if there is the symbol, and else says that it is unknown and leaves the store as it was;
    the symbols are as at the start but for what they were given since the last reset, the calls and
    their places are as at the start, and the copies are those of the symbols that were given
    something; and a reset leaves the very store that was there at the start, a second one nothing
    else. -/
theorem undoes_rounds (s : Store) (hsaved : s.saved = []) (rounds : List (List Setting))
    (settings : List Setting) :
    let now := (s.afterRounds rounds).afterSettings settings
    (∀ name key value, s.node? name = none →
      now.set name key value = .error (.unknownSymbol name) ∧
        now.perform (.set name key value) = now) ∧
    (∀ name key value, (s.node? name).isSome = true →
      now.set name key value = .ok (now.perform (.set name key value))) ∧
    (∀ name, now.node? name = (s.node? name).map fun n =>
      { n with style := Styling.overlaid n.style (givenTo name settings) }) ∧
    Table.keys now.nodes = Table.keys s.nodes ∧ now.calls = s.calls ∧ now.places = s.places ∧
    now.saved = s.copiesFor settings ∧
    now.reset = s ∧ now.reset.reset = now.reset := by
  intro now
  -- earlier rounds leave nothing, so that only what was set since the last reset counts
  have hstart : now = s.afterSettings settings :=
    congrArg (afterSettings · settings) (afterRounds_eq hsaved rounds)
  have hnode := node?_afterSettings s settings
  rw [hstart]
  refine ⟨?_, ?_, hnode, ?_, ?_, ?_, saved_afterSettings hsaved settings, ?_, reset_reset _⟩
  · intro name key value hn
    have hnow : (s.afterSettings settings).node? name = none := by
      rw [hnode, hn, Option.map_none]
    exact ⟨set_of_none hnow key value, perform_set_of_none hnow key value⟩
  · intro name key value hsome
    obtain ⟨n, hn⟩ := Option.isSome_iff_exists.mp hsome
    have hnow := hnode name
    rw [hn, Option.map_some] at hnow
    rw [perform_set_of_some hnow, set_of_some hnow]
    exact congrArg Except.ok (update_withSaved _ _ name _)
  · exact view_afterSettings (fun s => Table.keys s.nodes) keys_update (fun _ _ => rfl) s settings
  · exact view_afterSettings Store.calls calls_update (fun _ _ => rfl) s settings
  · exact view_afterSettings Store.places places_update (fun _ _ => rfl) s settings
  · rw [reset_afterSettings, reset_of_no_copies hsaved]

/-- The second round changes a symbol twice and another one once, which the first round changed as
    well. -/
theorem undoes_second_round :
    let s := run [.declare { name := "a" } [("color", "red")], .connect "a" "b" []]
    let now := (s.afterRounds [[⟨"b", "shape", "box"⟩, ⟨"c", "shape", "box"⟩]]).afterSettings
      [⟨"a", "color", "blue"⟩, ⟨"b", "style", "filled"⟩, ⟨"a", "color", "green"⟩]
    s.saved = [] ∧ now.set "c" "shape" "box" = .error (.unknownSymbol "c") ∧
      (now.node? "a").map (·.style) = some [("color", "green")] ∧
      (now.node? "b").map (·.style) = some [("style", "filled")] ∧
      now.saved = [("a", [("color", "red")]), ("b", [])] ∧ now.reset = s := by
  intro s now
  have hsaved : s.saved = [] := rfl
  obtain ⟨hunknown, -, hnode, -, -, -, hcopies, hreset, -⟩ := undoes_rounds s hsaved
    [[⟨"b", "shape", "box"⟩, ⟨"c", "shape", "box"⟩]]
    [⟨"a", "color", "blue"⟩, ⟨"b", "style", "filled"⟩, ⟨"a", "color", "green"⟩]
  refine ⟨hsaved, (hunknown "c" "shape" "box" rfl).1, ?_, ?_, ?_, hreset⟩
  · rw [hnode]
    rfl
  · rw [hnode]
    rfl
  · rw [hcopies]
    decide

end Store

end CallExcerpt
