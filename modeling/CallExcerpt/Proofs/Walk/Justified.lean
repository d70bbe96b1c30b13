import CallExcerpt.Proofs.Walk.Reach

/-! # Why an arrow is there

    A frame follows no call beyond the depth, so that the layers of what grows
    from it end there. Taking arrows back changes no layer: with an arrow all
    those above it stay. So every arrow of an excerpt is the last one of a chain
    of its arrows from the root, and nothing on the way went against the plan
    or the filters.

    * `Grows.lies_bound`: no arrow ends beyond the depth.
    * `Justifies`: a chain that tells why its last arrow is there.
    * `excerpt_justified`: each arrow of an excerpt has such a chain.
-/

namespace CallExcerpt

namespace Walk

variable {g : Graph} {plan : Plan} {screen : Screen}

/-! ## The depth -/

theorem lt_of_relationsAt_ne_nil {name : String} {depth : Nat} {bound : Int}
    (hbound : plan.maxDepth = some bound) (h : relationsAt g plan name depth ≠ []) :
    (depth : Int) < bound := by
  rw [relationsAt, hbound] at h
  by_cases hle : bound ≤ depth
  · exact absurd (if_pos hle) h
  · omega

/-- No arrow that grows from a frame ends beyond the depth: a frame there has no calls. -/
theorem Grows.lies_bound {visited : List String} {name : String} {depth : Nat}
    {pending : List Call} {forest : Forest} {after : List String} {bound : Int}
    (hbound : plan.maxDepth = some bound)
    (h : Grows g plan screen visited name depth pending forest after)
    (hdepth : pending ≠ [] → (depth : Int) < bound) {below : Nat} {n : String}
    (hn : forest.Lies name (below + 1) n) : (depth + below : Int) < bound := by
  induction h generalizing below with
  | nil => exact absurd hn (Forest.not_lies_nil _ _ _)
  | pass _ _ ih => exact ih (fun _ => hdepth (by simp)) hn
  | tip _ _ _ ih =>
    have hhere := hdepth (by simp)
    rcases Forest.lies_branch.mp hn with ⟨rfl, -⟩ | ⟨_, -, hbelow⟩ | hrest
    · simpa using hhere
    · exact absurd hbelow (Forest.not_lies_nil _ _ _)
    · exact ih (fun _ => hhere) hrest
  | enter _ _ _ _ ihb ihr =>
    have hhere := hdepth (by simp)
    rcases Forest.lies_branch.mp hn with ⟨rfl, -⟩ | ⟨deeper, rfl, hbelow⟩ | hrest
    · simpa using hhere
    · have := ihb (lt_of_relationsAt_ne_nil hbound) hbelow
      omega
    · exact ihr (fun _ => hhere) hrest

theorem Grows.lies_bound_of_root {root : String} {forest : Forest} {after : List String}
    {bound : Int} (hbound : plan.maxDepth = some bound)
    (h : Grows g plan screen [root] root 0 (rootCalls g plan screen root) forest after)
    {below : Nat} {n : String} (hn : forest.Lies root (below + 1) n) : (below : Int) < bound := by
  have hcalls : rootCalls g plan screen root ≠ [] → ((0 : Nat) : Int) < bound := by
    intro hcalls
    cases hs : screen.isShown root with
    | true => exact absurd (by rw [rootCalls, hs]; rfl) hcalls
    | false =>
      rw [rootCalls, hs] at hcalls
      exact lt_of_relationsAt_ne_nil hbound hcalls
  have := h.lies_bound hbound hcalls hn
  omega

/-! ## Chains that justify -/

/-- A chain of some arrows from a symbol to an arrow, along which a walk obeyed its plan and its
    filters: it is no longer than the depth allows, each symbol after the first is let in by filters
    that nobody has used, and none before the last is shown or the goal. -/
structure Justifies (g : Graph) (plan : Plan) (screen : Screen) (arrows : List Arrow)
    (root : String) (a : Arrow) (chain : List Arrow) : Prop where
  leads : Forest.Chain arrows root a.target chain
  last : chain.getLast? = some a
  bounded : ∀ bound, plan.maxDepth = some bound → (chain.length : Int) ≤ bound
  included : ∀ b ∈ chain, ∃ symbol, g.find? b.target = some symbol ∧
    (screen.unused.classify symbol).1 = .included
  hidden : ∀ b ∈ chain, screen.isShown b.source = false
  onward : ∀ b ∈ chain, plan.goal ≠ some b.source

/-- Each arrow that the goal leaves of the forest from a root is justified. -/
theorem Grows.justified {root : String} {forest : Forest} {after : List String}
    (h : Grows g plan screen [root] root 0 (rootCalls g plan screen root) forest after) {a : Arrow}
    (ha : a ∈ (forest.kept plan.goal).arrows) :
    ∃ chain, Justifies g plan screen (forest.kept plan.goal).arrows root a chain := by
  have hgoal : plan.goal ≠ some root := by
    -- of a forest whose root is the goal nothing is kept, as no arrow ends at the root
    intro hgoal
    have hreaches : forest.reaches (some root) = false := by
      rw [← Bool.not_eq_true, Forest.reaches_iff_ends]
      exact h.not_ends (by simp)
    rw [hgoal, Forest.kept_eq_nil hreaches] at ha
    cases ha
  have hpassage : ∀ b ∈ (forest.kept plan.goal).arrows,
      Passage g plan screen b.source b.target := by
    intro b hb
    obtain ⟨depth, hlayer⟩ := Forest.mem_arrows_iff.mp hb
    have hmem := Forest.mem_arrows_iff.mpr ⟨depth, Forest.mem_layer_of_kept hlayer⟩
    exact h.passage_of_root hgoal b hmem
  obtain ⟨depth, hlayer⟩ := Forest.mem_arrows_iff.mp ha
  obtain ⟨chain, hchain, hlast, hlength⟩ :=
    Forest.chain_of_mem_layer (h.hangs.kept plan.goal) hlayer
  refine ⟨chain, hchain, hlast, ?_, ?_, ?_, ?_⟩
  · intro bound hbound
    have := h.lies_bound_of_root hbound ⟨a, Forest.mem_layer_of_kept hlayer, rfl⟩
    omega
  · intro b hb
    obtain ⟨symbol, hfound, hin⟩ := (hpassage b (hchain.subset b hb)).included
    exact ⟨symbol, hfound, Screen.included_unused hin⟩
  · intro b hb
    exact (hpassage b (hchain.subset b hb)).hidden
  · intro b hb
    exact (hpassage b (hchain.subset b hb)).onward

/-- Each arrow of an excerpt is justified by arrows of the excerpt. So each member besides the root
    is let in by the filters and stands, within the excerpt, no further from the root than the depth
    allows; and from what is shown, and from the goal, no arrow goes on. -/
theorem excerpt_justified (g : Graph) (plan : Plan) (root : String) (desk desk' : Desk) (w : Walk)
    (hextract : extract g plan root desk = .ok w desk') :
    ∃ own, desk'.sheet.toList = desk.sheet.toList ++ own ∧
      (∀ a ∈ own, ∃ chain, Justifies g plan desk.screen own root a chain) ∧
      (∀ name ∈ w.tally.members, name = root ∨
        (∃ symbol, g.find? name = some symbol ∧
          (desk.screen.unused.classify symbol).1 = .included) ∧
        ∃ chain, Forest.Chain own root name chain ∧
          ∀ bound, plan.maxDepth = some bound → (chain.length : Int) ≤ bound) ∧
      ∀ a ∈ own, desk.screen.isShown a.source = false ∧ plan.goal ≠ some a.source := by
  have hroot : g.contains root = true := by
    cases hfind : g.find? root with
    | none =>
      rw [extract_of_unknown hfind] at hextract
      cases hextract
    | some symbol => simp [Graph.contains, hfind]
  obtain ⟨forest, after, hgrows⟩ := exists_grows g plan desk.screen [root] root 0
    (rootCalls g plan desk.screen root)
  obtain ⟨w', hsheet, hmembers, hgives⟩ := extract_of_grows hroot hgrows
  -- the walk that has ended is the one that the forest tells of
  obtain ⟨rfl, rfl⟩ : w' = w ∧ w'.toDesk = desk' := by
    rw [hextract] at hgives
    split at hgives
    · cases hgives
      exact ⟨rfl, rfl⟩
    · split at hgives
      · cases hgives
      · cases hgives
        exact ⟨rfl, rfl⟩
  have hjustified := fun a ha => hgrows.justified (a := a) ha
  refine ⟨_, hsheet, hjustified, ?_, ?_⟩
  · intro name hname
    rw [hmembers, List.mem_eraseDups, List.mem_cons, Forest.mem_touched_iff] at hname
    -- a member is the root or an arrow ends there
    have hends : name = root ∨ (forest.kept plan.goal).Ends name := by
      rcases hname with hname | ⟨a, ha, rfl | rfl⟩
      · exact .inl hname
      · obtain ⟨depth, hlayer⟩ := Forest.mem_arrows_iff.mp ha
        have hlies := (hgrows.hangs.kept plan.goal).source_lies hlayer
        cases depth with
        | zero => exact .inl hlies
        | succ depth => exact .inr hlies.ends
      · exact .inr ⟨a, ha, rfl⟩
    refine hends.imp_right ?_
    rintro ⟨a, ha, rfl⟩
    obtain ⟨chain, hchain⟩ := hjustified a ha
    exact ⟨hchain.included a (List.mem_of_getLast? hchain.last), chain, hchain.leads,
      hchain.bounded⟩
  · intro a ha
    obtain ⟨chain, hchain⟩ := hjustified a ha
    have hmem := List.mem_of_getLast? hchain.last
    exact ⟨hchain.hidden a hmem, hchain.onward a hmem⟩

/-- To a goal that lies just within the depth, past a dead end and a symbol that is kept out: two
    arrows are left, and both are justified. -/
theorem justified_to_goal :
    let g := ((((({} : Graph).connect "a" "b" []).connect "b" "noise" []).connect "b" "c"
      []).connect "a" "d" []).connect "c" "a" []
    let plan : Plan := { maxDepth := some 2, goal := some "c" }
    let screen : Screen := { filters := { ignore := ["noise"], shown := ["d"] } }
    ∃ w desk' own, extract g plan "a" { screen } = .ok w desk' ∧ desk'.sheet.toList = own ∧
      own.map (fun a => (a.source, a.target)) = [("a", "b"), ("b", "c")] ∧
      ∀ a ∈ own, ∃ chain, Justifies g plan screen own "a" a chain := by
  intro g plan screen
  have hsucceeds : (extract g plan "a" { screen } matches .ok _ _) = true := by decide +kernel
  have harrows : (deskAfter (extract g plan "a" { screen })).sheet.toList.map
      (fun a => (a.source, a.target)) = [("a", "b"), ("b", "c")] := by decide +kernel
  cases hextract : extract g plan "a" { screen } with
  | error fault desk' =>
    rw [hextract] at hsucceeds
    cases hsucceeds
  | ok w desk' =>
    obtain ⟨own, hsheet, hjustified, -⟩ :=
      excerpt_justified g plan "a" { screen } desk' w hextract
    have hown : desk'.sheet.toList = own := hsheet
    rw [hextract] at harrows
    exact ⟨w, desk', own, rfl, hown, hown ▸ harrows, hjustified⟩

end Walk

end CallExcerpt
