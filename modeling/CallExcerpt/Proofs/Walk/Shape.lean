import CallExcerpt.Proofs.Graph.Building
import CallExcerpt.Proofs.Walk.Reach

/-! # The shape of an excerpt

    A symbol is expanded when the walk first comes upon it, and no arrow ends
    there afterwards. From what is not expanded no arrow begins. So the arrows
    between expanded symbols make a tree, and besides these there are arrows to
    symbols at which the walk stops, as many as there are calls to them.

    * `TreeFrom`: the tree, told by the arrows in their order.
    * `Grows.enters_once`, `Grows.ends_nodup`: no arrow is drawn to an expanded
      symbol again, and none between the same symbols.
    * `TreeFrom.chain_unique`: one chain leads to an expanded symbol.
    * `Grows.mem_of_stop`: each call to a symbol at which the walk stops has its
      arrow.
    * `treelike_of_extract`: the arrows of an excerpt.
-/

namespace CallExcerpt

/-- Arrows in the order of drawing that make a tree of the symbols at which they begin. -/
structure TreeFrom (root : String) (arrows : List Arrow) : Prop where
  /-- No arrow ends at the root. -/
  apart : ∀ a ∈ arrows, a.target ≠ root
  /-- No arrow ends where it begins. -/
  loopless : ∀ a ∈ arrows, a.source ≠ a.target
  /-- No two arrows have the same ends. -/
  single : (arrows.map Arrow.ends).Nodup
  /-- To a symbol at which an arrow begins, the root apart, there is one arrow, and it comes before
      all that begin there. -/
  entered : ∀ b ∈ arrows, b.source ≠ root → ∃ before a after, arrows = before ++ a :: after ∧
    a.target = b.source ∧ (∀ c ∈ before ++ after, c.target ≠ b.source) ∧
    ∀ c ∈ before, c.source ≠ b.source

/-! ## Chains of a tree -/

/-- A chain has a last arrow, which ends where the chain does. -/
theorem Forest.Chain.exists_last {arrows : List Arrow} {source goal : String} {chain : List Arrow}
    (h : Forest.Chain arrows source goal chain) :
    ∃ before a, chain = before ++ [a] ∧ a ∈ arrows ∧ a.target = goal ∧
      (before = [] ∧ a.source = source ∨ Forest.Chain arrows source a.source before) := by
  induction h with
  | @single a ha => exact ⟨[], a, rfl, ha, rfl, .inl ⟨rfl, rfl⟩⟩
  | @cons b goal chain hb _ ih =>
    obtain ⟨before, a, rfl, ha, hgoal, hbefore⟩ := ih
    refine ⟨b :: before, a, rfl, ha, hgoal, .inr ?_⟩
    rcases hbefore with ⟨rfl, hsource⟩ | hchain
    · rw [hsource]
      exact .single hb
    · exact .cons hb hchain

namespace TreeFrom

variable {root : String} {arrows : List Arrow}

/-- The one arrow to a symbol at which an arrow begins. -/
theorem eq_of_targets (h : TreeFrom root arrows) {b c d : Arrow} (hb : b ∈ arrows)
    (hroot : b.source ≠ root) (hc : c ∈ arrows) (hd : d ∈ arrows) (hct : c.target = b.source)
    (hdt : d.target = b.source) : c = d := by
  obtain ⟨before, a, after, rfl, -, hothers, -⟩ := h.entered b hb hroot
  have hone : ∀ e ∈ before ++ a :: after, e.target = b.source → e = a := by
    intro e he htarget
    rcases List.mem_append.mp he with he | he
    · exact absurd htarget (hothers e (List.mem_append_left _ he))
    · rcases List.mem_cons.mp he with rfl | he
      · rfl
      · exact absurd htarget (hothers e (List.mem_append_right _ he))
  rw [hone c hc hct, hone d hd hdt]

/-- To a symbol to which there is one arrow leads one chain from the root. -/
theorem chain_unique (h : TreeFrom root arrows) {name : String}
    (honce : ∀ a ∈ arrows, ∀ b ∈ arrows, a.target = name → b.target = name → a = b)
    {chain other : List Arrow} (hchain : Forest.Chain arrows root name chain)
    (hother : Forest.Chain arrows root name other) : other = chain := by
  -- from the last arrow backwards: both chains end with the one arrow to the symbol, and go on from
  -- where it begins
  induction hlength : chain.length generalizing name chain other with
  | zero =>
    obtain ⟨before, a, rfl, -⟩ := hchain.exists_last
    simp at hlength
  | succ length ih =>
    obtain ⟨before, a, rfl, ha, hgoal, hbefore⟩ := hchain.exists_last
    obtain ⟨before', a', rfl, ha', hgoal', hbefore'⟩ := hother.exists_last
    obtain rfl : a' = a := honce a' ha' a ha hgoal' hgoal
    have hroot : ∀ {chain}, ¬ Forest.Chain arrows root root chain := by
      intro chain hback
      obtain ⟨_, b, -, hb, hend, -⟩ := hback.exists_last
      exact h.apart b hb hend
    rcases hbefore with ⟨rfl, hsource⟩ | hbefore
    · rcases hbefore' with ⟨rfl, -⟩ | hbefore'
      · rfl
      · exact absurd (hsource ▸ hbefore') hroot
    · rcases hbefore' with ⟨rfl, hsource⟩ | hbefore'
      · exact absurd (hsource ▸ hbefore) hroot
      · have hne : a'.source ≠ root := by
          intro hsource
          exact hroot (hsource ▸ hbefore)
        have hlength' : before.length = length := by simpa using hlength
        have hsame := ih (fun c hc d hd => h.eq_of_targets ha hne hc hd) hbefore hbefore' hlength'
        rw [hsame]

end TreeFrom

namespace Walk

variable {g : Graph} {plan : Plan} {screen : Screen}

/-! ## Arrows that are not drawn -/

section facts
variable {visited : List String} {name : String} {depth : Nat} {pending : List Call}
  {forest : Forest} {after : List String}

/-- No arrow ends where it begins: where it begins is expanded. -/
theorem Grows.loopless (h : Grows g plan screen visited name depth pending forest after)
    (hname : name ∈ visited) : ∀ a ∈ forest.arrows, a.source ≠ a.target := by
  induction h with
  | nil =>
    intro a ha
    cases ha
  | pass _ _ ih => exact ih hname
  | @tip visited name _ _ child _ _ _ hm _ _ ih =>
    have hne : name ≠ child.name := fun h => hm.fresh (h ▸ hname)
    intro a ha
    simp only [Forest.arrows, List.nil_append, List.mem_cons] at ha
    rcases ha with rfl | ha
    · exact hne
    · exact ih hname a ha
  | @enter visited name _ _ child _ _ _ _ _ hm _ hbelow _ ihb ihr =>
    have hne : name ≠ child.name := fun h => hm.fresh (h ▸ hname)
    intro a ha
    simp only [Forest.arrows, List.mem_cons, List.mem_append] at ha
    rcases ha with rfl | ha | ha
    · exact hne
    · exact ihb (by simp) a ha
    · exact ihr (hbelow.visited_subset _ (List.mem_append_left _ hname)) a ha

theorem relationsAt_sublist (name : String) (depth : Nat) :
    (relationsAt g plan name depth).Sublist (g.relations plan.direction name) := by
  unfold relationsAt
  split
  · split
    · exact List.nil_sublist _
    · exact List.Sublist.refl _
  · exact List.Sublist.refl _

theorem count_targets_eq_zero {forest : Forest} {n : String} (h : ¬ forest.Ends n) :
    (forest.arrows.map (·.target)).count n = 0 := by
  rw [List.count_eq_zero]
  intro hmem
  obtain ⟨a, ha, htarget⟩ := List.mem_map.mp hmem
  exact h ⟨a, ha, htarget⟩

/-- At a symbol from which the walk goes on, one arrow ends at most: it is expanded with the first
    one. -/
theorem Grows.enters_once (h : Grows g plan screen visited name depth pending forest after)
    {n : String} (hgo : goesOn g plan screen n = true) :
    (forest.arrows.map (·.target)).count n ≤ 1 := by
  induction h with
  | nil => simp [Forest.arrows]
  | pass _ _ ih => exact ih
  | @tip _ name _ call child _ rest _ _ hg _ ih =>
    -- the walk does not go on from the child, so that it is another symbol
    have hne : child.name ≠ n := by
      rintro rfl
      exact absurd (hg.symm.trans hgo) (by simp)
    simpa [Forest.arrows, arrowOf, List.count_cons, hne] using ih
  | @enter visited name _ call child _ below between rest _ hm _ hbelow hrest ihb ihr =>
    have hcount : ((Forest.branch (arrowOf plan name child.name call) below rest).arrows.map
        (·.target)).count n = (below.arrows.map (·.target)).count n
          + (rest.arrows.map (·.target)).count n + if child.name = n then 1 else 0 := by
      simp [Forest.arrows, arrowOf, List.count_cons]
    rw [hcount]
    by_cases hchild : child.name = n
    · -- expanded before what is below it and beside it was drawn
      subst hchild
      have hin : child.name ∈ visited ++ [child.name] := by simp
      have hb := count_targets_eq_zero (hbelow.not_ends hin)
      have hr := count_targets_eq_zero (hrest.not_ends (hbelow.visited_subset _ hin))
      simp [hb, hr]
    · rw [if_neg hchild]
      by_cases hends : below.Ends n
      · have hr := count_targets_eq_zero (hrest.not_ends (hbelow.expanded_of_ends hends hgo))
        omega
      · have hb := count_targets_eq_zero hends
        omega

/-- An arrow from the symbol of the frame is that of a call of the frame. -/
theorem Grows.target_mem (h : Grows g plan screen visited name depth pending forest after)
    (hname : name ∈ visited) {a : Arrow} (ha : a ∈ forest.arrows) (hsource : a.source = name) :
    a.target ∈ pending.map (Call.far plan.direction) := by
  induction h with
  | nil => cases ha
  | pass _ _ ih => exact List.mem_cons_of_mem _ (ih hname ha hsource)
  | tip hm _ _ ih =>
    rw [List.map_cons, ← Graph.name_of_find? hm.found]
    simp only [Forest.arrows, List.nil_append, List.mem_cons] at ha
    rcases ha with rfl | ha
    · exact List.mem_cons_self
    · exact List.mem_cons_of_mem _ (ih hname ha hsource)
  | enter hm _ hbelow _ _ ihr =>
    rw [List.map_cons, ← Graph.name_of_find? hm.found]
    simp only [Forest.arrows, List.mem_cons, List.mem_append] at ha
    rcases ha with rfl | ha | ha
    · exact List.mem_cons_self
    · -- below the child no arrow begins at what was expanded before it
      rcases hbelow.source_mem ha with h | ⟨-, hout⟩
      · exact absurd (h ▸ hsource ▸ hname) hm.fresh
      · exact absurd (List.mem_append_left _ (hsource ▸ hname)) hout
    · have hname' := hbelow.visited_subset _ (List.mem_append_left _ hname)
      exact List.mem_cons_of_mem _ (ihr hname' ha hsource)

/-- No arrow leads from the symbol of the frame to one to which none of its calls leads. -/
theorem Grows.ends_not_mem (h : Grows g plan screen visited name depth pending forest after)
    (hname : name ∈ visited) {target : String}
    (hfar : target ∉ pending.map (Call.far plan.direction)) :
    (name, target) ∉ forest.arrows.map Arrow.ends := by
  intro hmem
  obtain ⟨a, ha, hends⟩ := List.mem_map.mp hmem
  obtain ⟨hsource, htarget⟩ := Prod.mk.inj hends
  have hin := h.target_mem hname ha hsource
  rw [htarget] at hin
  exact hfar hin

/-- No two arrows have the same ends, if no two calls of a symbol lead to the same one. -/
theorem Grows.ends_nodup
    (hcalls : ∀ n, ((g.relations plan.direction n).map (Call.far plan.direction)).Nodup)
    (h : Grows g plan screen visited name depth pending forest after) (hname : name ∈ visited)
    (hpending : (pending.map (Call.far plan.direction)).Nodup) :
    (forest.arrows.map Arrow.ends).Nodup := by
  induction h with
  | nil => exact List.nodup_nil
  | pass _ _ ih => exact ih hname (List.nodup_cons.mp hpending).2
  | @tip visited name _ call child pending rest after hm hg hrest ih =>
    obtain ⟨hfar, hothers⟩ := List.nodup_cons.mp hpending
    rw [← Graph.name_of_find? hm.found] at hfar
    exact List.nodup_cons.mpr ⟨hrest.ends_not_mem hname hfar, ih hname hothers⟩
  | @enter visited name depth call child pending below between rest after hm hg hbelow hrest
      ihb ihr =>
    obtain ⟨hfar, hothers⟩ := List.nodup_cons.mp hpending
    rw [← Graph.name_of_find? hm.found] at hfar
    have hname' : name ∈ between := hbelow.visited_subset _ (List.mem_append_left _ hname)
    have hchild : child.name ∈ between := hbelow.visited_subset _ (by simp)
    have hdeep : ((relationsAt g plan child.name (depth + 1)).map
        (Call.far plan.direction)).Nodup :=
      (hcalls child.name).sublist ((relationsAt_sublist _ _).map _)
    -- the arrows below begin at symbols that are expanded there, those beside at others
    have hbelowSource : ∀ a ∈ below.arrows, a.source ∈ between ∧ a.source ∉ visited := by
      intro a ha
      rcases hbelow.source_mem ha with h | ⟨hin, hout⟩
      · rw [h]
        exact ⟨hchild, hm.fresh⟩
      · exact ⟨hin, fun hv => hout (List.mem_append_left _ hv)⟩
    have hbesideSource : ∀ a ∈ rest.arrows, a.source = name ∨ a.source ∉ between := by
      intro a ha
      exact (hrest.source_mem ha).imp_right And.right
    rw [Forest.arrows, List.map_cons, List.map_append, List.nodup_cons, List.nodup_append]
    refine ⟨?_, ihb (by simp) hdeep, ihr hname' hothers, ?_⟩
    · intro hmem
      rcases List.mem_append.mp hmem with hmem | hmem
      · obtain ⟨a, ha, hends⟩ := List.mem_map.mp hmem
        obtain ⟨hsource, -⟩ := Prod.mk.inj hends
        exact (hbelowSource a ha).2 (hsource ▸ hname)
      · exact hrest.ends_not_mem hname' hfar hmem
    · intro p hp q hq heq
      obtain ⟨a, ha, rfl⟩ := List.mem_map.mp hp
      obtain ⟨b, hb, rfl⟩ := List.mem_map.mp hq
      obtain ⟨hsource, -⟩ := Prod.mk.inj heq
      obtain ⟨hin, hout⟩ := hbelowSource a ha
      rw [hsource] at hin hout
      rcases hbesideSource b hb with h | h
      · exact hout (h ▸ hname)
      · exact h hin

/-! ## Arrows that are drawn -/

/-- What is expanded and was not before, the walk goes on from. -/
theorem Grows.goesOn_of_fresh (h : Grows g plan screen visited name depth pending forest after)
    {n : String} (hn : n ∈ after) (hfresh : n ∉ visited) : goesOn g plan screen n = true :=
  ((h.expanded hn).resolve_left hfresh).2

/-- A call of the frame to a symbol at which the walk stops has its arrow. -/
theorem Grows.mem_of_stop (h : Grows g plan screen visited name depth pending forest after)
    {call : Call} {child : Symbol} (hcall : call ∈ pending)
    (hfound : g.find? (call.far plan.direction) = some child)
    (hin : (screen.classify child).1 = .included) (hstop : goesOn g plan screen child.name = false)
    (hfresh : child.name ∉ visited) : arrowOf plan name child.name call ∈ forest.arrows := by
  induction h with
  | nil => cases hcall
  | @pass visited _ _ _ _ _ _ hn _ ih =>
    rcases List.mem_cons.mp hcall with rfl | hcall
    · exact absurd ⟨hfound, hin, hfresh⟩ (hn child)
    · exact ih hcall hfresh
  | tip hm _ _ ih =>
    rcases List.mem_cons.mp hcall with rfl | hcall
    · obtain rfl := Option.some.inj (hm.found.symm.trans hfound)
      exact List.mem_cons_self
    · exact List.mem_cons_of_mem _ (ih hcall hfresh)
  | @enter visited _ _ _ other _ _ between _ _ hm hg hbelow _ _ ihr =>
    rcases List.mem_cons.mp hcall with rfl | hcall
    · obtain rfl := Option.some.inj (hm.found.symm.trans hfound)
      exact absurd (hstop.symm.trans hg) (by simp)
    · -- nothing at which the walk stops was expanded in between
      have hfresh' : child.name ∉ between := by
        intro hbetween
        have hv : child.name ∉ visited ++ [other.name] := by
          intro hv
          rcases List.mem_append.mp hv with hv | hv
          · exact hfresh hv
          · rw [List.mem_singleton.mp hv] at hstop
            exact absurd (hstop.symm.trans hg) (by simp)
        exact absurd (hstop.symm.trans (hbelow.goesOn_of_fresh hbetween hv)) (by simp)
      exact List.mem_cons_of_mem _ (List.mem_append_right _ (ihr hcall hfresh'))

/-- So has a call of a symbol that is expanded below the frame, if all calls are looked at there. -/
theorem Grows.mem_of_stop_below (hdepth : plan.maxDepth = none)
    (h : Grows g plan screen visited name depth pending forest after) {n : String} (hn : n ∈ after)
    (hnew : n ∉ visited) {call : Call} {child : Symbol}
    (hcall : call ∈ g.relations plan.direction n)
    (hfound : g.find? (call.far plan.direction) = some child)
    (hin : (screen.classify child).1 = .included) (hstop : goesOn g plan screen child.name = false)
    (hfresh : child.name ∉ visited) : arrowOf plan n child.name call ∈ forest.arrows := by
  induction h with
  | nil => exact absurd hn hnew
  | pass _ _ ih => exact ih hn hnew hfresh
  | tip _ _ _ ih => exact List.mem_cons_of_mem _ (ih hn hnew hfresh)
  | @enter visited _ depth _ other _ _ between _ _ hm hg hbelow _ ihb ihr =>
    have hfresh' : child.name ∉ visited ++ [other.name] := by
      intro hv
      rcases List.mem_append.mp hv with hv | hv
      · exact hfresh hv
      · rw [List.mem_singleton.mp hv] at hstop
        exact absurd (hstop.symm.trans hg) (by simp)
    -- expanded as the child, below it, or beside it
    by_cases hbetween : n ∈ between
    · refine List.mem_cons_of_mem _ (List.mem_append_left _ ?_)
      by_cases hchild : n = other.name
      · subst hchild
        rw [← relationsAt_of_unbounded hdepth other.name (depth + 1)] at hcall
        exact hbelow.mem_of_stop hcall hfound hin hstop hfresh'
      · exact ihb hbetween (by simp [hnew, hchild]) hfresh'
    · have hout : child.name ∉ between := by
        intro hb
        exact absurd (hstop.symm.trans (hbelow.goesOn_of_fresh hb hfresh')) (by simp)
      exact List.mem_cons_of_mem _ (List.mem_append_right _ (ihr hn hbetween hout))

end facts

/-! ## From the root -/

/-- Of what a goal leaves, one arrow at most ends at a symbol from which the walk goes on: beside it
    none does. -/
theorem Grows.target_ne_beside {visited : List String} {name : String} {depth : Nat}
    {pending : List Call} {forest : Forest} {after : List String}
    (h : Grows g plan screen visited name depth pending forest after) {goal : Option String}
    {n : String} (hgo : goesOn g plan screen n = true) {a : Arrow} (ha : a.target = n)
    {front back : List Arrow} (hsplit : (forest.kept goal).arrows = front ++ a :: back) :
    ∀ c ∈ front ++ back, c.target ≠ n := by
  have hsub := (Forest.arrows_kept_sublist goal forest).map (·.target)
  have hcount := Nat.le_trans (hsub.count_le n) (h.enters_once hgo)
  rw [hsplit, List.map_append, List.count_append, List.map_cons, ha, List.count_cons_self] at hcount
  have hothers : ((front ++ back).map (·.target)).count n = 0 := by
    rw [List.map_append, List.count_append]
    omega
  intro c hc htarget
  exact List.count_eq_zero.mp hothers (List.mem_map.mpr ⟨c, hc, htarget⟩)

/-- What a goal leaves of the forest from a root is a tree. -/
theorem Grows.treeFrom (hs : g.Sound) {root : String} {forest : Forest} {after : List String}
    (h : Grows g plan screen [root] root 0 (rootCalls g plan screen root) forest after)
    (goal : Option String) : TreeFrom root (forest.kept goal).arrows := by
  have hsub := Forest.arrows_kept_sublist goal forest
  have hhangs := h.hangs.kept goal
  have hcalls := hs.nodup_far plan.direction
  have hroot : root ∈ [root] := List.mem_singleton_self root
  have hpending : ((rootCalls g plan screen root).map (Call.far plan.direction)).Nodup := by
    unfold rootCalls
    split
    · exact List.nodup_nil
    · exact (hcalls root).sublist ((relationsAt_sublist _ _).map _)
  constructor
  · intro a ha htarget
    exact h.not_ends hroot ⟨a, hsub.subset ha, htarget⟩
  · intro a ha
    exact h.loopless hroot a (hsub.subset ha)
  · exact (h.ends_nodup hcalls hroot hpending).sublist (hsub.map Arrow.ends)
  · intro b hb hsource
    -- the forest hangs from the root, so that an arrow to the symbol comes before
    obtain ⟨front, back, hfront⟩ := List.append_of_mem hb
    obtain ⟨a, ha, htarget⟩ := (hhangs.source_before hfront).resolve_left hsource
    obtain ⟨before, middle, rfl⟩ := List.append_of_mem ha
    have hsplit : (forest.kept goal).arrows = before ++ a :: (middle ++ b :: back) := by
      simpa using hfront
    -- and it is the only one
    have hgo : goesOn g plan screen b.source = true := by
      have hfresh := (h.source_mem (hsub.subset hb)).resolve_left hsource
      exact h.goesOn_of_fresh hfresh.1 hfresh.2
    have hnone := h.target_ne_beside hgo htarget hsplit
    refine ⟨before, a, middle ++ b :: back, hsplit, htarget, hnone, ?_⟩
    intro c hc hsame
    obtain ⟨first, last, rfl⟩ := List.append_of_mem hc
    have hearlier : (forest.kept goal).arrows
        = first ++ c :: (last ++ a :: (middle ++ b :: back)) := by
      simpa using hsplit
    obtain ⟨d, hd, hdt⟩ := (hhangs.source_before hearlier).resolve_left (hsame ▸ hsource)
    exact hnone d (by simp [hd]) (hdt.trans hsame)

/-- To a symbol that is expanded leads at most one of the arrows that a goal leaves. -/
theorem Grows.eq_of_targets {root : String} {forest : Forest} {after : List String}
    (h : Grows g plan screen [root] root 0 (rootCalls g plan screen root) forest after)
    (goal : Option String) {n : String} (hn : n ∈ after) {a b : Arrow}
    (ha : a ∈ (forest.kept goal).arrows) (hb : b ∈ (forest.kept goal).arrows)
    (hat : a.target = n) (hbt : b.target = n) : a = b := by
  have hsub := Forest.arrows_kept_sublist goal forest
  have hne : n ≠ root := by
    rintro rfl
    exact h.not_ends (List.mem_singleton_self n) ⟨a, hsub.subset ha, hat⟩
  have hgo := h.goesOn_of_fresh hn (by simpa using hne)
  obtain ⟨front, back, hsplit⟩ := List.append_of_mem ha
  have hnone := h.target_ne_beside hgo hat hsplit
  rw [hsplit] at hb
  rcases List.mem_append.mp hb with hb | hb
  · exact absurd hbt (hnone b (List.mem_append_left _ hb))
  · rcases List.mem_cons.mp hb with rfl | hb
    · rfl
    · exact absurd hbt (hnone b (List.mem_append_right _ hb))

/-- A root from which the walk does not go on is all that is expanded, if it is not the goal. -/
theorem Grows.eq_root_of_stop {root : String} {forest : Forest} {after : List String}
    (h : Grows g plan screen [root] root 0 (rootCalls g plan screen root) forest after)
    (hgoal : plan.goal ≠ some root) (hstop : goesOn g plan screen root = false) {n : String}
    (hn : n ∈ after) : n = root := by
  have hcalls : rootCalls g plan screen root = [] := by
    unfold rootCalls
    cases hs : screen.isShown root with
    | true => rfl
    | false =>
      rw [List.eq_nil_iff_forall_not_mem]
      intro call hcall
      have hmem : call ∈ g.relations plan.direction root := relationsAt_subset _ _ call hcall
      have hgo := goesOn_iff.mpr ⟨hs, hgoal, call, hmem⟩
      rw [hstop] at hgo
      cases hgo
  rw [hcalls] at h
  cases h
  exact List.mem_singleton.mp hn

/-- However a graph was built, the arrows of an excerpt make a tree of the symbols at which they
    begin: these are expanded, and one chain of arrows leads from the root to each expanded symbol
    to which an arrow leads. If the walk has no goal and no bound on the depth, the tree lacks no
    call from an expanded symbol to one that is let in and at which the walk stops. -/
theorem treelike_of_extract (operations : List Store.Operation) (plan : Plan) (root : String)
    (desk desk' : Desk) (w : Walk)
    (hextract : extract (Graph.after operations) plan root desk = .ok w desk') :
    ∃ own, desk'.sheet.toList = desk.sheet.toList ++ own ∧ TreeFrom root own ∧
      (∀ a ∈ own, a.source ∈ w.visited) ∧
      (∀ n ∈ w.visited, (∃ a ∈ own, a.target = n) →
        ∃ chain, Forest.Chain own root n chain ∧
          ∀ other, Forest.Chain own root n other → other = chain) ∧
      (plan.goal = none → plan.maxDepth = none → ∀ n ∈ w.visited, desk.screen.isShown n = false →
        ∀ call ∈ (Graph.after operations).relations plan.direction n,
        ∀ child, (Graph.after operations).find? (call.far plan.direction) = some child →
        (desk.screen.classify child).1 = .included →
        (desk.screen.isShown child.name = true ∨
          (Graph.after operations).relations plan.direction child.name = []) →
        arrowOf plan n child.name call ∈ own) := by
  have hsound := Graph.sound_after operations
  obtain ⟨-, -, rfl, forest, hsheet, hgrows⟩ := grows_of_extract hextract
  have htree := hgrows.treeFrom hsound plan.goal
  refine ⟨_, hsheet, htree, ?_, ?_, ?_⟩
  · intro a ha
    have hmem := (Forest.arrows_kept_sublist plan.goal forest).subset ha
    rcases hgrows.source_mem hmem with hsource | hfresh
    · rw [hsource]
      exact hgrows.visited_subset root (List.mem_singleton_self root)
    · exact hfresh.1
  · rintro n hn ⟨a, ha, rfl⟩
    obtain ⟨depth, hlayer⟩ := Forest.mem_arrows_iff.mp ha
    obtain ⟨chain, hchain, -, -⟩ :=
      Forest.chain_of_mem_layer (hgrows.hangs.kept plan.goal) hlayer
    refine ⟨chain, hchain, ?_⟩
    intro other hother
    exact htree.chain_unique (fun b hb c hc => hgrows.eq_of_targets plan.goal hn hb hc) hchain
      hother
  · intro hgoal hdepth n hn hhidden call hcall child hfound hin hends
    have hngoal : plan.goal ≠ some root := by simp [hgoal]
    have hstop : goesOn (Graph.after operations) plan desk.screen child.name = false := by
      rcases hends with hshown | hnone
      · simp [goesOn, hshown]
      · simp [goesOn, hnone]
    have hchild : child.name ∉ [root] := by
      intro hmem
      obtain hroot : child.name = root := List.mem_singleton.mp hmem
      -- then nothing but the root is expanded, and it makes a call and is not shown
      obtain rfl : n = root := hgrows.eq_root_of_stop hngoal (hroot ▸ hstop) hn
      rcases hends with hshown | hnone
      · rw [hroot, hhidden] at hshown
        cases hshown
      · rw [hroot] at hnone
        rw [hnone] at hcall
        cases hcall
    rw [hgoal, Forest.kept_none]
    by_cases hroot : n = root
    · subst hroot
      have hpending : call ∈ rootCalls (Graph.after operations) plan desk.screen n := by
        rw [rootCalls, hhidden]
        exact (relationsAt_of_unbounded hdepth n 0).symm ▸ hcall
      exact hgrows.mem_of_stop hpending hfound hin hstop hchild
    · exact hgrows.mem_of_stop_below hdepth hn (by simpa using hroot) hcall hfound hin hstop hchild

/-- Two ways lead to an expanded symbol and to the one behind it, and calls lead back to the root
    and from a symbol to itself. The second way to the expanded symbol is not drawn, and both calls to
    the last one are. -/
theorem treelike_of_two_ways :
    let operations : List Store.Operation := [.connect "a" "b" [], .connect "b" "a" [],
      .connect "b" "b" [], .connect "b" "c" [], .connect "a" "c" [], .connect "c" "d" ["d~c.c:1"],
      .connect "a" "d" [], .declare { name := "c" } []]
    ∃ w desk' own, extract (Graph.after operations) {} "a" {} = .ok w desk' ∧
      desk'.sheet.toList = own ∧
      own.map Arrow.ends = [("a", "b"), ("b", "c"), ("c", "d"), ("a", "d")] ∧ TreeFrom "a" own ∧
      "c" ∈ w.visited ∧ (∃ chain, Forest.Chain own "a" "c" chain ∧
        ∀ other, Forest.Chain own "a" "c" other → other = chain) ∧
      arrowOf {} "c" "d" { caller := "c", callee := "d", sites := ["d~c.c:1"] } ∈ own := by
  intro operations
  have hsucceeds : (extract (Graph.after operations) {} "a" {} matches .ok _ _) = true := by
    decide +kernel
  have hends : (deskAfter (extract (Graph.after operations) {} "a" {})).sheet.toList.map Arrow.ends
      = [("a", "b"), ("b", "c"), ("c", "d"), ("a", "d")] := by decide +kernel
  cases hextract : extract (Graph.after operations) {} "a" {} with
  | error fault desk' =>
    rw [hextract] at hsucceeds
    cases hsucceeds
  | ok w desk' =>
    obtain ⟨own, hsheet, htree, hsources, hchains, hcalls⟩ :=
      treelike_of_extract operations {} "a" {} desk' w hextract
    have hown : desk'.sheet.toList = own := hsheet
    rw [hextract] at hends
    replace hends : own.map Arrow.ends = _ := hown ▸ hends
    -- an arrow begins at the symbol in the middle, and one ends there
    have hat : ∀ p ∈ [("a", "b"), ("b", "c"), ("c", "d"), ("a", "d")],
        ∃ a ∈ own, a.ends = p := by
      intro p hp
      rw [← hends] at hp
      exact List.mem_map.mp hp
    obtain ⟨a, ha, haends⟩ := hat ("c", "d") (by simp)
    obtain ⟨b, hb, hbends⟩ := hat ("b", "c") (by simp)
    have hvisited : "c" ∈ w.visited := (Prod.mk.inj haends).1 ▸ hsources a ha
    refine ⟨w, desk', own, rfl, hown, hends, htree, hvisited,
      hchains "c" hvisited ⟨b, hb, (Prod.mk.inj hbends).2⟩, ?_⟩
    exact hcalls rfl rfl "c" hvisited (by decide) _ (by decide) { name := "d", defined := false }
      (by decide) (by decide) (.inr (by decide))

end Walk

end CallExcerpt
