import CallExcerpt.Proofs.Walk.Order

/-! # What a walk reaches

    A walk expands a symbol once and passes over what was expanded before, so
    that it is not plain that it draws an arrow to each symbol that it could
    reach: the way to a symbol may lead through symbols that were expanded from
    elsewhere. Without a bound on the depth nothing is lost.

    * `Passage`: a step that the filters and the goal allow. `Path` is some
      steps.
    * `Grows.closed`: every passage from an expanded symbol leads to one that
      was expanded before or has an arrow.
    * `ends_iff_path`: the forest from a root has an arrow to what paths lead to.
    * `extract_of_grows`: what an extraction gives, told by the forest alone.
    * `mem_members_iff_path`: the members of an excerpt without a goal are what
      paths lead to.
-/

namespace CallExcerpt.Walk

variable {g : Graph} {plan : Plan} {screen : Screen}

/-! ## Paths -/

/-- A step that a walk may take: it goes on from the first symbol, which is neither shown nor the
    goal, along a call to the second one, which the filters let in. -/
structure Passage (g : Graph) (plan : Plan) (screen : Screen) (source target : String) : Prop where
  hidden : screen.isShown source = false
  onward : plan.goal ≠ some source
  leads : ∃ call ∈ g.relations plan.direction source, call.far plan.direction = target
  included : ∃ symbol, g.find? target = some symbol ∧ (screen.classify symbol).1 = .included

/-- One step or more that a walk may take. -/
def Path (g : Graph) (plan : Plan) (screen : Screen) : String → String → Prop :=
  Relation.TransGen (Passage g plan screen)

theorem goesOn_iff {name : String} :
    goesOn g plan screen name = true
      ↔ screen.isShown name = false ∧ plan.goal ≠ some name ∧
        ∃ call, call ∈ g.relations plan.direction name := by
  simp [goesOn, and_assoc, List.eq_nil_iff_forall_not_mem]

theorem Passage.goesOn {source target : String} (h : Passage g plan screen source target) :
    goesOn g plan screen source = true := by
  obtain ⟨call, hcall, -⟩ := h.leads
  exact goesOn_iff.mpr ⟨h.hidden, h.onward, call, hcall⟩

/-! ## Arrows are passages -/

section arrows
variable {visited : List String} {name : String} {depth : Nat} {pending : List Call}
  {forest : Forest} {after : List String}

theorem Meets.passage {call : Call} {child : Symbol} (hm : Meets g plan screen visited call child)
    (hs : screen.isShown name = false) (hg : plan.goal ≠ some name)
    (hcall : call ∈ g.relations plan.direction name) :
    Passage g plan screen name child.name := by
  have hfar : call.far plan.direction = child.name := (Graph.name_of_find? hm.found).symm
  exact ⟨hs, hg, ⟨call, hcall, hfar⟩, ⟨child, hfar ▸ hm.found, hm.included⟩⟩

/-- Every arrow that grows from a symbol from which the walk goes on is a passage. -/
theorem Grows.passage (h : Grows g plan screen visited name depth pending forest after)
    (hs : screen.isShown name = false) (hg : plan.goal ≠ some name)
    (hp : ∀ call ∈ pending, call ∈ g.relations plan.direction name) :
    ∀ a ∈ forest.arrows, Passage g plan screen a.source a.target := by
  induction h with
  | nil =>
    intro a ha
    cases ha
  | pass _ _ ih => exact ih hs hg (fun call hcall => hp call (.tail _ hcall))
  | tip hm _ _ ih =>
    intro a ha
    simp only [Forest.arrows, List.nil_append, List.mem_cons] at ha
    rcases ha with rfl | ha
    · exact hm.passage hs hg (hp _ (.head _))
    · exact ih hs hg (fun call hcall => hp call (.tail _ hcall)) a ha
  | enter hm hgo _ _ ihb ihr =>
    intro a ha
    simp only [Forest.arrows, List.mem_cons, List.mem_append] at ha
    rcases ha with rfl | ha | ha
    · exact hm.passage hs hg (hp _ (.head _))
    · obtain ⟨hs', hg', -⟩ := goesOn_iff.mp hgo
      exact ihb hs' hg' (relationsAt_subset _ _) a ha
    · exact ihr hs hg (fun call hcall => hp call (.tail _ hcall)) a ha

/-! ## No passage is missed -/

/-- The calls of a frame lead to symbols that were expanded before or have an arrow. -/
theorem Grows.covers (h : Grows g plan screen visited name depth pending forest after)
    {call : Call} {child : Symbol} (hcall : call ∈ pending)
    (hfound : g.find? (call.far plan.direction) = some child)
    (hin : (screen.classify child).1 = .included) :
    child.name ∈ visited ∨ forest.Ends child.name := by
  induction h with
  | nil => cases hcall
  | @pass visited _ _ _ _ _ _ hn _ ih =>
    rcases List.mem_cons.mp hcall with rfl | hcall
    · -- the call was passed over, but not for its verdict
      left
      by_cases hv : child.name ∈ visited
      · exact hv
      · exact absurd ⟨hfound, hin, hv⟩ (hn child)
    · exact ih hcall
  | tip hm _ _ ih =>
    rcases List.mem_cons.mp hcall with rfl | hcall
    · obtain rfl := Option.some.inj (hm.found.symm.trans hfound)
      exact .inr (Forest.ends_branch.mpr (.inl rfl))
    · exact (ih hcall).imp_right (fun h => Forest.ends_branch.mpr (.inr (.inr h)))
  | enter hm _ hbelow _ _ ihr =>
    rcases List.mem_cons.mp hcall with rfl | hcall
    · obtain rfl := Option.some.inj (hm.found.symm.trans hfound)
      exact .inr (Forest.ends_branch.mpr (.inl rfl))
    · rcases ihr hcall with hbetween | h
      · exact Forest.mem_or_ends_branch _ ((hbelow.expanded hbetween).imp_right And.left)
      · exact .inr (Forest.ends_branch.mpr (.inr (.inr h)))

theorem relationsAt_of_unbounded (hdepth : plan.maxDepth = none) (name : String) (depth : Nat) :
    relationsAt g plan name depth = g.relations plan.direction name := by
  simp [relationsAt, hdepth]

/-- A passage from the symbol of a frame that looks at all its calls. -/
theorem Grows.closed_at (h : Grows g plan screen visited name depth pending forest after)
    (hp : pending = g.relations plan.direction name) {m : String}
    (hm : Passage g plan screen name m) : m ∈ visited ∨ forest.Ends m := by
  obtain ⟨call, hcall, hfar⟩ := hm.leads
  obtain ⟨child, hfound, hin⟩ := hm.included
  obtain rfl : child.name = m := Graph.name_of_find? hfound
  exact h.covers (hp ▸ hcall) (hfar ▸ hfound) hin

/-- A passage from a symbol that is expanded below a frame, and all of whose calls are looked at
    there, leads to one that was expanded before or has an arrow. -/
theorem Grows.closed (h : Grows g plan screen visited name depth pending forest after)
    {n m : String} (hn : n ∈ after) (hfresh : n ∉ visited)
    (hall : ∀ below, forest.Lies name (below + 1) n →
      relationsAt g plan n (depth + (below + 1)) = g.relations plan.direction n)
    (hm : Passage g plan screen n m) : m ∈ visited ∨ forest.Ends m := by
  induction h with
  | nil => exact absurd hn hfresh
  | pass _ _ ih => exact ih hn hfresh hall
  | tip _ _ _ ih =>
    have hrest := ih hn hfresh fun below hl => hall below (Forest.lies_branch.mpr (.inr (.inr hl)))
    exact hrest.imp_right (fun h => Forest.ends_branch.mpr (.inr (.inr h)))
  | @enter visited _ depth _ child _ below between _ _ _ _ hbelow _ ihb ihr =>
    -- expanded as the child, below it, or beside it
    by_cases hbetween : n ∈ between
    · by_cases hchild : n = child.name
      · subst hchild
        have hcalls := hall 0 (Forest.lies_branch.mpr (.inl ⟨rfl, rfl⟩))
        exact Forest.mem_or_ends_branch _ (hbelow.closed_at hcalls hm)
      · have hfresh' : n ∉ visited ++ [child.name] := by simp [hfresh, hchild]
        refine Forest.mem_or_ends_branch _ (ihb hbetween hfresh' ?_)
        intro deeper hl
        rw [Nat.add_assoc, Nat.add_comm 1]
        exact hall (deeper + 1) (Forest.lies_branch.mpr (.inr (.inl ⟨deeper, rfl, hl⟩)))
    · have hbeside := ihr hn hbetween fun below hl =>
        hall below (Forest.lies_branch.mpr (.inr (.inr hl)))
      rcases hbeside with h | h
      · exact Forest.mem_or_ends_branch _ ((hbelow.expanded h).imp_right And.left)
      · exact .inr (Forest.ends_branch.mpr (.inr (.inr h)))

end arrows

/-! ## From the root -/

/-- Every arrow that grows from a root other than the goal is a passage. -/
theorem Grows.passage_of_root {root : String} {forest : Forest} {after : List String}
    (h : Grows g plan screen [root] root 0 (rootCalls g plan screen root) forest after)
    (hgoal : plan.goal ≠ some root) :
    ∀ a ∈ forest.arrows, Passage g plan screen a.source a.target := by
  cases hs : screen.isShown root with
  | true =>
    -- a root that is shown has no calls to follow
    rw [rootCalls, hs] at h
    cases h
    intro a ha
    cases ha
  | false =>
    rw [rootCalls, hs] at h
    exact h.passage hs hgoal (relationsAt_subset _ _)

/-- The forest that grows from a root has an arrow to each symbol to which a path leads, the root
    apart, and to no other. -/
theorem ends_iff_path {root : String} {forest : Forest} {after : List String}
    (hdepth : plan.maxDepth = none) (hgoal : plan.goal ≠ some root)
    (h : Grows g plan screen [root] root 0 (rootCalls g plan screen root) forest after)
    {name : String} (hne : name ≠ root) : forest.Ends name ↔ Path g plan screen root name := by
  have hcalls : screen.isShown root = false →
      rootCalls g plan screen root = g.relations plan.direction root := by
    intro hs
    rw [rootCalls, hs]
    exact relationsAt_of_unbounded hdepth root 0
  constructor
  · intro hends
    exact h.hangs.transGen (h.passage_of_root hgoal) hends
  · intro hpath
    have hreach : name = root ∨ forest.Ends name := by
      clear hne
      -- along the path: a passage from the root, then from symbols that are expanded
      have hroot : ∀ {m : String}, Passage g plan screen root m → m = root ∨ forest.Ends m := by
        intro m hm
        exact (h.closed_at (hcalls hm.hidden) hm).imp_left List.mem_singleton.mp
      induction hpath with
      | single hm => exact hroot hm
      | @tail n m _ hm ih =>
        by_cases hn : n = root
        · exact hroot (hn ▸ hm)
        · have hafter : n ∈ after := h.expanded_of_ends (ih.resolve_left hn) hm.goesOn
          have hfresh : n ∉ [root] := by simpa using hn
          have hall := fun below (_ : forest.Lies root (below + 1) n) =>
            relationsAt_of_unbounded (g := g) hdepth n (0 + (below + 1))
          exact (h.closed hafter hfresh hall hm).imp_left List.mem_singleton.mp
    exact hreach.resolve_left hne

/-- What an extraction gives, told by the forest that grows from its root. -/
theorem extract_of_grows {root : String} {desk : Desk} {forest : Forest} {after : List String}
    (hroot : g.contains root = true)
    (h : Grows g plan desk.screen [root] root 0 (rootCalls g plan desk.screen root) forest after) :
    ∃ w, w.sheet.toList = desk.sheet.toList ++ (forest.kept plan.goal).arrows ∧
      w.tally.members = (root :: (forest.kept plan.goal).touched).eraseDups ∧
      extract g plan root desk
        = match plan.goal with
          | none => .ok w w.toDesk
          | some goal =>
            if forest.reaches (some goal) = false ∧ root ≠ goal then
              .error (.noPath root goal w.tally.takenBack) w.toDesk
            else .ok w w.toDesk := by
  obtain ⟨w, hw, hended, -, hstack⟩ := exists_end_of_grows hroot h
  -- the tally is right about the arrows above what lay there before, and these are known
  obtain ⟨hname, ⟨own, hown, harrows, -⟩, -⟩ := hw.balanced
  have hinOrder := hw.inOrder hown
  have hown' : own = (forest.kept plan.goal).arrows.reverse :=
    List.append_cancel_right (hown.symm.trans hstack)
  refine ⟨w, ?_, ?_, ?_⟩
  · simp [Sheet.toList, hstack]
  · rw [hinOrder, hname, hown', List.map_reverse, List.reverse_reverse]
    rfl
  · rw [extract_of_onWay hw hended]
    cases hgoal : plan.goal with
    | none => rfl
    | some goal =>
      have hzero : w.tally.arrows = 0 ↔ forest.reaches (some goal) = false := by
        rw [harrows, hown', hgoal, ← Forest.arrows_kept_eq_nil_iff]
        simp
      simp only [hzero]

/-- The desk after an extraction, whether it has succeeded or failed. -/
def deskAfter : EStateM.Result WalkFault Desk Walk → Desk
  | .ok _ desk => desk
  | .error _ desk => desk

/-- With a goal an extraction leaves what the goal leaves of the forest, and fails if the forest
    does not reach it, unless the root is the goal. -/
theorem extract_with_goal {root goal : String} {desk : Desk} {forest : Forest}
    {after : List String} (hroot : g.contains root = true) (hgoal : plan.goal = some goal)
    (h : Grows g plan desk.screen [root] root 0 (rootCalls g plan desk.screen root) forest after) :
    (deskAfter (extract g plan root desk)).sheet.toList
        = desk.sheet.toList ++ (forest.kept (some goal)).arrows ∧
      ((∃ n desk', extract g plan root desk = .error (.noPath root goal n) desk')
        ↔ forest.reaches (some goal) = false ∧ root ≠ goal) ∧
      ((∃ w, extract g plan root desk = .ok w w.toDesk)
        ↔ ¬ (forest.reaches (some goal) = false ∧ root ≠ goal)) := by
  obtain ⟨w, hsheet, -, hextract⟩ := extract_of_grows hroot h
  rw [hgoal] at hsheet hextract
  by_cases hfails : forest.reaches (some goal) = false ∧ root ≠ goal
  · simp only [if_pos hfails] at hextract
    rw [hextract]
    refine ⟨hsheet, iff_of_true ⟨_, _, rfl⟩ hfails, iff_of_false ?_ (fun h => h hfails)⟩
    rintro ⟨w', h⟩
    cases h
  · simp only [if_neg hfails] at hextract
    rw [hextract]
    refine ⟨hsheet, iff_of_false ?_ hfails, iff_of_true ⟨_, rfl⟩ hfails⟩
    rintro ⟨n, desk', h⟩
    cases h

/-! ## The members of an excerpt -/

/-- Without a goal an excerpt has its root for a member, and what arrows end at. -/
theorem extract_members {root : String} {desk : Desk} {forest : Forest} {after : List String}
    (hroot : g.contains root = true) (hgoal : plan.goal = none)
    (h : Grows g plan desk.screen [root] root 0 (rootCalls g plan desk.screen root) forest after) :
    ∃ w, extract g plan root desk = .ok w w.toDesk ∧
      ∀ name, name ∈ w.tally.members ↔ name = root ∨ forest.Ends name := by
  obtain ⟨w, -, hmembers, hextract⟩ := extract_of_grows hroot h
  rw [hgoal] at hextract
  refine ⟨w, hextract, ?_⟩
  intro name
  rw [hmembers, hgoal, Forest.kept_none, List.mem_eraseDups, List.mem_cons, Forest.mem_touched_iff]
  constructor
  · rintro (hname | ⟨a, ha, rfl | rfl⟩)
    · exact .inl hname
    · -- an arrow begins at the root or at an expanded symbol, at which another one ends
      rcases h.source_mem ha with hs | ⟨hafter, hfresh⟩
      · exact .inl hs
      · exact .inr ((h.expanded hafter).resolve_left hfresh).1
    · exact .inr ⟨a, ha, rfl⟩
  · rintro (hname | ⟨a, ha, rfl⟩)
    · exact .inl hname
    · exact .inr ⟨a, ha, .inr rfl⟩

/-- Passages do not depend on the order of the calls of a symbol. -/
theorem passage_of_perm {g' : Graph} (hs : g'.symbols = g.symbols)
    (hc : ∀ name, (g'.relations plan.direction name).Perm (g.relations plan.direction name))
    {source target : String} :
    Passage g' plan screen source target ↔ Passage g plan screen source target := by
  have hfind : g'.find? target = g.find? target := by
    rw [Graph.find?, Graph.find?, hs]
  constructor
  · rintro ⟨hhidden, honward, ⟨call, hcall, hfar⟩, hin⟩
    exact ⟨hhidden, honward, ⟨call, (hc source).mem_iff.mp hcall, hfar⟩, hfind ▸ hin⟩
  · rintro ⟨hhidden, honward, ⟨call, hcall, hfar⟩, hin⟩
    exact ⟨hhidden, honward, ⟨call, (hc source).mem_iff.mpr hcall, hfar⟩, hfind ▸ hin⟩

/-- Without a goal and without a bound on the depth, an extraction succeeds, and its members
    besides the root are the symbols to which a path leads from there. So they do not depend on
    the order in which the calls of a symbol come. -/
theorem mem_members_iff_path (g : Graph) (plan : Plan) (root : String) (desk : Desk)
    (hroot : g.contains root = true) (hdepth : plan.maxDepth = none) (hgoal : plan.goal = none) :
    ∃ w, extract g plan root desk = .ok w w.toDesk ∧
      (∀ name, name ≠ root →
        (name ∈ w.tally.members ↔ Path g plan desk.screen root name)) ∧
      ∀ g' : Graph, g'.symbols = g.symbols →
        (∀ name, (g'.relations plan.direction name).Perm (g.relations plan.direction name)) →
        ∃ w', extract g' plan root desk = .ok w' w'.toDesk ∧
          ∀ name, name ∈ w'.tally.members ↔ name ∈ w.tally.members := by
  have hngoal : plan.goal ≠ some root := by simp [hgoal]
  -- the same for both graphs, which have the same paths
  have hspec : ∀ g' : Graph, g'.contains root = true →
      ∃ w, extract g' plan root desk = .ok w w.toDesk ∧ root ∈ w.tally.members ∧
        ∀ name, name ≠ root →
          (name ∈ w.tally.members ↔ Path g' plan desk.screen root name) := by
    intro g' hroot'
    obtain ⟨forest, after, hgrows⟩ := exists_grows g' plan desk.screen [root] root 0
      (rootCalls g' plan desk.screen root)
    obtain ⟨w, hextract, hmembers⟩ := extract_members hroot' hgoal hgrows
    refine ⟨w, hextract, (hmembers root).mpr (.inl rfl), ?_⟩
    intro name hne
    rw [hmembers, ← ends_iff_path hdepth hngoal hgrows hne]
    simp [hne]
  obtain ⟨w, hextract, hin, hmembers⟩ := hspec g hroot
  refine ⟨w, hextract, hmembers, ?_⟩
  intro g' hs hc
  have hroot' : g'.contains root = true := by
    unfold Graph.contains Graph.find? at hroot ⊢
    rw [hs]
    exact hroot
  obtain ⟨w', hextract', hin', hmembers'⟩ := hspec g' hroot'
  refine ⟨w', hextract', ?_⟩
  intro name
  by_cases hne : name = root
  · rw [hne]
    exact iff_of_true hin' hin
  · have hpassage : Passage g' plan desk.screen = Passage g plan desk.screen := by
      funext source target
      exact propext (passage_of_perm hs hc)
    rw [hmembers' name hne, hmembers name hne, Path, Path, hpassage]

/-- Through a symbol in between, an excerpt gets to what the root does not call itself. -/
theorem members_of_two_calls :
    ∃ w, extract ((({} : Graph).connect "a" "b" []).connect "b" "c" []) {} "a" {}
        = .ok w w.toDesk ∧ "c" ∈ w.tally.members := by
  obtain ⟨w, hextract, hmembers, -⟩ := mem_members_iff_path
    ((({} : Graph).connect "a" "b" []).connect "b" "c" []) {} "a" {} (by decide) rfl rfl
  refine ⟨w, hextract, (hmembers "c" (by decide)).mpr ?_⟩
  have hfirst : Passage ((({} : Graph).connect "a" "b" []).connect "b" "c" []) {} {} "a" "b" :=
    ⟨by decide, by decide, by decide, ⟨{ name := "b", defined := false }, by decide, by decide⟩⟩
  have hsecond : Passage ((({} : Graph).connect "a" "b" []).connect "b" "c" []) {} {} "b" "c" :=
    ⟨by decide, by decide, by decide, ⟨{ name := "c", defined := false }, by decide, by decide⟩⟩
  exact .tail (.single hfirst) hsecond

end CallExcerpt.Walk
