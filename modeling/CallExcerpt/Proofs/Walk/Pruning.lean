import CallExcerpt.Proofs.Walk.Reach

/-! # What a goal keeps

    A walk with a goal takes arrows back as it goes, and never looks again at a
    symbol that it has expanded. It still keeps the right arrows: those that a
    walk without a goal would draw and that lead to the goal.

    * `noPath_iff_no_path`: without a bound on the depth, a walk fails exactly
      if no path leads to the goal, and what it keeps lies on chains from the
      root to the goal.
    * `leading`: of some arrows those that lead to the goal along them.
    * `kept_eq_leading`: the goal leaves just these of a forest.
    * `keeps_leading_of_full_walk`: so does a walk of what a full walk draws.
-/

namespace CallExcerpt.Walk

variable {g : Graph} {plan : Plan} {screen : Screen} {goal : String}

/-! ## Failing -/

/-- Without a bound on the depth, an extraction with a goal other than its root fails exactly if
    no path leads from the root to the goal. If it does not fail, each arrow that it leaves lies on
    a chain of such arrows from the root to the goal. -/
theorem noPath_iff_no_path (g : Graph) (plan : Plan) (root goal : String) (desk : Desk)
    (hroot : g.contains root = true) (hgoal : plan.goal = some goal) (hne : root ≠ goal)
    (hdepth : plan.maxDepth = none) :
    ((∃ n desk', extract g plan root desk = .error (.noPath root goal n) desk')
      ↔ ¬ Path g plan desk.screen root goal) ∧
    ((∃ w, extract g plan root desk = .ok w w.toDesk) ↔ Path g plan desk.screen root goal) ∧
    ∀ w desk', extract g plan root desk = .ok w desk' →
      ∃ own, desk'.sheet.toList = desk.sheet.toList ++ own ∧
        ∀ a ∈ own, ∃ chain, Forest.Chain own root goal chain ∧ a ∈ chain := by
  obtain ⟨forest, after, hgrows⟩ := exists_grows g plan desk.screen [root] root 0
    (rootCalls g plan desk.screen root)
  obtain ⟨hsheet, hfails, hsucceeds⟩ := extract_with_goal hroot hgoal hgrows
  have hngoal : plan.goal ≠ some root := by
    rw [hgoal]
    intro h
    exact hne (Option.some.inj h).symm
  have hpath : Path g plan desk.screen root goal ↔ forest.reaches (some goal) = true := by
    rw [Forest.reaches_iff_ends, ends_iff_path hdepth hngoal hgrows hne.symm]
  refine ⟨?_, ?_, ?_⟩
  · rw [hfails, hpath]
    simp [hne]
  · rw [hsucceeds, hpath]
    simp [hne]
  · intro w desk' hextract
    rw [hextract] at hsheet
    exact ⟨_, hsheet, fun a ha => Forest.chain_of_mem_kept hgrows.hangs ha⟩

/-- A caller reaches what it calls, and what is called does not reach its caller. -/
theorem noPath_from_callee :
    (∃ w, extract (({} : Graph).connect "a" "b" []) { goal := some "b" } "a" {}
      = .ok w w.toDesk) ∧
    ∃ n desk', extract (({} : Graph).connect "a" "b" []) { goal := some "a" } "b" {}
      = .error (.noPath "b" "a" n) desk' := by
  constructor
  · refine (noPath_iff_no_path (({} : Graph).connect "a" "b" []) { goal := some "b" } "a" "b" {}
      (by decide) rfl (by decide) rfl).2.1.mpr (.single ?_)
    exact ⟨by decide, by decide, by decide,
      ⟨{ name := "b", defined := false }, by decide, by decide⟩⟩
  · refine (noPath_iff_no_path (({} : Graph).connect "a" "b" []) { goal := some "a" } "b" "a" {}
      (by decide) rfl (by decide) rfl).1.mpr ?_
    intro hpath
    obtain ⟨next, hfirst, -⟩ := Relation.TransGen.head'_iff.mp hpath
    obtain ⟨call, hcall, -⟩ := hfirst.leads
    have hnone : (({} : Graph).connect "a" "b" []).relations .forward "b" = [] := by decide
    rw [hnone] at hcall
    cases hcall

/-! ## Leading to the goal -/

/-- Along some arrows one gets from one symbol to the other. -/
def LeadsAlong (arrows : List Arrow) : String → String → Prop :=
  Relation.ReflTransGen fun source target => ∃ a ∈ arrows, a.source = source ∧ a.target = target

open Classical in
/-- Those of some arrows that end at the goal or from whose end one gets to the goal along them. -/
noncomputable def leading (goal : String) (arrows : List Arrow) : List Arrow :=
  arrows.filter fun a => LeadsAlong arrows a.target goal

theorem leadsAlong_iff {arrows : List Arrow} {name : String} :
    LeadsAlong arrows name goal
      ↔ name = goal ∨ ∃ a ∈ arrows, a.source = name ∧ LeadsAlong arrows a.target goal := by
  rw [LeadsAlong, Relation.ReflTransGen.cases_head_iff]
  refine or_congr_right ?_
  constructor
  · rintro ⟨_, ⟨a, ha, hs, rfl⟩, h⟩
    exact ⟨a, ha, hs, h⟩
  · rintro ⟨a, ha, hs, h⟩
    exact ⟨a.target, ⟨a, ha, hs, rfl⟩, h⟩

/-- A branch that stays if and only if its arrow leads to the goal. -/
theorem kept_branch_eq_filter {leads : String → Bool} {arrow : Arrow} {below rest : Forest}
    (hs : Forest.stays (some goal) arrow below = leads arrow.target)
    (hb : (below.kept (some goal)).arrows = below.arrows.filter fun a => leads a.target)
    (hr : (rest.kept (some goal)).arrows = rest.arrows.filter fun a => leads a.target) :
    ((Forest.branch arrow below rest).kept (some goal)).arrows
      = (Forest.branch arrow below rest).arrows.filter fun a => leads a.target := by
  cases hst : Forest.stays (some goal) arrow below with
  | true =>
    have harrow : leads arrow.target = true := hs ▸ hst
    rw [Forest.kept_of_stays hst]
    simp [Forest.arrows, hb, hr, harrow]
  | false =>
    have harrow : leads arrow.target = false := hs ▸ hst
    -- nothing below leads to the goal either
    have hbelow : below.arrows.filter (fun a => leads a.target) = [] := by
      rw [Forest.stays, Bool.or_eq_false_iff] at hst
      rw [← hb, Forest.kept_eq_nil hst.2]
      rfl
    rw [Forest.kept_of_not_stays hst, hr]
    simp [Forest.arrows, harrow, hbelow]

/-- A forest is a part of some arrows: they contain it, all that begin at a symbol expanded with it
    are in it, and those that begin at no symbol expanded before begin where the walk goes on. -/
structure PartOf (g : Graph) (plan : Plan) (screen : Screen) (all : List Arrow)
    (visited : List String) (forest : Forest) (after : List String) : Prop where
  contained : ∀ a ∈ forest.arrows, a ∈ all
  inside : ∀ a ∈ all, a.source ∈ after → a.source ∉ visited → a ∈ forest.arrows
  onward : ∀ a ∈ all, a.source ∉ visited → goesOn g plan screen a.source = true

section part
variable {all : List Arrow} {visited between after : List String} {arrow : Arrow}
  {below rest : Forest}

/-- An arrow that begins at a symbol expanded below a branch is an arrow below the branch. -/
theorem PartOf.mem_below
    (hp : PartOf g plan screen all visited (.branch arrow below rest) after)
    (harrow : arrow.source ∈ visited) (hsub : ∀ n ∈ between, n ∈ after)
    (hrest : ∀ a ∈ rest.arrows, a.source ∈ visited ∨ a.source ∉ between) {a : Arrow}
    (ha : a ∈ all) (hin : a.source ∈ between) (hfresh : a.source ∉ visited) :
    a ∈ below.arrows := by
  have hmem := hp.inside a ha (hsub _ hin) hfresh
  simp only [Forest.arrows, List.mem_cons, List.mem_append] at hmem
  rcases hmem with rfl | hmem | hmem
  · exact absurd harrow hfresh
  · exact hmem
  · rcases hrest a hmem with h | h
    · exact absurd h hfresh
    · exact absurd hin h

/-- What is below a branch is a part as well. -/
theorem PartOf.part_below (hp : PartOf g plan screen all visited (.branch arrow below rest) after)
    (harrow : arrow.source ∈ visited) (hsub : ∀ n ∈ between, n ∈ after)
    (hrest : ∀ a ∈ rest.arrows, a.source ∈ visited ∨ a.source ∉ between) :
    PartOf g plan screen all (visited ++ [arrow.target]) below between := by
  refine ⟨?_, ?_, ?_⟩
  · intro a ha
    exact hp.contained a (by simp [Forest.arrows, ha])
  · intro a ha hin hfresh
    exact hp.mem_below harrow hsub hrest ha hin (fun hv => hfresh (List.mem_append_left _ hv))
  · intro a ha hfresh
    exact hp.onward a ha (fun hv => hfresh (List.mem_append_left _ hv))

/-- What is beside a branch is a part as well. -/
theorem PartOf.part_beside (hp : PartOf g plan screen all visited (.branch arrow below rest) after)
    (harrow : arrow.source ∈ visited) (hsub : ∀ n ∈ visited, n ∈ between)
    (hbelow : ∀ a ∈ below.arrows, a.source ∈ between) :
    PartOf g plan screen all between rest after := by
  refine ⟨?_, ?_, ?_⟩
  · intro a ha
    exact hp.contained a (by simp [Forest.arrows, ha])
  · intro a ha hin hfresh
    have hmem := hp.inside a ha hin (fun hv => hfresh (hsub _ hv))
    simp only [Forest.arrows, List.mem_cons, List.mem_append] at hmem
    rcases hmem with rfl | hmem | hmem
    · exact absurd (hsub _ harrow) hfresh
    · exact absurd (hbelow a hmem) hfresh
    · exact hmem
  · intro a ha hfresh
    exact hp.onward a ha (fun hv => hfresh (hsub _ hv))

end part

section kept
variable {all : List Arrow} {leads : String → Bool} {visited : List String} {name : String}
  {depth : Nat} {pending : List Call} {forest : Forest} {after : List String}

/-- The goal leaves of a forest the arrows to symbols that lead to the goal, and the forest reaches
    the goal exactly if one of them begins at the symbol of the frame. -/
theorem Grows.kept_eq_filter (hgoal : plan.goal = some goal)
    (hleads : ∀ n, leads n = true ↔ n = goal ∨ ∃ a ∈ all, a.source = n ∧ leads a.target = true)
    (h : Grows g plan screen visited name depth pending forest after) (hname : name ∈ visited)
    (hp : PartOf g plan screen all visited forest after) :
    ((forest.kept (some goal)).arrows = forest.arrows.filter fun a => leads a.target) ∧
      (forest.reaches (some goal) = true
        ↔ ∃ a ∈ forest.arrows, a.source = name ∧ leads a.target = true) := by
  induction h with
  | nil =>
    refine ⟨rfl, ?_⟩
    simp [Forest.reaches, Forest.arrows]
  | pass _ _ ih => exact ih hname hp
  | @tip visited name depth call child pending rest after hm hg hrest ih =>
    have hbeside := hp.part_beside hname (fun n hn => hn) (fun a ha => by cases ha)
    obtain ⟨hkept, hreaches⟩ := ih hname hbeside
    -- no arrow begins at the child, so that it leads to the goal only if it is the goal
    have hs : Forest.stays (some goal) (arrowOf plan name child.name call) .nil
        = leads child.name := by
      have hnone : ¬ ∃ a ∈ all, a.source = child.name ∧ leads a.target = true := by
        rintro ⟨a, ha, hsource, -⟩
        have hgo := hp.onward a ha (hsource ▸ hm.fresh)
        rw [hsource, hg] at hgo
        cases hgo
      rw [Bool.eq_iff_iff, hleads, or_iff_left hnone, Forest.stays, Forest.reaches, Bool.or_false,
        decide_eq_true_eq, Option.some.injEq]
      exact eq_comm
    refine ⟨kept_branch_eq_filter hs rfl hkept, ?_⟩
    rw [Forest.reaches_branch, hs, Bool.or_eq_true, hreaches]
    simp [Forest.arrows, arrowOf]
  | @enter visited name depth call child pending below between rest after hm hg hbelow hrest
      ihb ihr =>
    have hvisited : ∀ n ∈ visited, n ∈ between :=
      fun n hn => hbelow.visited_subset n (List.mem_append_left _ hn)
    have hchild : child.name ∈ between := hbelow.visited_subset _ (by simp)
    have hsource : ∀ a ∈ below.arrows, a.source ∈ between ∧ a.source ∉ visited := by
      intro a ha
      rcases hbelow.source_mem ha with h | ⟨hin, hout⟩
      · rw [h]
        exact ⟨hchild, hm.fresh⟩
      · exact ⟨hin, fun hv => hout (List.mem_append_left _ hv)⟩
    -- arrows below and beside begin at different symbols
    have hother : ∀ a ∈ rest.arrows, a.source ∈ visited ∨ a.source ∉ between := by
      intro a ha
      rcases hrest.source_mem ha with h | ⟨-, hout⟩
      · exact .inl (h ▸ hname)
      · exact .inr hout
    obtain ⟨hkeptb, hreachesb⟩ :=
      ihb (by simp) (hp.part_below hname hrest.visited_subset hother)
    obtain ⟨hkeptr, hreachesr⟩ :=
      ihr (hvisited _ hname) (hp.part_beside hname hvisited (fun a ha => (hsource a ha).1))
    -- all arrows from the child lie below it, so that it leads to the goal if the forest there does
    have hs : Forest.stays (some goal) (arrowOf plan name child.name call) below
        = leads child.name := by
      have hngoal : child.name ≠ goal := by
        intro h
        exact (goesOn_iff.mp hg).2.1 (h ▸ hgoal)
      have harrow : (arrowOf plan name child.name call).target = child.name := rfl
      rw [Bool.eq_iff_iff, hleads, Forest.stays, Bool.or_eq_true, hreachesb, harrow]
      simp only [decide_eq_true_eq, Option.some.injEq, hngoal, hngoal.symm, false_or]
      constructor
      · rintro ⟨a, ha, hfrom, hto⟩
        exact ⟨a, hp.contained a (by simp [Forest.arrows, ha]), hfrom, hto⟩
      · rintro ⟨a, ha, hfrom, hto⟩
        have hin := hp.mem_below hname hrest.visited_subset hother ha (hfrom ▸ hchild)
          (hfrom ▸ hm.fresh)
        exact ⟨a, hin, hfrom, hto⟩
    refine ⟨kept_branch_eq_filter hs hkeptb hkeptr, ?_⟩
    rw [Forest.reaches_branch, hs, Bool.or_eq_true, hreachesr]
    constructor
    · rintro (h | ⟨a, ha, hfrom, hto⟩)
      · exact ⟨_, .head _, rfl, h⟩
      · exact ⟨a, by simp [Forest.arrows, ha], hfrom, hto⟩
    · rintro ⟨a, ha, hfrom, hto⟩
      simp only [Forest.arrows, List.mem_cons, List.mem_append] at ha
      rcases ha with rfl | ha | ha
      · exact .inl hto
      · -- the symbol of the frame was expanded before, so no arrow below begins there
        exact absurd hname (hfrom ▸ (hsource a ha).2)
      · exact .inr ⟨a, ha, hfrom, hto⟩

end kept

/-- What the goal leaves of the forest from a root are the arrows that lead to the goal. -/
theorem kept_eq_leading {root : String} {depth : Nat} {pending : List Call} {forest : Forest}
    {after : List String} (hgoal : plan.goal = some goal)
    (h : Grows g plan screen [root] root depth pending forest after) :
    (forest.kept (some goal)).arrows = leading goal forest.arrows := by
  classical
  -- the whole forest is a part of itself
  have hp : PartOf g plan screen forest.arrows [root] forest after := by
    refine ⟨fun a ha => ha, fun a ha _ _ => ha, ?_⟩
    intro a ha hfresh
    have hafter := (h.source_mem ha).resolve_left (fun hs => hfresh (by simp [hs]))
    exact ((h.expanded hafter.1).resolve_left hfresh).2
  have hleads : ∀ n, decide (LeadsAlong forest.arrows n goal) = true
      ↔ n = goal ∨ ∃ a ∈ forest.arrows, a.source = n ∧
        decide (LeadsAlong forest.arrows a.target goal) = true := by
    intro n
    simp only [decide_eq_true_eq]
    exact leadsAlong_iff
  rw [(h.kept_eq_filter hgoal hleads (by simp) hp).1]
  rfl

/-! ## The full walk -/

/-- What grows depends on the plan and the filters only by what the walk meets, where it goes on,
    and which calls and arrows it has. -/
theorem Grows.congr {plan' : Plan} {screen' : Screen}
    (hmeets : ∀ {visited call child},
      Meets g plan' screen' visited call child ↔ Meets g plan screen visited call child)
    (hgoes : ∀ name, goesOn g plan' screen' name = goesOn g plan screen name)
    (hcalls : ∀ name depth, relationsAt g plan' name depth = relationsAt g plan name depth)
    (harrow : ∀ source target call,
      arrowOf plan' source target call = arrowOf plan source target call)
    {visited : List String} {name : String} {depth : Nat} {pending : List Call} {forest : Forest}
    {after : List String} (h : Grows g plan screen visited name depth pending forest after) :
    Grows g plan' screen' visited name depth pending forest after := by
  induction h with
  | nil => exact .nil
  | pass hn _ ih => exact .pass (fun child hm => hn child (hmeets.mp hm)) ih
  | tip hm hg _ ih =>
    rw [← harrow]
    exact .tip (hmeets.mpr hm) ((hgoes _).trans hg) ih
  | enter hm hg _ _ ihb ihr =>
    rw [← harrow]
    rw [← hcalls] at ihb
    exact .enter (hmeets.mpr hm) ((hgoes _).trans hg) ihb ihr

/-- Showing a symbol stops a walk there just as looking for it does. -/
theorem goesOn_showing (name : String) :
    goesOn g { plan with goal := none } (screen.showing goal) name
      = goesOn g { plan with goal := some goal } screen name := by
  unfold goesOn
  rw [Screen.isShown_showing]
  by_cases h : name = goal
  · simp [h]
  · simp [h, Ne.symm h]

theorem meets_showing {visited : List String} {call : Call} {child : Symbol} :
    Meets g { plan with goal := none } (screen.showing goal) visited call child
      ↔ Meets g { plan with goal := some goal } screen visited call child := by
  have hverdict := Screen.classify_showing screen goal child
  constructor
  · intro hm
    exact ⟨hm.found, hverdict ▸ hm.included, hm.fresh⟩
  · intro hm
    exact ⟨hm.found, hverdict.symm ▸ hm.included, hm.fresh⟩

/-- A walk without a goal that shows the goal instead draws a forest of which the goal leaves what
    a walk to the goal draws. -/
theorem exists_full_forest {root : String} {forest : Forest} {after : List String}
    (h : Grows g { plan with goal := some goal } screen [root] root 0
      (rootCalls g { plan with goal := some goal } screen root) forest after) :
    ∃ full after', Grows g { plan with goal := none } (screen.showing goal) [root] root 0
        (rootCalls g { plan with goal := none } (screen.showing goal) root) full after' ∧
      (forest.kept (some goal)).arrows = leading goal full.arrows := by
  by_cases hroot : root = goal
  · -- the root is shown and nothing is drawn, and no arrow comes back to a goal that is the root
    have hnone : rootCalls g { plan with goal := none } (screen.showing goal) root = [] := by
      simp [rootCalls, Screen.isShown_showing, hroot]
    have hends : forest.reaches (some goal) = false := by
      rw [← Bool.not_eq_true, Forest.reaches_iff_ends]
      exact h.not_ends (by simp [hroot])
    refine ⟨.nil, [root], ?_, ?_⟩
    · rw [hnone]
      exact .nil
    · rw [Forest.kept_eq_nil hends]
      rfl
  · have hsame : rootCalls g { plan with goal := none } (screen.showing goal) root
        = rootCalls g { plan with goal := some goal } screen root := by
      simp only [rootCalls, Screen.isShown_showing, hroot, decide_false, Bool.or_false]
      rfl
    refine ⟨forest, after, ?_, kept_eq_leading rfl h⟩
    rw [hsame]
    exact h.congr meets_showing goesOn_showing (fun _ _ => rfl) (fun _ _ _ => rfl)

/-- A walk with a goal leaves of what a walk without it draws, if that one shows the goal, the
    arrows that lead to the goal, in the same order. It fails exactly if there are none, unless it
    begins at the goal. -/
theorem keeps_leading_of_full_walk (g : Graph) (plan : Plan) (root goal : String) (desk : Desk)
    (hroot : g.contains root = true) :
    ∃ full all,
      extract g { plan with goal := none } root { desk with screen := desk.screen.showing goal }
        = .ok full full.toDesk ∧
      full.sheet.toList = desk.sheet.toList ++ all ∧
      (deskAfter (extract g { plan with goal := some goal } root desk)).sheet.toList
        = desk.sheet.toList ++ leading goal all ∧
      ((∃ n desk', extract g { plan with goal := some goal } root desk
          = .error (.noPath root goal n) desk') ↔ leading goal all = [] ∧ root ≠ goal) ∧
      ((∃ w, extract g { plan with goal := some goal } root desk = .ok w w.toDesk)
        ↔ ¬ (leading goal all = [] ∧ root ≠ goal)) := by
  obtain ⟨forest, after, hgrows⟩ := exists_grows g { plan with goal := some goal } desk.screen
    [root] root 0 (rootCalls g { plan with goal := some goal } desk.screen root)
  obtain ⟨fullForest, after', hfull, hkept⟩ := exists_full_forest hgrows
  obtain ⟨full, hsheet, -, hextract⟩ := @extract_of_grows g { plan with goal := none } root
    { desk with screen := desk.screen.showing goal } fullForest after' hroot hfull
  obtain ⟨hleft, hfails, hsucceeds⟩ := extract_with_goal hroot rfl hgrows
  have hnil : forest.reaches (some goal) = false ↔ leading goal fullForest.arrows = [] := by
    rw [← hkept, Forest.arrows_kept_eq_nil_iff]
  rw [hkept] at hleft
  rw [hnil] at hfails hsucceeds
  rw [Forest.kept_none] at hsheet
  exact ⟨full, fullForest.arrows, hextract, hsheet, hleft, hfails, hsucceeds⟩

/-- With one of two callees for a goal, a walk keeps what leads there of a walk to both. -/
theorem keeps_leading_of_two_calls :
    ∃ full all,
      extract ((({} : Graph).connect "a" "b" []).connect "a" "c" []) {} "a"
        { screen := Screen.showing {} "c" } = .ok full full.toDesk ∧
      full.sheet.toList = all ∧
      (deskAfter (extract ((({} : Graph).connect "a" "b" []).connect "a" "c" [])
        { goal := some "c" } "a" {})).sheet.toList = leading "c" all := by
  obtain ⟨full, all, hfull, hall, hleft, -⟩ := keeps_leading_of_full_walk
    ((({} : Graph).connect "a" "b" []).connect "a" "c" []) {} "a" "c" {} (by decide)
  exact ⟨full, all, hfull, hall, hleft⟩

end CallExcerpt.Walk
