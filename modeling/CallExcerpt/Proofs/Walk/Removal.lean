import CallExcerpt.Proofs.Walk.Reach

/-! # Keeping out and removing

    Filters keep symbols out of a walk. Removing these symbols from the graph
    comes to the same, but not move by move: a symbol all of whose calls lead
    to what is kept out is a dead end. With filters the walk expands it, once,
    and passes over it from then on. With the symbols removed it has no calls
    left to go on with, and an arrow is drawn to it each time.

    * `Graph.without`: the graph without some symbols and their calls.
    * `Forest.Again`: a forest with more arrows to dead ends at which it has
      been before. Neither the order of the symbols nor what a goal leaves of
      the forest is affected by these.
    * `Grows.without`: the forests of both walks differ in nothing else.
    * `removal_keeps_members`: the two extractions.
-/

namespace CallExcerpt

/-! ## The graph without some symbols -/

namespace Graph

variable {removed : String → Bool}

/-- The graph without some symbols, and without the calls that they make or that reach them. -/
def without (g : Graph) (removed : String → Bool) : Graph where
  symbols := g.symbols.filter fun s => !removed s.name
  calls := g.calls.filter fun c => !removed c.caller && !removed c.callee

theorem find?_without (g : Graph) (removed : String → Bool) (name : String) :
    (g.without removed).find? name = if removed name then none else g.find? name := by
  simp only [find?, without, List.find?_filter]
  by_cases h : removed name = true
  · rw [if_pos h, List.find?_eq_none]
    intro s _ hs
    simp only [Bool.not_eq_true', decide_eq_true_eq] at hs
    rw [hs.2, h] at hs
    cases hs.1
  · rw [if_neg h]
    congr 1
    funext s
    by_cases hs : s.name = name
    · simp [hs, h]
    · simp [hs]

theorem relations_without (g : Graph) (d : Direction) {name : String} (h : removed name = false) :
    (g.without removed).relations d name
      = (g.relations d name).filter fun c => !removed (c.far d) := by
  simp only [relations, without, List.filter_filter]
  refine List.filter_congr ?_
  intro c _
  by_cases hc : c.near d = name
  · cases d with
    | forward =>
      have hcaller : c.caller = name := hc
      simp [Call.far, Call.near, hcaller, h]
    | reverse =>
      have hcallee : c.callee = name := hc
      simp [Call.far, Call.near, hcallee, h]
  · simp [hc]

theorem mem_relations_of_without {g : Graph} {d : Direction} {name : String} {c : Call}
    (h : c ∈ (g.without removed).relations d name) : c ∈ g.relations d name := by
  simp only [relations, without, List.mem_filter] at h ⊢
  exact ⟨h.1.1, h.2⟩

end Graph

/-! ## Filters as names to remove -/

namespace Screen

/-- Do the filters keep out the symbol of a name, the root apart? -/
def removes (g : Graph) (screen : Screen) (root name : String) : Bool :=
  name ≠ root &&
    match g.find? name with
    | some symbol => (screen.classify symbol).1.isExcluded
    | none => false

/-- Filters that only show, and keep nothing out. -/
def showOnly (screen : Screen) : Screen where
  filters := { shown := screen.filters.shown, shownPatterns := screen.filters.shownPatterns }

theorem classify_showOnly (screen : Screen) (symbol : Symbol) :
    (screen.showOnly.classify symbol).1 = .included := rfl

theorem isShown_showOnly (screen : Screen) (name : String) :
    screen.showOnly.isShown name = screen.isShown name := rfl

variable {g : Graph} {screen : Screen} {root name : String}

theorem removes_root : screen.removes g root root = false := by
  simp [removes]

theorem included_iff_not_removes {symbol : Symbol} (hfound : g.find? name = some symbol)
    (hne : name ≠ root) :
    (screen.classify symbol).1 = .included ↔ screen.removes g root name = false := by
  simp [removes, hfound, hne, Verdict.isExcluded]

end Screen

/-! ## Arrows to dead ends -/

namespace Forest

/-- What was seen before an arrow and where it ends are seen after it. -/
theorem seen_concat {visited seen : List String} (h : ∀ n ∈ visited, n ∈ seen) (arrow : Arrow) :
    ∀ n ∈ visited ++ [arrow.target], n ∈ seen ++ [arrow.source, arrow.target] := by
  intro n hn
  rcases List.mem_append.mp hn with hn | hn
  · simp [h n hn]
  · simp [List.mem_singleton.mp hn]

/-- The second forest is the first one with more arrows, each to a dead end and between symbols that
    were seen before. -/
inductive Again (dead : String → Prop) : List String → Forest → Forest → Prop where
  /-- Nothing drawn in either. -/
  | nil {seen} : Again dead seen .nil .nil
  /-- The same arrow in both. -/
  | branch {seen arrow below below' rest rest'}
      (hbelow : Again dead (seen ++ [arrow.source, arrow.target]) below below')
      (hrest : Again dead (seen ++ [arrow.source, arrow.target] ++ below.touched) rest rest') :
      Again dead seen (.branch arrow below rest) (.branch arrow below' rest')
  /-- One more arrow in the second forest. -/
  | more {seen arrow forest rest'} (hsource : arrow.source ∈ seen) (htarget : arrow.target ∈ seen)
      (hdead : dead arrow.target) (hrest : Again dead seen forest rest') :
      Again dead seen forest (.branch arrow .nil rest')

variable {dead : String → Prop} {seen : List String} {forest forest' : Forest}

/-- Both forests come upon the same symbols in the same order. -/
theorem Again.firsts (h : Again dead seen forest forest') :
    (seen ++ forest'.touched).eraseDups = (seen ++ forest.touched).eraseDups := by
  induction h with
  | nil => rfl
  | @branch seen arrow below below' rest rest' _ _ ihb ihr =>
    calc (seen ++ (Forest.branch arrow below' rest').touched).eraseDups
        = (seen ++ [arrow.source, arrow.target] ++ below'.touched ++ rest'.touched).eraseDups := by
          simp only [touched_branch, List.append_assoc]
      _ = (seen ++ [arrow.source, arrow.target] ++ below.touched ++ rest'.touched).eraseDups :=
          Firsts.eraseDups_append_congr ihb rest'.touched
      _ = (seen ++ [arrow.source, arrow.target] ++ below.touched ++ rest.touched).eraseDups := ihr
      _ = (seen ++ (Forest.branch arrow below rest).touched).eraseDups := by
          simp only [touched_branch, List.append_assoc]
  | @more seen arrow forest rest' hsource htarget _ _ ih =>
    have hseen : ∀ a ∈ [arrow.source, arrow.target], a ∈ seen := by
      intro a ha
      simp only [List.mem_cons, List.not_mem_nil, or_false] at ha
      rcases ha with rfl | rfl
      · exact hsource
      · exact htarget
    calc (seen ++ (Forest.branch arrow .nil rest').touched).eraseDups
        = (seen ++ [arrow.source, arrow.target] ++ rest'.touched).eraseDups := by
          have hnil : Forest.nil.touched = [] := rfl
          simp only [touched_branch, hnil, List.append_nil, List.append_assoc]
      _ = (seen ++ rest'.touched).eraseDups :=
          Firsts.eraseDups_append_congr (Firsts.eraseDups_append_of_subset hseen) rest'.touched
      _ = (seen ++ forest.touched).eraseDups := ih

/-- A goal that is no dead end leaves the same of both. -/
theorem Again.kept (h : Again dead seen forest forest') {goal : String} (hgoal : ¬ dead goal) :
    forest'.reaches (some goal) = forest.reaches (some goal)
      ∧ forest'.kept (some goal) = forest.kept (some goal) := by
  induction h with
  | nil => exact ⟨rfl, rfl⟩
  | @branch seen arrow below below' rest rest' _ _ ihb ihr =>
    have hstays : stays (some goal) arrow below' = stays (some goal) arrow below := by
      rw [stays, stays, ihb.1]
    refine ⟨?_, ?_⟩
    · rw [reaches_branch, reaches_branch, hstays, ihr.1]
    · cases hs : stays (some goal) arrow below with
      | true => rw [kept_of_stays hs, kept_of_stays (hstays.trans hs), ihb.2, ihr.2]
      | false => rw [kept_of_not_stays hs, kept_of_not_stays (hstays.trans hs), ihr.2]
  | @more seen arrow forest rest' _ _ hdead _ ih =>
    have hne : goal ≠ arrow.target := fun heq => hgoal (heq ▸ hdead)
    have hstays : stays (some goal) arrow .nil = false := by simp [stays, reaches, hne]
    refine ⟨?_, ?_⟩
    · rw [reaches_branch, hstays, Bool.false_or]
      exact ih.1
    · rw [kept_of_not_stays hstays]
      exact ih.2

end Forest

/-! ## Both walks -/

namespace Walk

variable {g : Graph} {plan : Plan} {screen : Screen} {root : String}

/-- The graph without what the filters keep out, the root apart. -/
def remaining (g : Graph) (screen : Screen) (root : String) : Graph :=
  g.without (screen.removes g root)

/-- The walk goes on from a symbol, but only to what the filters keep out. -/
def DeadEnd (g : Graph) (plan : Plan) (screen : Screen) (root name : String) : Prop :=
  goesOn g plan screen name = true
    ∧ goesOn (remaining g screen root) plan screen.showOnly name = false

theorem goesOn_of_remaining {name : String}
    (h : goesOn (remaining g screen root) plan screen.showOnly name = true) :
    goesOn g plan screen name = true := by
  rw [goesOn_iff] at h ⊢
  obtain ⟨hshown, hgoal, call, hcall⟩ := h
  exact ⟨hshown, hgoal, call, Graph.mem_relations_of_without hcall⟩

/-- Is a call left, if it is one of a symbol that is left? -/
def survives (g : Graph) (plan : Plan) (screen : Screen) (root : String) (call : Call) : Bool :=
  !screen.removes g root (call.far plan.direction)

section calls
variable {name : String} {call : Call} {child : Symbol} {visited : List String}

theorem relationsAt_remaining (hname : screen.removes g root name = false) (depth : Nat) :
    relationsAt (remaining g screen root) plan name depth
      = (relationsAt g plan name depth).filter (survives g plan screen root) := by
  have hcalls := Graph.relations_without g plan.direction hname
  unfold relationsAt
  cases plan.maxDepth with
  | none => exact hcalls
  | some bound =>
    by_cases hdepth : bound ≤ (depth : Int)
    · simp [hdepth]
    · simp only [if_neg hdepth]
      exact hcalls

/-- What the filters let in is not removed. -/
theorem survives_of_meets (hm : Meets g plan screen visited call child) (hroot : root ∈ visited) :
    survives g plan screen root call = true := by
  have hfar : call.far plan.direction ≠ root := by
    rw [← Graph.name_of_find? hm.found]
    rintro rfl
    exact hm.fresh hroot
  rw [survives, (Screen.included_iff_not_removes hm.found hfar).mp hm.included]
  rfl

theorem not_removes_of_meets (hm : Meets g plan screen visited call child)
    (hroot : root ∈ visited) : screen.removes g root child.name = false := by
  have hcall := survives_of_meets hm hroot
  rw [survives, ← Graph.name_of_find? hm.found, Bool.not_eq_true'] at hcall
  exact hcall

/-- A call that is left leads to the same symbol in both graphs, and the filters let it in. -/
theorem meets_remaining_iff (hcall : survives g plan screen root call = true)
    (hroot : root ∈ visited) :
    Meets (remaining g screen root) plan screen.showOnly visited call child
      ↔ Meets g plan screen visited call child := by
  have hkept : screen.removes g root (call.far plan.direction) = false := by
    simpa [survives] using hcall
  have hfind : (remaining g screen root).find? (call.far plan.direction)
      = g.find? (call.far plan.direction) := by
    rw [remaining, Graph.find?_without, hkept]
    rfl
  constructor
  · rintro ⟨hfound, -, hfresh⟩
    rw [hfind] at hfound
    refine ⟨hfound, ?_, hfresh⟩
    rw [Screen.included_iff_not_removes hfound]
    · exact hkept
    · rw [← Graph.name_of_find? hfound]
      rintro rfl
      exact hfresh hroot
  · rintro ⟨hfound, -, hfresh⟩
    exact ⟨hfind.trans hfound, Screen.classify_showOnly screen child, hfresh⟩

/-- From a dead end no call is left. -/
theorem DeadEnd.not_survives (h : DeadEnd g plan screen root name)
    (hname : screen.removes g root name = false) (hcall : call ∈ g.relations plan.direction name) :
    survives g plan screen root call = false := by
  obtain ⟨hshown, hgoal, -⟩ := goesOn_iff.mp h.1
  cases hleft : survives g plan screen root call with
  | false => rfl
  | true =>
    have hleft' : call ∈ (remaining g screen root).relations plan.direction name := by
      rw [remaining, Graph.relations_without g plan.direction hname, List.mem_filter]
      exact ⟨hcall, hleft⟩
    have hgoes : goesOn (remaining g screen root) plan screen.showOnly name = true :=
      goesOn_iff.mpr ⟨hshown, hgoal, call, hleft'⟩
    exact hgoes.symm.trans h.2

end calls

/-! ## Dead ends are not expanded any more -/

/-- Of the expanded symbols those are left that are no dead ends; the root is. -/
def Lasting (g : Graph) (plan : Plan) (screen : Screen) (root : String)
    (visited visited' : List String) : Prop :=
  ∀ n, n ∈ visited' ↔ n ∈ visited ∧ (n = root ∨ ¬ DeadEnd g plan screen root n)

section growth
variable {visited visited' : List String} {name : String} {depth : Nat} {pending : List Call}
  {forest : Forest} {after : List String}

theorem Lasting.root_mem (h : Lasting g plan screen root visited visited')
    (hroot : root ∈ visited) : root ∈ visited' :=
  (h root).mpr ⟨hroot, .inl rfl⟩

theorem Lasting.mem (h : Lasting g plan screen root visited visited') (hn : name ∈ visited') :
    name ∈ visited :=
  ((h name).mp hn).1

theorem Lasting.deadEnd (h : Lasting g plan screen root visited visited') (hn : name ∈ visited)
    (hn' : name ∉ visited') : DeadEnd g plan screen root name :=
  Classical.byContradiction fun hlive => hn' ((h name).mpr ⟨hn, .inr hlive⟩)

/-- A symbol that is expanded in both walks. -/
theorem Lasting.concat (h : Lasting g plan screen root visited visited')
    (hlive : ¬ DeadEnd g plan screen root name) :
    Lasting g plan screen root (visited ++ [name]) (visited' ++ [name]) := by
  intro n
  rw [List.mem_append, List.mem_append, List.mem_singleton, h n]
  constructor
  · rintro (⟨hn, hor⟩ | rfl)
    · exact ⟨.inl hn, hor⟩
    · exact ⟨.inr rfl, .inr hlive⟩
  · rintro ⟨hn | rfl, hor⟩
    · exact .inl ⟨hn, hor⟩
    · exact .inr rfl

/-- A symbol that only the walk with the filters expands. -/
theorem Lasting.concat_deadEnd (h : Lasting g plan screen root visited visited')
    (hne : name ≠ root) (hdead : DeadEnd g plan screen root name) :
    Lasting g plan screen root (visited ++ [name]) visited' := by
  intro n
  rw [List.mem_append, List.mem_singleton, h n]
  constructor
  · exact fun ⟨hn, hor⟩ => ⟨.inl hn, hor⟩
  · rintro ⟨hn | rfl, hor⟩
    · exact ⟨hn, hor⟩
    · rcases hor with heq | hlive
      · exact absurd heq hne
      · exact absurd hdead hlive

/-- A call that is followed in the walk with the filters is followed in the other one. -/
theorem Meets.remaining {call : Call} {child : Symbol} (hm : Meets g plan screen visited call child)
    (hroot : root ∈ visited) (h : Lasting g plan screen root visited visited') :
    Meets (remaining g screen root) plan screen.showOnly visited' call child := by
  have hfresh : child.name ∉ visited' := fun hin => hm.fresh (h.mem hin)
  rw [meets_remaining_iff (survives_of_meets hm hroot) (h.root_mem hroot)]
  exact ⟨hm.found, hm.included, hfresh⟩

/-- Nothing grows from calls of which none leads to what the filters let in. -/
theorem Grows.of_no_call (hroot : root ∈ visited)
    (hno : ∀ call ∈ pending, survives g plan screen root call = false)
    (h : Grows g plan screen visited name depth pending forest after) :
    forest = .nil ∧ after = visited := by
  induction h with
  | nil => exact ⟨rfl, rfl⟩
  | pass _ _ ih => exact ih hroot fun call hcall => hno call (.tail _ hcall)
  | tip hm _ _ _ =>
    have hcall := survives_of_meets hm hroot
    rw [hno _ (.head _)] at hcall
    cases hcall
  | enter hm _ _ _ _ _ =>
    have hcall := survives_of_meets hm hroot
    rw [hno _ (.head _)] at hcall
    cases hcall

/-- The forests of both walks: the one without what the filters keep out has more arrows to dead
    ends that the other walk has expanded before. -/
theorem Grows.without (h : Grows g plan screen visited name depth pending forest after)
    (hroot : root ∈ visited) (hlasting : Lasting g plan screen root visited visited') :
    ∃ forest' after',
      Grows (remaining g screen root) plan screen.showOnly visited' name depth
        (pending.filter (survives g plan screen root)) forest' after' ∧
      Lasting g plan screen root after after' ∧
      ∀ seen, name ∈ seen → (∀ n ∈ visited, n ∈ seen) →
        Forest.Again (DeadEnd g plan screen root) seen forest forest' := by
  -- of what was seen only this carries over: it has all symbols that were expanded
  induction h generalizing visited' with
  | nil => exact ⟨.nil, visited', .nil, hlasting, fun _ _ _ => .nil⟩
  | @pass visited name depth call pending forest after hn _ ih =>
    obtain ⟨forest', after', hgrows, hlast, hagain⟩ := ih hroot hlasting
    by_cases hcall : survives g plan screen root call = true
    · rw [List.filter_cons_of_pos hcall]
      by_cases hm : ∃ child,
          Meets (remaining g screen root) plan screen.showOnly visited' call child
      · -- passed over as expanded before, which here it was not: so it is a dead end
        obtain ⟨child, hm⟩ := hm
        have hm' := (meets_remaining_iff hcall (hlasting.root_mem hroot)).mp hm
        have hin : child.name ∈ visited := Classical.byContradiction fun hfresh =>
          hn child ⟨hm'.found, hm'.included, hfresh⟩
        have hdead := hlasting.deadEnd hin hm.fresh
        refine ⟨_, after', .tip hm hdead.2 hgrows, hlast, ?_⟩
        intro seen hname hsub
        exact .more hname (hsub _ hin) hdead (hagain seen hname hsub)
      · exact ⟨forest', after', .pass (fun child hc => hm ⟨child, hc⟩) hgrows, hlast, hagain⟩
    · rw [List.filter_cons_of_neg hcall]
      exact ⟨forest', after', hgrows, hlast, hagain⟩
  | @tip visited name depth call child pending rest after hm hg _ ih =>
    obtain ⟨rest', after', hgrows, hlast, hagain⟩ := ih hroot hlasting
    have hm' := hm.remaining hroot hlasting
    have hg' : goesOn (remaining g screen root) plan screen.showOnly child.name = false := by
      cases hgo : goesOn (remaining g screen root) plan screen.showOnly child.name with
      | false => rfl
      | true => exact (goesOn_of_remaining hgo).symm.trans hg
    rw [List.filter_cons_of_pos (survives_of_meets hm hroot)]
    refine ⟨_, after', .tip hm' hg' hgrows, hlast, ?_⟩
    intro seen hname hsub
    refine .branch .nil (hagain _ (by simp [hname]) ?_)
    intro n hn
    simp [hsub n hn]
  | @enter visited name depth call child pending below between rest after hm hg hbelow _ ihb ihr =>
    have hm' := hm.remaining hroot hlasting
    have hne : child.name ≠ root := fun heq => hm.fresh (heq ▸ hroot)
    have hkept := not_removes_of_meets hm hroot
    have hrootBetween : root ∈ between :=
      hbelow.visited_subset _ (List.mem_append_left _ hroot)
    rw [List.filter_cons_of_pos (survives_of_meets hm hroot)]
    cases hgo : goesOn (remaining g screen root) plan screen.showOnly child.name with
    | false =>
      -- a dead end: nothing is drawn below it
      have hdead : DeadEnd g plan screen root child.name := ⟨hg, hgo⟩
      have hrootBelow : root ∈ visited ++ [child.name] := List.mem_append_left _ hroot
      obtain ⟨rfl, rfl⟩ := hbelow.of_no_call hrootBelow fun call hcall =>
        hdead.not_survives hkept (relationsAt_subset _ _ _ hcall)
      obtain ⟨rest', after', hgrows, hlast, hagain⟩ :=
        ihr hrootBetween (hlasting.concat_deadEnd hne hdead)
      refine ⟨_, after', .tip hm' hgo hgrows, hlast, ?_⟩
      intro seen hname hsub
      have hsub' := Forest.seen_concat hsub (arrowOf plan name child.name call)
      refine .branch .nil (hagain _ (by simp [hname]) ?_)
      exact fun n hn => List.mem_append_left _ (hsub' n hn)
    | true =>
      have hlive : ¬ DeadEnd g plan screen root child.name := by
        rintro ⟨-, hnot⟩
        rw [hgo] at hnot
        cases hnot
      obtain ⟨below', between', hgrowsb, hlastb, hagainb⟩ :=
        ihb (by simp [hroot]) (hlasting.concat hlive)
      rw [← relationsAt_remaining hkept] at hgrowsb
      obtain ⟨rest', after', hgrows, hlast, hagain⟩ := ihr hrootBetween hlastb
      refine ⟨_, after', .enter hm' hgo hgrowsb hgrows, hlast, ?_⟩
      intro seen hname hsub
      have hsub' := Forest.seen_concat hsub (arrowOf plan name child.name call)
      refine .branch (hagainb _ (by simp [arrowOf]) hsub') (hagain _ (by simp [hname]) ?_)
      intro n hn
      rcases hbelow.expanded hn with hn | ⟨hends, -⟩
      · exact List.mem_append_left _ (hsub' n hn)
      · exact List.mem_append_right _ (Forest.mem_touched_of_ends hends)

end growth

/-! ## Both extractions -/

theorem contains_remaining (g : Graph) (screen : Screen) (root : String) :
    (remaining g screen root).contains root = g.contains root := by
  rw [Graph.contains, remaining, Graph.find?_without, Screen.removes_root]
  rfl

theorem rootCalls_remaining (g : Graph) (plan : Plan) (screen : Screen) (root : String) :
    rootCalls (remaining g screen root) plan screen.showOnly root
      = (rootCalls g plan screen root).filter (survives g plan screen root) := by
  unfold rootCalls
  rw [Screen.isShown_showOnly, relationsAt_remaining Screen.removes_root]
  split <;> rfl

theorem goal_not_deadEnd {goal : String} (hgoal : plan.goal = some goal) :
    ¬ DeadEnd g plan screen root goal := by
  rintro ⟨hgoes, -⟩
  exact (goesOn_iff.mp hgoes).2.1 hgoal

/-- Extracting with the filters, and extracting with those that only show from the graph without
    what they keep out, come to the same: either nothing leads to the goal in both, or both succeed
    with the same members in the same order; and with a goal also with the same arrows. -/
theorem removal_keeps_members (g : Graph) (plan : Plan) (root : String) (desk : Desk)
    (hroot : g.contains root = true) :
    (∃ w w', extract g plan root desk = .ok w w.toDesk ∧
      extract (remaining g desk.screen root) plan root { desk with screen := desk.screen.showOnly }
        = .ok w' w'.toDesk ∧
      w'.tally.members = w.tally.members ∧
      (plan.prunes = true → w'.sheet.toList = w.sheet.toList)) ∨
    (∃ goal n n' after after', plan.goal = some goal ∧
      extract g plan root desk = .error (.noPath root goal n) after ∧
      extract (remaining g desk.screen root) plan root { desk with screen := desk.screen.showOnly }
        = .error (.noPath root goal n') after') := by
  obtain ⟨forest, after, hgrows⟩ := exists_grows g plan desk.screen [root] root 0
    (rootCalls g plan desk.screen root)
  have hlasting : Lasting g plan desk.screen root [root] [root] := by
    intro n
    rw [List.mem_singleton]
    exact ⟨fun h => ⟨h, .inl h⟩, And.left⟩
  obtain ⟨forest', after', hgrows', -, hagain⟩ := hgrows.without (by simp) hlasting
  rw [← rootCalls_remaining] at hgrows'
  have hagain := hagain [root] (by simp) fun n hn => hn
  obtain ⟨w, hsheet, hmembers, hextract⟩ := extract_of_grows hroot hgrows
  obtain ⟨w', hsheet', hmembers', hextract'⟩ :=
    @extract_of_grows _ _ _ { desk with screen := desk.screen.showOnly } _ _
      ((contains_remaining g desk.screen root).trans hroot) hgrows'
  cases hgoal : plan.goal with
  | none =>
    rw [hgoal] at hextract hextract' hmembers hmembers'
    refine .inl ⟨w, w', hextract, hextract', ?_, ?_⟩
    · rw [hmembers, hmembers', Forest.kept_none, Forest.kept_none]
      exact hagain.firsts
    · intro hprunes
      simp [Plan.prunes, hgoal] at hprunes
  | some goal =>
    obtain ⟨hreaches, hkept⟩ := hagain.kept (goal_not_deadEnd hgoal)
    rw [hgoal] at hextract hextract' hmembers hmembers' hsheet hsheet'
    by_cases hfails : forest.reaches (some goal) = false ∧ root ≠ goal
    · simp only [hreaches, if_pos hfails] at hextract hextract'
      exact .inr ⟨goal, _, _, _, _, rfl, hextract, hextract'⟩
    · simp only [hreaches, if_neg hfails] at hextract hextract'
      refine .inl ⟨w, w', hextract, hextract', ?_, fun _ => ?_⟩
      · rw [hmembers, hmembers', hkept]
      · rw [hsheet, hsheet', hkept]

/-- A symbol from which only a call to what is ignored leads on, and which two others call: with the
    filters it gets one arrow, and two with the ignored symbol removed. -/
theorem removal_beside_dead_end :
    let g := (((({} : Graph).connect "a" "b" []).connect "b" "noise" []).connect "a" "c" []).connect
      "c" "b" []
    let screen : Screen := { filters := { ignore := ["noise"] } }
    g.contains "a" = true ∧ DeadEnd g {} screen "a" "b" ∧
      ∃ w w', extract g {} "a" { screen } = .ok w w.toDesk ∧
        extract (remaining g screen "a") {} "a" { screen := screen.showOnly } = .ok w' w'.toDesk ∧
        w'.tally.members = w.tally.members := by
  intro g screen
  have hroot : g.contains "a" = true := by decide
  refine ⟨hroot, ⟨by decide, by decide⟩, ?_⟩
  rcases removal_keeps_members g {} "a" { screen } hroot with hboth | ⟨goal, -, -, -, -, hgoal, -⟩
  · obtain ⟨w, w', hextract, hextract', hmembers, -⟩ := hboth
    exact ⟨w, w', hextract, hextract', hmembers⟩
  · cases hgoal

end Walk

end CallExcerpt
