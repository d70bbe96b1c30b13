import CallExcerpt.Proofs.Filter.Verdict
import CallExcerpt.Proofs.Walk.Forest
import CallExcerpt.Proofs.Walk.Move

/-! # What a walk draws

    A walk draws a forest. `Grows` tells which one, by recursion on the calls
    of a frame instead of by moves: it threads the symbols that were expanded
    and knows nothing of the sheet, of settling, or of arrows taken back.

    * `exists_grows`: from each frame some forest grows.
    * `Grows.run`: a walk that works on a frame passes on to where the calls of
      the frame are used up, and has then drawn what the goal leaves of the
      forest.
    * `Outcome`: what an extraction gives, and at the end of which walk;
      `grows_of_extract` tells the forest of an excerpt.
-/

namespace CallExcerpt.Walk

variable {g : Graph} {plan : Plan} {screen : Screen}

/-! ## Growth -/

/-- The forest that grows from the calls of a frame, given the symbols expanded before it, with
    the symbols expanded after it. -/
inductive Grows (g : Graph) (plan : Plan) (screen : Screen) :
    List String → String → Nat → List Call → Forest → List String → Prop where
  /-- No call is left. -/
  | nil {visited name depth} : Grows g plan screen visited name depth [] .nil visited
  /-- The call leads nowhere new. -/
  | pass {visited name depth call pending forest after}
      (hn : ∀ child, ¬ Meets g plan screen visited call child)
      (hrest : Grows g plan screen visited name depth pending forest after) :
      Grows g plan screen visited name depth (call :: pending) forest after
  /-- The call is followed to a symbol from which the walk does not go on. -/
  | tip {visited name depth call child pending rest after}
      (hm : Meets g plan screen visited call child)
      (hg : goesOn g plan screen child.name = false)
      (hrest : Grows g plan screen visited name depth pending rest after) :
      Grows g plan screen visited name depth (call :: pending)
        (.branch (arrowOf plan name child.name call) .nil rest) after
  /-- The call is followed to a symbol that is expanded. -/
  | enter {visited name depth call child pending below between rest after}
      (hm : Meets g plan screen visited call child)
      (hg : goesOn g plan screen child.name = true)
      (hbelow : Grows g plan screen (visited ++ [child.name]) child.name (depth + 1)
        (relationsAt g plan child.name (depth + 1)) below between)
      (hrest : Grows g plan screen between name depth pending rest after) :
      Grows g plan screen visited name depth (call :: pending)
        (.branch (arrowOf plan name child.name call) below rest) after

/-- What was expanded before stays expanded. -/
theorem Grows.visited_subset {visited : List String} {name : String} {depth : Nat}
    {pending : List Call} {forest : Forest} {after : List String}
    (h : Grows g plan screen visited name depth pending forest after) :
    ∀ n ∈ visited, n ∈ after := by
  induction h with
  | nil => exact fun n hn => hn
  | pass _ _ ih => exact ih
  | tip _ _ _ ih => exact ih
  | enter _ _ _ _ ihb ihr =>
    intro n hn
    exact ihr n (ihb n (List.mem_append_left _ hn))

/-! ## What is expanded -/

section facts
variable {visited : List String} {name : String} {depth : Nat} {pending : List Call}
  {forest : Forest} {after : List String}

theorem Grows.hangs (h : Grows g plan screen visited name depth pending forest after) :
    forest.Hangs name := by
  induction h with
  | nil => trivial
  | pass _ _ ih => exact ih
  | tip _ _ _ ih => exact ⟨rfl, trivial, ih⟩
  | enter _ _ _ _ ihb ihr => exact ⟨rfl, ihb, ihr⟩

/-- An arrow begins at the symbol of the frame or at one that is expanded below it. -/
theorem Grows.source_mem (h : Grows g plan screen visited name depth pending forest after)
    {a : Arrow} (ha : a ∈ forest.arrows) :
    a.source = name ∨ (a.source ∈ after ∧ a.source ∉ visited) := by
  induction h with
  | nil => cases ha
  | pass _ _ ih => exact ih ha
  | tip _ _ _ ih =>
    simp only [Forest.arrows, List.nil_append, List.mem_cons] at ha
    rcases ha with rfl | ha
    · exact .inl rfl
    · exact ih ha
  | enter hm _ hbelow hrest ihb ihr =>
    simp only [Forest.arrows, List.mem_cons, List.mem_append] at ha
    rcases ha with rfl | ha | ha
    · exact .inl rfl
    · -- below the child: the child itself is expanded here and was not before
      right
      rcases ihb ha with h | ⟨hin, hout⟩
      · rw [h]
        exact ⟨hrest.visited_subset _ (hbelow.visited_subset _ (by simp)), hm.fresh⟩
      · exact ⟨hrest.visited_subset _ hin, fun hv => hout (List.mem_append_left _ hv)⟩
    · refine (ihr ha).imp_right ?_
      rintro ⟨hin, hout⟩
      refine ⟨hin, fun hv => hout ?_⟩
      exact hbelow.visited_subset _ (List.mem_append_left _ hv)

/-- No arrow ends at a symbol that was expanded before. -/
theorem Grows.not_ends (h : Grows g plan screen visited name depth pending forest after)
    {n : String} (hn : n ∈ visited) : ¬ forest.Ends n := by
  induction h with
  | nil => exact Forest.not_ends_nil n
  | pass _ _ ih => exact ih hn
  | tip hm _ _ ih =>
    rw [Forest.ends_branch]
    rintro (rfl | h | h)
    · exact hm.fresh hn
    · exact Forest.not_ends_nil n h
    · exact ih hn h
  | enter hm _ hbelow _ ihb ihr =>
    rw [Forest.ends_branch]
    rintro (rfl | h | h)
    · exact hm.fresh hn
    · exact ihb (List.mem_append_left _ hn) h
    · exact ihr (hbelow.visited_subset _ (List.mem_append_left _ hn)) h

/-- What is expanded was expanded before, or an arrow ends there and the walk goes on from it. -/
theorem Grows.expanded (h : Grows g plan screen visited name depth pending forest after)
    {n : String} (hn : n ∈ after) :
    n ∈ visited ∨ (forest.Ends n ∧ goesOn g plan screen n = true) := by
  induction h with
  | nil => exact .inl hn
  | pass _ _ ih => exact ih hn
  | tip _ _ _ ih =>
    refine (ih hn).imp_right ?_
    rintro ⟨h, hgo⟩
    exact ⟨Forest.ends_branch.mpr (.inr (.inr h)), hgo⟩
  | enter hm hg _ _ ihb ihr =>
    rw [Forest.ends_branch]
    rcases ihr hn with hbetween | ⟨h, hgo⟩
    · rcases ihb hbetween with hv | ⟨h, hgo⟩
      · rcases List.mem_append.mp hv with hv | hv
        · exact .inl hv
        · obtain rfl := List.mem_singleton.mp hv
          exact .inr ⟨.inl rfl, hg⟩
      · exact .inr ⟨.inr (.inl h), hgo⟩
    · exact .inr ⟨.inr (.inr h), hgo⟩

/-- A symbol at which an arrow ends is expanded if the walk goes on from it. -/
theorem Grows.expanded_of_ends (h : Grows g plan screen visited name depth pending forest after)
    {n : String} (hn : forest.Ends n) (hgo : goesOn g plan screen n = true) : n ∈ after := by
  induction h with
  | nil => exact absurd hn (Forest.not_ends_nil n)
  | pass _ _ ih => exact ih hn
  | tip _ hg _ ih =>
    rcases Forest.ends_branch.mp hn with rfl | h | h
    · exact absurd (hg.symm.trans hgo) (by simp)
    · exact absurd h (Forest.not_ends_nil n)
    · exact ih h
  | @enter visited _ _ _ child _ _ _ _ _ _ _ hbelow hrest ihb ihr =>
    rcases Forest.ends_branch.mp hn with rfl | h | h
    · have hin : child.name ∈ visited ++ [child.name] := by simp
      exact hrest.visited_subset _ (hbelow.visited_subset _ hin)
    · exact hrest.visited_subset _ (ihb h)
    · exact ihr h

end facts

/-! ## Existence -/

theorem freshWork_anti (g : Graph) (plan : Plan) {few many : List String}
    (h : ∀ n ∈ few, n ∈ many) (symbols : List Symbol) :
    freshWork g plan many symbols ≤ freshWork g plan few symbols := by
  induction symbols with
  | nil => exact Nat.le_refl _
  | cons s rest ih =>
    rw [freshWork_cons, freshWork_cons]
    by_cases hs : s.name ∈ few
    · simpa [hs, h _ hs] using ih
    · by_cases hs' : s.name ∈ many
      · simp only [hs, hs', if_true, if_false]
        omega
      · simp only [hs, hs', if_false]
        omega

/-- A symbol that is expanded for the first time uses up some of the work that was left. -/
theorem freshWork_lt_of_meets {visited : List String} {call : Call} {child : Symbol}
    (hm : Meets g plan screen visited call child) :
    freshWork g plan (visited ++ [child.name]) g.symbols < freshWork g plan visited g.symbols := by
  have hmem : child ∈ g.symbols := List.mem_of_find?_eq_some hm.found
  have hadd := freshWork_append_add g plan visited hmem hm.fresh
  have hpos : 2 ≤ symbolWork g plan child := by
    unfold symbolWork
    omega
  omega

/-- From each frame some forest grows. -/
theorem exists_grows (g : Graph) (plan : Plan) (screen : Screen) (visited : List String)
    (name : String) (depth : Nat) (pending : List Call) :
    ∃ forest after, Grows g plan screen visited name depth pending forest after := by
  -- on the work left to unexpanded symbols, and for one amount of it on the calls of the frame
  generalize hwork : freshWork g plan visited g.symbols = work
  induction work using Nat.strongRecOn generalizing visited name depth pending with
  | _ work ih =>
    induction pending generalizing visited with
    | nil => exact ⟨.nil, visited, .nil⟩
    | cons call pending ihp =>
      by_cases hm : ∃ child, Meets g plan screen visited call child
      · obtain ⟨child, hm⟩ := hm
        cases hg : goesOn g plan screen child.name with
        | false =>
          obtain ⟨rest, after, hrest⟩ := ihp visited hwork
          exact ⟨_, _, .tip hm hg hrest⟩
        | true =>
          have hlt := freshWork_lt_of_meets hm
          obtain ⟨below, between, hbelow⟩ := ih _ (hwork ▸ hlt) (visited ++ [child.name])
            child.name (depth + 1) (relationsAt g plan child.name (depth + 1)) rfl
          have hle := freshWork_anti g plan hbelow.visited_subset g.symbols
          obtain ⟨rest, after, hrest⟩ := ih (freshWork g plan between g.symbols) (by omega)
            between name depth pending rfl
          exact ⟨_, _, .enter hm hg hbelow hrest⟩
      · obtain ⟨forest, after, hrest⟩ := ihp visited hwork
        exact ⟨forest, after, .pass (fun child hc => hm ⟨child, hc⟩) hrest⟩

/-! ## Settling a child -/

theorem meets_iff_of_agrees {now : Screen} (ha : screen.Agrees g now) {visited : List String}
    {call : Call} {child : Symbol} :
    Meets g plan now visited call child ↔ Meets g plan screen visited call child := by
  constructor
  · intro hm
    exact ⟨hm.found, ha.verdict hm.found ▸ hm.included, hm.fresh⟩
  · intro hm
    exact ⟨hm.found, (ha.verdict hm.found).symm ▸ hm.included, hm.fresh⟩

theorem goesOn_of_agrees {now : Screen} (ha : screen.Agrees g now) (name : String) :
    goesOn g plan now name = goesOn g plan screen name := by
  unfold goesOn
  rw [ha.isShown]

/-- The move that settles a child: its arrow stays if the walk has no goal or the goal was reached
    from the child, and is taken back otherwise, provided it lies on top then. -/
theorem exists_move_settle {w : Walk} {frame : Frame} {rest : List Frame} {child : String}
    {drawn old : List Arrow} {arrow : Arrow} (hf : w.frames = frame :: rest)
    (hc : frame.child = some child) (hs : w.sheet.stack = drawn ++ arrow :: old)
    (hd : plan.prunes = true → w.leadsOn child = false → drawn = []) :
    ∃ w', Move g plan w w' ∧
      w'.frames = { frame with
        child := none, reached := frame.reached || (plan.prunes && w.leadsOn child) } :: rest ∧
      w'.sheet.stack
        = (if !plan.prunes || w.leadsOn child then drawn ++ arrow :: old else old) ∧
      w'.visited = w.visited ∧ w'.screen = w.screen ∧ ∀ name, w'.leadsOn name = w.leadsOn name := by
  by_cases hk : plan.prunes = true → w.leadsOn child = true
  · -- the arrow stays
    refine ⟨_, .keep hf hc hk, ?_, ?_, rfl, rfl, fun _ => rfl⟩
    · cases hp : plan.prunes with
      | false => rfl
      | true => simp [hk hp]
    · cases hp : plan.prunes with
      | false => simpa using hs
      | true => simpa [hk hp] using hs
  · -- the arrow goes, and it lies on top because nothing was drawn above it
    have hp : plan.prunes = true := by
      cases hp : plan.prunes with
      | false => exact absurd (fun h => by rw [hp] at h; cases h) hk
      | true => rfl
    have hr : w.leadsOn child = false := by
      cases hr : w.leadsOn child with
      | false => rfl
      | true => exact absurd (fun _ => hr) hk
    have hstack : w.sheet.stack = arrow :: old := by
      rw [hs, hd hp hr, List.nil_append]
    refine ⟨_, .takeBack hf hc hp hr hstack, ?_, ?_, rfl, rfl, ?_⟩
    · simp [hr]
    · simp [hp, hr]
    · intro name
      unfold leadsOn
      cases hl : w.reached.lookup child with
      | some b => rfl
      | none =>
        by_cases hname : name = child
        · simp [hname, hl]
        · simp [Table.lookup_put_ne hname]

/-! ## Walks draw what grows -/

/-- A walk stands at some frames, with some symbols expanded: its filters give the verdicts that
    they gave at the start, and a symbol from which the goal was reached is expanded or the goal. -/
structure At (g : Graph) (plan : Plan) (screen : Screen) (frames : List Frame)
    (visited : List String) (w : Walk) : Prop where
  stands : w.frames = frames
  expanded : w.visited = visited
  agrees : screen.Agrees g w.screen
  settled : ∀ name, w.leadsOn name = true → plan.goal = some name ∨ name ∈ visited

/-- A look at a call that leads nowhere new. -/
private theorem At.pass {w : Walk} {frame : Frame} {rest : List Frame} {visited : List String}
    {call : Call} {pending : List Call} (hat : At g plan screen (frame :: rest) visited w)
    (hc : frame.child = none) (hp : frame.pending = call :: pending)
    (hn : ∀ child, ¬ Meets g plan screen visited call child) :
    ∃ w', Move g plan w w' ∧ At g plan screen ({ frame with pending } :: rest) visited w' ∧
      w'.sheet = w.sheet ∧ ∀ name, w'.leadsOn name = w.leadsOn name := by
  have hn' : ∀ child, ¬ Meets g plan w.screen w.visited call child := by
    intro child hm
    rw [meets_iff_of_agrees hat.agrees, hat.expanded] at hm
    exact hn child hm
  -- the look may have noted an extern, which changes no verdict
  refine ⟨_, .pass hat.stands hc hp hn', ⟨rfl, hat.expanded, ?_, hat.settled⟩, rfl, fun _ => rfl⟩
  cases hfound : g.find? (call.far plan.direction) with
  | none => exact hat.agrees
  | some child => exact hat.agrees.trans (Screen.agrees_classify w.screen hfound)

/-- A call is followed: the arrow lies on top, and the child is known to lead on only if it is
    the goal. -/
private theorem At.follow {w : Walk} {frame : Frame} {rest : List Frame} {visited : List String}
    {call : Call} {pending : List Call} {child : Symbol}
    (hat : At g plan screen (frame :: rest) visited w) (hc : frame.child = none)
    (hp : frame.pending = call :: pending) (hm : Meets g plan screen visited call child) :
    ∃ w', Move g plan w w' ∧
      At g plan screen
        (if goesOn g plan screen child.name then
          frameBelow frame child g plan
            :: { frame with pending, child := some child.name } :: rest
        else { frame with pending, child := some child.name } :: rest)
        (if goesOn g plan screen child.name then visited ++ [child.name] else visited) w' ∧
      w'.sheet.stack = arrowOf plan frame.name child.name call :: w.sheet.stack ∧
      w'.leadsOn child.name = decide (plan.goal = some child.name) ∧
      ∀ name, name ≠ child.name → w'.leadsOn name = w.leadsOn name := by
  have hm' : Meets g plan w.screen w.visited call child := by
    rw [meets_iff_of_agrees hat.agrees, hat.expanded]
    exact hm
  have hagrees : screen.Agrees g (w.screen.classify child).2 :=
    hat.agrees.trans (Screen.agrees_classify w.screen hm.found)
  -- a symbol that was not expanded is known to lead on only if it is the goal
  have hself : w.leadsOn child.name = true → plan.goal = some child.name := by
    intro h
    exact (hat.settled _ h).resolve_right hm.fresh
  have hlead : ∀ name, name ≠ child.name →
      (Walk.follow g plan { w with screen := (w.screen.classify child).2 } { frame with pending }
        rest call child).leadsOn name = w.leadsOn name := by
    intro name hname
    unfold leadsOn
    rw [follow_reached]
    split
    · rw [Table.lookup_put_ne hname]
    · rfl
  have hchild : (Walk.follow g plan { w with screen := (w.screen.classify child).2 }
      { frame with pending } rest call child).leadsOn child.name
        = decide (plan.goal = some child.name) := by
    unfold leadsOn
    rw [follow_reached]
    by_cases hgoal : plan.goal = some child.name
    · simp [hgoal]
    · have hno : w.leadsOn child.name = false := by
        rw [← Bool.not_eq_true]
        exact fun h => hgoal (hself h)
      rw [leadsOn] at hno
      simpa [hgoal] using hno
  refine ⟨_, .follow hat.stands hc hp hm', ⟨?_, ?_, ?_, ?_⟩, ?_, hchild, hlead⟩
  · rw [follow_frames, goesOn_of_agrees hagrees]
    rfl
  · rw [follow_visited, goesOn_of_agrees hagrees, hat.expanded]
  · rw [follow_screen]
    exact hagrees
  · intro name hname
    by_cases h : name = child.name
    · rw [h, hchild] at hname
      left
      rw [h]
      simpa using hname
    · rw [hlead name h] at hname
      refine (hat.settled name hname).imp_right ?_
      intro hv
      split
      · exact List.mem_append_left _ hv
      · exact hv
  · rw [follow_sheet]
    rfl

/-- The calls of a frame are used up: its symbol leads on if the frame has reached the goal. -/
private theorem At.leave {w : Walk} {frame : Frame} {rest : List Frame} {visited : List String}
    (hat : At g plan screen (frame :: rest) visited w) (hc : frame.child = none)
    (hp : frame.pending = []) (hin : frame.name ∈ visited) :
    ∃ w', Move g plan w w' ∧ At g plan screen rest visited w' ∧ w'.sheet = w.sheet ∧
      w'.leadsOn frame.name = (frame.reached || w.leadsOn frame.name) ∧
      ∀ name, name ≠ frame.name → w'.leadsOn name = w.leadsOn name := by
  have hother : ∀ name, name ≠ frame.name →
      (w.leave frame rest).leadsOn name = w.leadsOn name := by
    intro name hname
    unfold leadsOn Walk.leave
    split
    · rw [Table.lookup_put_ne hname]
    · rfl
  refine ⟨_, .leave hat.stands hc hp, ⟨rfl, hat.expanded, hat.agrees, ?_⟩, rfl, ?_, hother⟩
  · intro name hname
    by_cases h : name = frame.name
    · exact .inr (h ▸ hin)
    · exact hat.settled name (hother name h ▸ hname)
  · unfold leadsOn Walk.leave
    cases frame.reached <;> simp

/-- A child is settled once its branch is drawn: the branch stays or goes as a whole. -/
private theorem At.settle {w : Walk} {frame : Frame} {rest : List Frame} {visited : List String}
    {arrow : Arrow} {below : Forest} {old : List Arrow}
    (hat : At g plan screen (frame :: rest) visited w) (hc : frame.child = some arrow.target)
    (hs : w.sheet.stack = (below.kept plan.goal).arrows.reverse ++ arrow :: old)
    (hl : plan.prunes = true → w.leadsOn arrow.target = Forest.stays plan.goal arrow below) :
    ∃ w', Move g plan w w' ∧
      At g plan screen ({ frame with
        child := none, reached := frame.reached || Forest.stays plan.goal arrow below } :: rest)
        visited w' ∧
      w'.sheet.stack
        = ((Forest.branch arrow below .nil).kept plan.goal).arrows.reverse ++ old ∧
      ∀ name, w'.leadsOn name = w.leadsOn name := by
  cases hgoal : plan.goal with
  | none =>
    have hp : plan.prunes = false := by simp [Plan.prunes, hgoal]
    obtain ⟨w', hmove, hframes, hstack, hvisited, hscreen, hlead⟩ :=
      exists_move_settle hat.stands hc hs (fun h => by rw [hp] at h; cases h)
    refine ⟨w', hmove, ⟨?_, hvisited.trans hat.expanded, hscreen ▸ hat.agrees, ?_⟩, ?_, hlead⟩
    · rw [hframes, hp]
      simp [Forest.stays, Forest.reaches_none]
    · intro name hname
      exact hat.settled name (hlead name ▸ hname)
    · rw [hstack, hp, hgoal]
      simp [Forest.arrows]
  | some goal =>
    have hp : plan.prunes = true := by simp [Plan.prunes, hgoal]
    rw [hgoal] at hs hl
    -- a branch that does not stay has left nothing above its arrow
    have hdrawn : plan.prunes = true → w.leadsOn arrow.target = false →
        (below.kept (some goal)).arrows.reverse = [] := by
      intro _ hno
      rw [hl hp, Forest.stays, Bool.or_eq_false_iff] at hno
      rw [Forest.kept_eq_nil hno.2]
      rfl
    obtain ⟨w', hmove, hframes, hstack, hvisited, hscreen, hlead⟩ :=
      exists_move_settle hat.stands hc hs hdrawn
    refine ⟨w', hmove, ⟨?_, hvisited.trans hat.expanded, hscreen ▸ hat.agrees, ?_⟩, ?_, hlead⟩
    · rw [hframes, hp, hl hp, Bool.true_and]
    · intro name hname
      exact hat.settled name (hlead name ▸ hname)
    · rw [hstack, hp, hl hp]
      cases hst : Forest.stays (some goal) arrow below with
      | true => simp [Forest.kept, hst, Forest.arrows]
      | false => simp [Forest.kept, hst, Forest.arrows]

/-- A walk that works on a frame passes on to where the calls of the frame are used up. It has
    drawn what the goal leaves of the forest that grows there, and the frame has reached the goal
    if the forest does. -/
theorem Grows.run {visited : List String} {name : String} {depth : Nat} {pending : List Call}
    {forest : Forest} {after : List String}
    (h : Grows g plan screen visited name depth pending forest after) :
    ∀ {w : Walk} {frame : Frame} {rest : List Frame},
      At g plan screen (frame :: rest) visited w → frame.name = name → frame.depth = depth →
      frame.pending = pending → frame.child = none →
      ∃ w', Passes g plan w w' ∧
        At g plan screen
          ({ frame with pending := [], reached := frame.reached || forest.reaches plan.goal }
            :: rest) after w' ∧
        w'.sheet.stack = (forest.kept plan.goal).arrows.reverse ++ w.sheet.stack ∧
        ∀ n ∈ visited, plan.goal ≠ some n → w'.leadsOn n = w.leadsOn n := by
  -- by the growth; the last clause says that what is known of the symbols expanded before stays,
  -- so that the walk still knows of a child what it knew when it came back from it
  induction h with
  | nil =>
    intro w frame rest hat _ _ hp hc
    refine ⟨w, .refl w, ?_, rfl, fun _ _ _ => rfl⟩
    simpa [Forest.reaches, ← hp] using hat
  | pass hn _ ih =>
    intro w frame rest hat hname hdepth hp hc
    obtain ⟨w₁, hmove, hat₁, hsheet, hlead⟩ := hat.pass hc hp hn
    obtain ⟨w', hrun, hat', hstack, hold⟩ := ih hat₁ hname hdepth rfl hc
    refine ⟨w', hmove.passes.trans hrun, hat', ?_, ?_⟩
    · rw [hstack, hsheet]
    · intro n hn hgoal
      rw [hold n hn hgoal, hlead]
  | @tip visited name depth call child pending rest' after hm hg _ ih =>
    intro w frame rest hat hname hdepth hp hc
    -- the arrow is drawn, and the child is settled at once
    obtain ⟨w₁, hmove₁, hat₁, hstack₁, hself, hother⟩ := hat.follow hc hp hm
    simp only [hg, Bool.false_eq_true, if_false] at hat₁
    have hl : plan.prunes = true → w₁.leadsOn (arrowOf plan name child.name call).target
        = Forest.stays plan.goal (arrowOf plan name child.name call) .nil := by
      intro _
      exact hself.trans (by simp [Forest.stays, Forest.reaches, arrowOf])
    rw [hname] at hstack₁
    have hs : w₁.sheet.stack = (Forest.nil.kept plan.goal).arrows.reverse
        ++ arrowOf plan name child.name call :: w.sheet.stack := hstack₁
    obtain ⟨w₂, hmove₂, hat₂, hstack₂, hlead₂⟩ := hat₁.settle rfl hs hl
    obtain ⟨w', hrun, hat', hstack, hold⟩ := ih hat₂ hname hdepth rfl rfl
    refine ⟨w', hmove₁.passes.trans (hmove₂.passes.trans hrun), ?_, ?_, ?_⟩
    · simpa [Forest.reaches_branch, Bool.or_assoc, hc] using hat'
    · rw [hstack, hstack₂, Forest.arrows_kept_branch _ _ _ rest', List.reverse_append,
        List.append_assoc]
    · intro n hn hgoal
      have hne : n ≠ child.name := fun h => hm.fresh (h ▸ hn)
      rw [hold n hn hgoal, hlead₂, hother n hne]
  | @enter visited name depth call child pending below between rest' after hm hg hbelow _ ihb ihr =>
    intro w frame rest hat hname hdepth hp hc
    obtain ⟨w₁, hmove₁, hat₁, hstack₁, hself, hother⟩ := hat.follow hc hp hm
    simp only [hg, if_true] at hat₁
    -- down to the child, through all that is below it, and back up
    obtain ⟨w₂, hrun₂, hat₂, hstack₂, hold₂⟩ :=
      ihb hat₁ rfl (congrArg (· + 1) hdepth) (by rw [frameBelow, hdepth]) rfl
    have hin : child.name ∈ between := hbelow.visited_subset _ (by simp)
    obtain ⟨w₃, hmove₃, hat₃, hsheet₃, hself₃, hother₃⟩ := hat₂.leave rfl rfl hin
    have hgoal : plan.goal ≠ some child.name := by
      unfold goesOn at hg
      simp only [Bool.and_eq_true, decide_eq_true_eq] at hg
      exact hg.1.2
    -- the walk knows of the child just what its forest tells
    have hback : w₃.leadsOn child.name = below.reaches plan.goal := by
      calc w₃.leadsOn child.name
          = (below.reaches plan.goal || w₂.leadsOn child.name) := hself₃
        _ = (below.reaches plan.goal || decide (plan.goal = some child.name)) := by
          rw [hold₂ child.name (by simp) hgoal, hself]
        _ = below.reaches plan.goal := by simp [hgoal]
    have hl : plan.prunes = true → w₃.leadsOn (arrowOf plan name child.name call).target
        = Forest.stays plan.goal (arrowOf plan name child.name call) below := by
      intro _
      exact hback.trans (by simp [Forest.stays, arrowOf, hgoal])
    rw [hname] at hstack₁
    rw [hstack₁, ← hsheet₃] at hstack₂
    obtain ⟨w₄, hmove₄, hat₄, hstack₄, hlead₄⟩ := hat₃.settle rfl hstack₂ hl
    obtain ⟨w', hrun, hat', hstack, hold⟩ := ihr hat₄ hname hdepth rfl rfl
    refine ⟨w', hmove₁.passes.trans (hrun₂.trans (hmove₃.passes.trans
      (hmove₄.passes.trans hrun))), ?_, ?_, ?_⟩
    · simpa [Forest.reaches_branch, Bool.or_assoc, hc] using hat'
    · rw [hstack, hstack₄, Forest.arrows_kept_branch _ _ _ rest', List.reverse_append,
        List.append_assoc]
    · intro n hn hngoal
      have hne : n ≠ child.name := fun h => hm.fresh (h ▸ hn)
      have hnbetween : n ∈ between := hbelow.visited_subset n (List.mem_append_left _ hn)
      rw [hold n hnbetween hngoal, hlead₄, hother₃ n hne,
        hold₂ n (List.mem_append_left _ hn) hngoal, hother n hne]

/-! ## From the root -/

/-- The calls that a walk follows from its root. -/
def rootCalls (g : Graph) (plan : Plan) (screen : Screen) (root : String) : List Call :=
  if screen.isShown root then [] else relationsAt g plan root 0

theorem start_at (g : Graph) (plan : Plan) (root : Symbol) (desk : Desk) :
    At g plan desk.screen
      [{ name := root.name, depth := 0, pending := rootCalls g plan desk.screen root.name }]
      [root.name] (start g plan root desk) := by
  refine ⟨rfl, rfl, .refl g desk.screen, ?_⟩
  intro name hname
  left
  unfold leadsOn start at hname
  by_cases hgoal : plan.goal = some root.name
  · by_cases hn : name = root.name
    · rw [hn, hgoal]
    · have hne : (name == root.name) = false := by simpa using hn
      simp [hgoal, List.lookup_cons, hne] at hname
  · simp [hgoal] at hname

/-- A walk from a root comes to its end, with what the goal leaves of the forest that grows from
    the root on top of what was drawn before. -/
theorem exists_end_of_grows {root : String} {desk : Desk} {forest : Forest} {after : List String}
    (hroot : g.contains root = true)
    (h : Grows g plan desk.screen [root] root 0 (rootCalls g plan desk.screen root) forest after) :
    ∃ w, OnWay g plan root desk w ∧ w.frames = [] ∧ w.visited = after ∧
      w.sheet.stack = (forest.kept plan.goal).arrows.reverse ++ desk.sheet.stack := by
  obtain ⟨symbol, hsymbol⟩ := Option.isSome_iff_exists.mp hroot
  obtain rfl : symbol.name = root := Graph.name_of_find? hsymbol
  obtain ⟨w, hrun, hat, hstack, -⟩ := h.run (start_at g plan symbol desk) rfl rfl rfl rfl
  have hin : symbol.name ∈ after := h.visited_subset _ (by simp)
  obtain ⟨w', hmove, hat', hsheet, -⟩ := hat.leave rfl rfl hin
  refine ⟨w', ⟨symbol, hsymbol, hrun.trans hmove.passes⟩, hat'.stands, hat'.expanded, ?_⟩
  rw [hsheet, hstack]
  rfl

/-! ## What an extraction gives -/

/-- What an extraction from a root can give: a failure if there is no such symbol; a failure at the
    end of a walk that has a goal and has kept nothing; and else the walk. -/
inductive Outcome (g : Graph) (plan : Plan) (root : String) (desk : Desk) :
    EStateM.Result WalkFault Desk Walk → Prop where
  /-- There is no symbol of the name. -/
  | unknown (hroot : g.find? root = none) :
      Outcome g plan root desk (.error (.unknownSymbol root) desk)
  /-- The walk has kept no arrow, and its root is not its goal. -/
  | noPath {w goal} (hw : OnWay g plan root desk w) (hended : w.frames = [])
      (hgoal : plan.goal = some goal) (hne : root ≠ goal) (hempty : w.tally.arrows = 0) :
      Outcome g plan root desk (.error (.noPath root goal w.tally.takenBack) w.toDesk)
  /-- The walk is the account of the excerpt. -/
  | excerpt {w} (hw : OnWay g plan root desk w) (hended : w.frames = [])
      (hkept : ∀ goal, plan.goal = some goal → w.tally.arrows = 0 → root = goal) :
      Outcome g plan root desk (.ok w w.toDesk)

theorem outcome_extract (g : Graph) (plan : Plan) (root : String) (desk : Desk) :
    Outcome g plan root desk (extract g plan root desk) := by
  cases hfind : g.find? root with
  | none =>
    rw [extract_of_unknown hfind]
    exact .unknown hfind
  | some symbol =>
    have hroot : g.contains root = true := by simp [Graph.contains, hfind]
    obtain ⟨forest, after, hgrows⟩ := exists_grows g plan desk.screen [root] root 0
      (rootCalls g plan desk.screen root)
    obtain ⟨w, hw, hended, -, -⟩ := exists_end_of_grows hroot hgrows
    rw [extract_of_onWay hw hended]
    cases hgoal : plan.goal with
    | none =>
      refine .excerpt hw hended ?_
      intro goal h
      rw [hgoal] at h
      cases h
    | some goal =>
      by_cases hempty : w.tally.arrows = 0 ∧ root ≠ goal
      · simp only [if_pos hempty]
        exact .noPath hw hended hgoal hempty.2 hempty.1
      · simp only [if_neg hempty]
        refine .excerpt hw hended ?_
        intro goal' h hzero
        rw [hgoal] at h
        cases h
        by_cases hne : root = goal
        · exact hne
        · exact absurd ⟨hzero, hne⟩ hempty

/-- The walk of an excerpt has drawn what the goal leaves of the forest that grows from its root. -/
theorem grows_of_extract {root : String} {desk desk' : Desk} {w : Walk}
    (hextract : extract g plan root desk = .ok w desk') :
    OnWay g plan root desk w ∧ w.frames = [] ∧ desk' = w.toDesk ∧
      ∃ forest, w.sheet.toList = desk.sheet.toList ++ (forest.kept plan.goal).arrows ∧
        Grows g plan desk.screen [root] root 0 (rootCalls g plan desk.screen root) forest
          w.visited := by
  have houtcome := outcome_extract g plan root desk
  rw [hextract] at houtcome
  cases houtcome with
  | excerpt hw hended _ =>
    refine ⟨hw, hended, rfl, ?_⟩
    have hroot : g.contains root = true := by
      obtain ⟨symbol, hsymbol, -⟩ := hw
      simp [Graph.contains, hsymbol]
    obtain ⟨forest, after, hgrows⟩ := exists_grows g plan desk.screen [root] root 0
      (rootCalls g plan desk.screen root)
    obtain ⟨w', hw', hended', hvisited, hstack⟩ := exists_end_of_grows hroot hgrows
    -- a walk has one end
    obtain rfl : w = w' := by
      obtain ⟨symbol, hsymbol, hrun⟩ := hw
      obtain ⟨symbol', hsymbol', hrun'⟩ := hw'
      obtain rfl : symbol = symbol' := Option.some.inj (hsymbol.symm.trans hsymbol')
      have hfinish := finish_of_passes hrun
      rw [finish_of_passes hrun', finish_of_done hended, finish_of_done hended'] at hfinish
      exact (congrArg Prod.fst hfinish).symm
    refine ⟨forest, ?_, hvisited ▸ hgrows⟩
    simp [Sheet.toList, hstack]

end CallExcerpt.Walk
