import CallExcerpt.Proofs.Walk.Attributes
import Mathlib.Data.List.Forall2

/-! # Walks against the calls

    A walk against the calls of a graph is a walk along the calls of the graph
    in which every call is turned round. Each of the two makes the move that
    the other makes: what differs is which end of a call is its caller, and the
    label of an arrow, which goes by the callee.

    * `Graph.transpose`: the graph with its calls turned round, in their order;
      what a symbol calls there is what called it (`relations_transpose`).
    * `Opposite`: arrows, desks and walks that differ in no more than that.
    * `Move.opposite`, `Passes.opposite`: one move, and a run.
    * `extract_transpose`: the two extractions.
-/

namespace CallExcerpt

/-! ## Turning calls round -/

/-- The other way along calls. -/
def Direction.opposite : Direction → Direction
  | .forward => .reverse
  | .reverse => .forward

namespace Call

/-- The call with its ends exchanged. -/
def turned (c : Call) : Call := { c with caller := c.callee, callee := c.caller }

@[simp] theorem near_turned (d : Direction) (c : Call) : c.turned.near d.opposite = c.near d := by
  cases d <;> rfl

@[simp] theorem far_turned (d : Direction) (c : Call) : c.turned.far d.opposite = c.far d := by
  cases d <;> rfl

end Call

/-- The same plan for a walk the other way. -/
def Plan.turned (p : Plan) : Plan := { p with direction := p.direction.opposite }

/-- The graph with every call turned round. -/
def Graph.transpose (g : Graph) : Graph := { g with calls := g.calls.map Call.turned }

/-- What a walk follows from a symbol is what a walk the other way follows in the transpose, in the
    same order. -/
theorem Graph.relations_transpose (g : Graph) (d : Direction) (name : String) :
    g.transpose.relations d.opposite name = (g.relations d name).map Call.turned := by
  simp only [relations, transpose, List.filter_map, Function.comp_def, Call.near_turned]

/-! ## What differs -/

/-- Arrows between the same symbols, for calls of which each is the other one turned round. -/
structure Arrow.Opposite (a a' : Arrow) : Prop where
  source : a'.source = a.source
  target : a'.target = a.target
  caller : a'.caller = a.callee
  callee : a'.callee = a.caller

/-- The same is done with arrows that are opposite. -/
inductive Stroke.Opposite : Stroke → Stroke → Prop where
  /-- Both are drawn. -/
  | drawn {a a'} (h : a.Opposite a') : Opposite (.drawn a) (.drawn a')
  /-- Both are taken back. -/
  | takenBack {a a'} (h : a.Opposite a') : Opposite (.takenBack a) (.takenBack a')

/-- Desks on which everything is the same, up to arrows that are opposite. -/
structure Desk.Opposite (desk desk' : Desk) : Prop where
  sheet : List.Forall₂ Arrow.Opposite desk.sheet.stack desk'.sheet.stack
  strokes : List.Forall₂ Stroke.Opposite desk.strokes desk'.strokes
  styling : desk'.styling = desk.styling
  screen : desk'.screen = desk.screen

/-- The frame with the calls that were not looked at turned round. -/
def Frame.turned (f : Frame) : Frame := { f with pending := f.pending.map Call.turned }

namespace Walk

/-- Walks that stand at the same place, one along and one against the calls. -/
structure Opposite (w w' : Walk) : Prop extends Desk.Opposite w.toDesk w'.toDesk where
  frames : w'.frames = w.frames.map Frame.turned
  visited : w'.visited = w.visited
  reached : w'.reached = w.reached
  tally : w'.tally = w.tally

variable {g : Graph} {plan : Plan}

theorem relationsAt_transpose (name : String) (depth : Nat) :
    relationsAt g.transpose plan.turned name depth
      = (relationsAt g plan name depth).map Call.turned := by
  have hrelations : g.transpose.relations plan.turned.direction name
      = (g.relations plan.direction name).map Call.turned := g.relations_transpose _ name
  have hbound : plan.turned.maxDepth = plan.maxDepth := rfl
  unfold relationsAt
  rw [hbound, hrelations]
  cases plan.maxDepth with
  | none => rfl
  | some bound =>
    by_cases h : bound ≤ depth
    · simp only [h, if_true, List.map_nil]
    · simp only [h, if_false]

theorem goesOn_transpose (screen : Screen) (name : String) :
    goesOn g.transpose plan.turned screen name = goesOn g plan screen name := by
  have hrelations : g.transpose.relations plan.turned.direction name
      = (g.relations plan.direction name).map Call.turned := g.relations_transpose _ name
  unfold goesOn
  rw [hrelations, List.isEmpty_map]
  rfl

theorem meets_transpose_iff {screen : Screen} {visited : List String} {call : Call}
    {child : Symbol} :
    Meets g.transpose plan.turned screen visited call.turned child
      ↔ Meets g plan screen visited call child := by
  have hfar : call.turned.far plan.turned.direction = call.far plan.direction := call.far_turned _
  constructor
  · rintro ⟨hfound, hincluded, hfresh⟩
    rw [hfar] at hfound
    exact ⟨hfound, hincluded, hfresh⟩
  · rintro ⟨hfound, hincluded, hfresh⟩
    rw [← hfar] at hfound
    exact ⟨hfound, hincluded, hfresh⟩

/-- The labels apart, a call and the call turned round are drawn as opposite arrows. -/
theorem arrowOf_turned (source target : String) (call : Call) :
    (arrowOf plan source target call).Opposite (arrowOf plan.turned source target call.turned) :=
  ⟨rfl, rfl, rfl, rfl⟩

/-! ## Moves -/

/-- Walks that stand at the same place still do after each has followed the same call. -/
theorem Opposite.follow {w w' : Walk} (h : w.Opposite w') (frame : Frame) (rest : List Frame)
    (call : Call) (child : Symbol) :
    (w.follow g plan frame rest call child).Opposite
      (w'.follow g.transpose plan.turned frame.turned (rest.map Frame.turned) call.turned
        child) where
  sheet := by
    rw [follow_sheet, follow_sheet]
    exact .cons (arrowOf_turned _ _ _) h.sheet
  strokes := by
    rw [follow_strokes, follow_strokes]
    exact .cons (.drawn (arrowOf_turned _ _ _)) h.strokes
  styling := by
    rw [follow_styling, follow_styling, h.styling, h.screen]
    rfl
  screen := by
    rw [follow_screen, follow_screen, h.screen]
  frames := by
    have hbelow : frameBelow frame.turned child g.transpose plan.turned
        = (frameBelow frame child g plan).turned := by
      simp only [frameBelow, Frame.turned, relationsAt_transpose]
    rw [follow_frames, follow_frames, h.screen, goesOn_transpose, hbelow]
    split <;> rfl
  visited := by
    rw [follow_visited, follow_visited, h.screen, goesOn_transpose, h.visited]
  reached := by
    rw [follow_reached, follow_reached, h.reached]
    rfl
  tally := by
    rw [follow_tally, follow_tally, h.tally]
    rfl

/-- The walk the other way makes the same move. -/
theorem Move.opposite {w w₁ w' : Walk} (hmove : Move g plan w w₁) (h : w.Opposite w') :
    ∃ w₁', Move g.transpose plan.turned w' w₁' ∧ w₁.Opposite w₁' := by
  have hframes := h.frames
  cases hmove with
  | @keep frame rest child hf hc hk =>
    rw [hf] at hframes
    have hk' : plan.turned.prunes = true → w'.leadsOn child = true := by
      intro hp
      rw [leadsOn, h.reached]
      exact hk hp
    exact ⟨_, .keep hframes hc hk', h.toOpposite, rfl, h.visited, h.reached, h.tally⟩
  | @takeBack frame rest child arrow below hf hc hp hr hs =>
    rw [hf] at hframes
    have hr' : w'.leadsOn child = false := by
      rw [leadsOn, h.reached]
      exact hr
    -- what lies on top of the other sheet is opposite to what is taken back here
    have hsheet := h.sheet
    rw [hs] at hsheet
    obtain ⟨arrow', below', harrow, hbelow, hs'⟩ := List.forall₂_cons_left_iff.mp hsheet
    have hstrokes : List.Forall₂ Stroke.Opposite (.takenBack arrow :: w.strokes)
        (.takenBack arrow' :: w'.strokes) := .cons (.takenBack harrow) h.strokes
    refine ⟨_, .takeBack hframes hc hp hr' hs', ⟨hbelow, hstrokes, h.styling, h.screen⟩, rfl,
      h.visited, ?_, ?_⟩
    · show (if (w'.reached.lookup child).isSome then w'.reached
        else Table.put child false w'.reached) = _
      rw [h.reached]
    · show w'.tally.release arrow'.source arrow'.target = _
      rw [h.tally, harrow.source, harrow.target]
  | @leave frame rest hf hc hp =>
    rw [hf] at hframes
    have hp' : frame.turned.pending = [] := by simp [Frame.turned, hp]
    refine ⟨_, .leave hframes hc hp', h.toOpposite, rfl, h.visited, ?_, h.tally⟩
    show (if frame.reached then Table.put frame.name true w'.reached else w'.reached) = _
    rw [h.reached]
    rfl
  | @pass frame rest call pending hf hc hp hn =>
    rw [hf] at hframes
    have hp' : frame.turned.pending = call.turned :: pending.map Call.turned := by
      simp [Frame.turned, hp]
    have hn' : ∀ child, ¬ Meets g.transpose plan.turned w'.screen w'.visited call.turned child := by
      intro child hm
      rw [h.screen, h.visited, meets_transpose_iff] at hm
      exact hn child hm
    refine ⟨_, .pass hframes hc hp' hn', ⟨h.sheet, h.strokes, h.styling, ?_⟩, rfl, h.visited,
      h.reached, h.tally⟩
    have hfar : call.turned.far plan.turned.direction = call.far plan.direction :=
      call.far_turned _
    show screenAfter (g.find? (call.turned.far plan.turned.direction)) w'.screen = _
    rw [hfar, h.screen]
  | @follow frame rest call pending child hf hc hp hm =>
    rw [hf] at hframes
    have hp' : frame.turned.pending = call.turned :: pending.map Call.turned := by
      simp [Frame.turned, hp]
    have hm' : Meets g.transpose plan.turned w'.screen w'.visited call.turned child := by
      rw [h.screen, h.visited, meets_transpose_iff]
      exact hm
    have hscreened : Opposite { w with screen := (w.screen.classify child).2 }
        { w' with screen := (w'.screen.classify child).2 } :=
      ⟨⟨h.sheet, h.strokes, h.styling, by rw [h.screen]⟩, h.frames, h.visited, h.reached, h.tally⟩
    exact ⟨_, .follow hframes hc hp' hm', hscreened.follow { frame with pending } rest call child⟩

theorem Passes.opposite {w w₁ w' : Walk} (hrun : Passes g plan w w₁) (h : w.Opposite w') :
    ∃ w₁', Passes g.transpose plan.turned w' w₁' ∧ w₁.Opposite w₁' := by
  -- by the moves that were made, the last one last
  induction hrun with
  | refl => exact ⟨w', .refl w', h⟩
  | tail _ hmove ih =>
    obtain ⟨w₂', hrun', h₂⟩ := ih
    obtain ⟨w₃', hmove', h₃⟩ := hmove.opposite h₂
    exact ⟨w₃', hrun'.trans hmove'.passes, h₃⟩

theorem start_opposite (symbol : Symbol) {desk desk' : Desk} (h : desk.Opposite desk') :
    (start g plan symbol desk).Opposite (start g.transpose plan.turned symbol desk') where
  sheet := h.sheet
  strokes := h.strokes
  styling := by
    simp only [start, h.styling, h.screen]
  screen := h.screen
  frames := by
    simp only [start, h.screen, relationsAt_transpose, List.map_cons, List.map_nil, Frame.turned]
    split <;> rfl
  visited := rfl
  reached := rfl
  tally := rfl

theorem OnWay.opposite {root : String} {desk desk' : Desk} {w : Walk}
    (hw : OnWay g plan root desk w) (h : desk.Opposite desk') :
    ∃ w', OnWay g.transpose plan.turned root desk' w' ∧ w.Opposite w' := by
  obtain ⟨symbol, hroot, hrun⟩ := hw
  obtain ⟨w', hrun', h'⟩ := hrun.opposite (start_opposite symbol h)
  exact ⟨w', ⟨symbol, hroot, hrun'⟩, h'⟩

/-! ## Both extractions -/

/-- From desks that are opposite, such as two on which nothing was drawn, an extraction and the one
    the other way in the transpose come to the same: the same is done with opposite arrows in the
    same order, the same attributes are set, and either both succeed with the same symbols expanded
    and the same account, or both fail with the same fault. -/
theorem extract_transpose (g : Graph) (plan : Plan) (root : String) {desk desk' : Desk}
    (h : desk.Opposite desk') :
    (∃ w w', extract g plan root desk = .ok w w.toDesk ∧
      extract g.transpose plan.turned root desk' = .ok w' w'.toDesk ∧ w.Opposite w') ∨
    (∃ fault after after', extract g plan root desk = .error fault after ∧
      extract g.transpose plan.turned root desk' = .error fault after' ∧
      after.Opposite after') := by
  -- the run one way is given; the run the other way is made from it, and the count of arrows, which
  -- decides whether a goal was missed, is the same in both
  have houtcome := outcome_extract g plan root desk
  generalize hresult : extract g plan root desk = result at houtcome
  cases houtcome with
  | unknown hroot => exact .inr ⟨_, _, desk', rfl, extract_of_unknown (g := g.transpose) hroot desk', h⟩
  | @noPath w goal hw hended hgoal hne hempty =>
    obtain ⟨w', hw', h'⟩ := hw.opposite h
    have hended' : w'.frames = [] := by
      rw [h'.frames, hended]
      rfl
    have hgoal' : plan.turned.goal = some goal := hgoal
    refine .inr ⟨_, _, w'.toDesk, rfl, ?_, h'.toOpposite⟩
    rw [extract_of_onWay hw' hended', hgoal']
    simp only [h'.tally, if_pos (And.intro hempty hne)]
  | @excerpt w hw hended hkept =>
    obtain ⟨w', hw', h'⟩ := hw.opposite h
    have hended' : w'.frames = [] := by
      rw [h'.frames, hended]
      rfl
    refine .inl ⟨w, w', rfl, ?_, h'⟩
    rw [extract_of_onWay hw' hended']
    cases hgoal : plan.turned.goal with
    | none => rfl
    | some goal =>
      have hnot : ¬ (w'.tally.arrows = 0 ∧ root ≠ goal) := by
        rintro ⟨hempty, hne⟩
        rw [h'.tally] at hempty
        exact hne (hkept goal hgoal hempty)
      simp only [if_neg hnot]

/-- Against the calls of a cycle with a way across, and along them in the transpose, with an arrow on
    the desk from before. -/
theorem transpose_of_cycle :
    let g := ((({} : Graph).connect "a" "b" ["b~a.c:1"]).connect "b" "c" []).connect "c" "a" []
    let g := (g.connect "a" "c" ["c~a.c:2"]).connect "c" "c" []
    let plan : Plan := { direction := .reverse, allLocations := true }
    let desk : Desk := { sheet := ⟨[⟨"x", "y", "y", "x", none⟩]⟩ }
    let desk' : Desk := { sheet := ⟨[⟨"x", "y", "x", "y", some "z"⟩]⟩ }
    desk.Opposite desk' ∧ g.relations .reverse "c" = [⟨"b", "c", []⟩, ⟨"a", "c", ["c~a.c:2"]⟩,
      ⟨"c", "c", []⟩] ∧
      ∃ w w', extract g plan "c" desk = .ok w w.toDesk ∧
        extract g.transpose plan.turned "c" desk' = .ok w' w'.toDesk ∧ w.Opposite w' := by
  intro g₀ g plan desk desk'
  have hdesk : desk.Opposite desk' := ⟨.cons ⟨rfl, rfl, rfl, rfl⟩ .nil, .nil, rfl, rfl⟩
  refine ⟨hdesk, by decide, ?_⟩
  rcases extract_transpose g plan "c" hdesk with hboth | ⟨fault, after, after', herror, -, -⟩
  · exact hboth
  · -- without a goal an extraction fails only from a name that is no symbol
    have houtcome := outcome_extract g plan "c" desk
    rw [herror] at houtcome
    cases houtcome with
    | unknown hroot =>
      have hfound : (g.find? "c").isSome = true := by decide
      rw [hroot] at hfound
      cases hfound
    | noPath _ _ hgoal _ _ => cases hgoal

end Walk

end CallExcerpt
