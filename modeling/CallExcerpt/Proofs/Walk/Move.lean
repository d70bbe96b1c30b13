import CallExcerpt.Walk.Work
import Mathlib.Logic.Relation

/-! # The moves of a walk

    `Move` lists what one move of a walk can be, one constructor for each
    branch, with all that guards it. It is the relation that `step?` computes,
    so that a property of walks is proved by cases on a move and never by
    opening `step?`.

    * `step?_eq_ok_iff`: a step that goes well is a move, and each move is made.
    * `step?_eq_error`: the one way in which a step can fail.
    * `Passes`: what a walk passes through; `finish` goes along it.
    * `OnWay`: the walks that an extraction passes through; `extract_of_onWay`
      tells what it gives by the end of its walk.
-/

namespace CallExcerpt.Walk

variable {g : Graph} {plan : Plan}

/-! ## What following a call touches -/

/-- Does a walk with these filters go on from a symbol to which it has drawn an arrow? -/
def goesOn (g : Graph) (plan : Plan) (screen : Screen) (name : String) : Bool :=
  !screen.isShown name && plan.goal ≠ some name && !(g.relations plan.direction name).isEmpty

theorem relationsAt_subset (name : String) (depth : Nat) :
    ∀ call ∈ relationsAt g plan name depth, call ∈ g.relations plan.direction name := by
  intro call h
  unfold relationsAt at h
  split at h
  · split at h
    · cases h
    · exact h
  · exact h

/-- The symbol that an arrow is drawn from, known to the graph or not. -/
theorem name_of_origin (g : Graph) (name : String) :
    ((g.find? name).getD { name }).name = name := by
  cases hfind : g.find? name with
  | none => rfl
  | some symbol => exact Graph.name_of_find? hfind

/-- Is it settled that the goal can be reached from a symbol? -/
def leadsOn (w : Walk) (name : String) : Bool := (w.reached.lookup name).getD false

section follow
variable (w : Walk) (frame : Frame) (rest : List Frame) (call : Call) (child : Symbol)

/-- A walk that has drawn the arrow to a child and not gone on from it. -/
def awaiting (g : Graph) (plan : Plan) : Walk :=
  { w.draw g plan frame.name child call with
    styling :=
      if w.screen.isShown child.name then
        (w.draw g plan frame.name child call).styling.mark child.name Role.shown
      else (w.draw g plan frame.name child call).styling
    frames := { frame with child := some child.name } :: rest }

/-- The frame in which a walk goes on from a child. -/
def frameBelow (g : Graph) (plan : Plan) : Frame where
  name := child.name
  depth := frame.depth + 1
  pending := relationsAt g plan child.name (frame.depth + 1)

theorem follow_eq :
    w.follow g plan frame rest call child
      = if goesOn g plan w.screen child.name then
          { w.awaiting frame rest call child g plan with
            visited := w.visited ++ [child.name]
            frames :=
              frameBelow frame child g plan :: { frame with child := some child.name } :: rest }
        else w.awaiting frame rest call child g plan := rfl

@[simp] theorem follow_sheet :
    (w.follow g plan frame rest call child).sheet
      = w.sheet.push (arrowOf plan frame.name child.name call) := by
  rw [follow_eq]
  split <;> rfl

@[simp] theorem follow_strokes :
    (w.follow g plan frame rest call child).strokes
      = .drawn (arrowOf plan frame.name child.name call) :: w.strokes := by
  rw [follow_eq]
  split <;> rfl

@[simp] theorem follow_tally :
    (w.follow g plan frame rest call child).tally
      = w.tally.retain ((g.find? frame.name).getD { name := frame.name }) child := by
  rw [follow_eq]
  split <;> rfl

@[simp] theorem follow_screen : (w.follow g plan frame rest call child).screen = w.screen := by
  rw [follow_eq]
  split <;> rfl

@[simp] theorem follow_reached :
    (w.follow g plan frame rest call child).reached
      = if plan.goal = some child.name then Table.put child.name true w.reached
        else w.reached := by
  rw [follow_eq]
  split <;> rfl

theorem follow_visited :
    (w.follow g plan frame rest call child).visited
      = if goesOn g plan w.screen child.name then w.visited ++ [child.name] else w.visited := by
  rw [follow_eq]
  split <;> rfl

theorem follow_frames :
    (w.follow g plan frame rest call child).frames
      = if goesOn g plan w.screen child.name then
          frameBelow frame child g plan :: { frame with child := some child.name } :: rest
        else { frame with child := some child.name } :: rest := by
  rw [follow_eq]
  split <;> rfl

end follow

/-! ## Moves -/

/-- A call leads a walk to a symbol that the filters let in and that was not expanded. -/
structure Meets (g : Graph) (plan : Plan) (screen : Screen) (visited : List String) (call : Call)
    (child : Symbol) : Prop where
  found : g.find? (call.far plan.direction) = some child
  included : (screen.classify child).1 = .included
  fresh : child.name ∉ visited

/-- The filters after a look at the far end of a call. -/
def screenAfter (found : Option Symbol) (screen : Screen) : Screen :=
  match found with
  | none => screen
  | some child => (screen.classify child).2

/-- What one move can be. -/
inductive Move (g : Graph) (plan : Plan) (w : Walk) : Walk → Prop where
  /-- The child is settled and its arrow stays. -/
  | keep {frame rest child} (hf : w.frames = frame :: rest) (hc : frame.child = some child)
      (hk : plan.prunes = true → w.leadsOn child = true) :
      Move g plan w { w with
        frames := { frame with child := none, reached := frame.reached || plan.prunes } :: rest }
  /-- The child did not reach the goal, and the latest arrow is taken back. -/
  | takeBack {frame rest child arrow below} (hf : w.frames = frame :: rest)
      (hc : frame.child = some child) (hp : plan.prunes = true) (hr : w.leadsOn child = false)
      (hs : w.sheet.stack = arrow :: below) :
      Move g plan w { w with
        frames := { frame with child := none } :: rest
        sheet := ⟨below⟩
        strokes := .takenBack arrow :: w.strokes
        tally := w.tally.release arrow.source arrow.target
        reached :=
          if (w.reached.lookup child).isSome then w.reached else Table.put child false w.reached }
  /-- The first frame has no call left. -/
  | leave {frame rest} (hf : w.frames = frame :: rest) (hc : frame.child = none)
      (hp : frame.pending = []) : Move g plan w (w.leave frame rest)
  /-- The next call leads nowhere new; the filters may have noted an extern. -/
  | pass {frame rest call pending} (hf : w.frames = frame :: rest) (hc : frame.child = none)
      (hp : frame.pending = call :: pending)
      (hn : ∀ child, ¬ Meets g plan w.screen w.visited call child) :
      Move g plan w { w with
        screen := screenAfter (g.find? (call.far plan.direction)) w.screen
        frames := { frame with pending } :: rest }
  /-- The next call is followed. -/
  | follow {frame rest call pending child} (hf : w.frames = frame :: rest)
      (hc : frame.child = none) (hp : frame.pending = call :: pending)
      (hm : Meets g plan w.screen w.visited call child) :
      Move g plan w
        (Walk.follow g plan { w with screen := (w.screen.classify child).2 } { frame with pending }
          rest call child)

theorem isExcluded_eq_false_iff {v : Verdict} : v.isExcluded = false ↔ v = .included := by
  simp [Verdict.isExcluded]

/-- Looking at a call that leads nowhere new is a move. -/
private theorem move_examine {w : Walk} {frame : Frame} {rest : List Frame} {call : Call}
    {pending : List Call} (hf : w.frames = frame :: rest) (hc : frame.child = none)
    (hp : frame.pending = call :: pending) :
    Move g plan w (w.examine g plan frame rest call pending) := by
  unfold examine
  cases hfound : g.find? (call.far plan.direction) with
  | none =>
    have hn : ∀ child, ¬ Meets g plan w.screen w.visited call child := by
      intro child hm
      rw [hm.found] at hfound
      cases hfound
    have hm : Move g plan w _ := .pass hf hc hp hn
    rw [hfound] at hm
    exact hm
  | some child =>
    cases hout : (w.screen.classify child).1.isExcluded || w.visited.contains child.name with
    | false =>
      simp only [hout, Bool.false_eq_true, if_false]
      rw [Bool.or_eq_false_iff] at hout
      exact .follow hf hc hp
        ⟨hfound, isExcluded_eq_false_iff.mp hout.1, by simpa using hout.2⟩
    | true =>
      -- kept out or expanded before: no other symbol has the name, so the call meets nothing
      simp only [hout, if_true]
      have hn : ∀ other, ¬ Meets g plan w.screen w.visited call other := by
        intro other hm
        have hother : other = child := Option.some.inj (hm.found.symm.trans hfound)
        subst hother
        have hin : (w.screen.classify other).1.isExcluded = false :=
          isExcluded_eq_false_iff.mpr hm.included
        have hfresh : w.visited.contains other.name = false := by simpa using hm.fresh
        rw [hin, hfresh] at hout
        cases hout
      have hm : Move g plan w _ := .pass hf hc hp hn
      rw [hfound] at hm
      exact hm

/-- Settling a child is a move, unless there is no arrow to take back. -/
private theorem move_settle {w w' : Walk} {frame : Frame} {rest : List Frame} {child : String}
    (hf : w.frames = frame :: rest) (hc : frame.child = some child)
    (hs : w.settle plan frame rest child = .ok w') : Move g plan w w' := by
  unfold settle at hs
  cases hp : plan.prunes with
  | false =>
    -- without a goal nothing is asked of the child
    simp only [hp, Bool.not_false, if_true, Except.ok.injEq] at hs
    have hm : Move g plan w _ := .keep hf hc (by simp [hp])
    rw [hp, Bool.or_false] at hm
    exact hs ▸ hm
  | true =>
    simp only [hp, Bool.not_true, Bool.false_eq_true, if_false] at hs
    cases hr : w.leadsOn child with
    | true =>
      rw [leadsOn] at hr
      simp only [hr, if_true, Except.ok.injEq] at hs
      have hm : Move g plan w _ := .keep hf hc (fun _ => hr)
      rw [hp, Bool.or_true] at hm
      exact hs ▸ hm
    | false =>
      have hr' := hr
      rw [leadsOn] at hr'
      simp only [hr', Bool.false_eq_true, if_false] at hs
      -- the child did not reach the goal; with an empty sheet the step would have failed
      cases hst : w.sheet.stack with
      | nil => simp [Sheet.pop?, hst] at hs
      | cons arrow below =>
        simp only [Sheet.pop?, hst, Except.ok.injEq] at hs
        exact hs ▸ .takeBack hf hc hp hr hst

/-- A step that goes well is a move, and each move is made by a step. -/
theorem step?_eq_ok_iff {w w' : Walk} : w.step? g plan = some (.ok w') ↔ Move g plan w w' := by
  constructor
  · -- the branches of `step?` one by one
    intro h
    unfold step? at h
    cases hf : w.frames with
    | nil => simp [hf] at h
    | cons frame rest =>
      cases hc : frame.child with
      | some child =>
        simp only [hf, hc, Option.some.injEq] at h
        exact move_settle hf hc h
      | none =>
        cases hp : frame.pending with
        | nil =>
          simp only [hf, hc, hp, Option.some.injEq, Except.ok.injEq] at h
          exact h ▸ .leave hf hc hp
        | cons call pending =>
          simp only [hf, hc, hp, Option.some.injEq, Except.ok.injEq] at h
          exact h ▸ move_examine hf hc hp
  · -- the guards of each move pick its branch
    intro h
    cases h with
    | @keep frame rest child hf hc hk =>
      unfold step?
      simp only [hf, hc, settle]
      cases hp : plan.prunes with
      | false => simp
      | true =>
        have hr : (w.reached.lookup child).getD false = true := hk hp
        simp [hr]
    | @takeBack frame rest child arrow below hf hc hp hr hs =>
      have hr' : (w.reached.lookup child).getD false = false := hr
      simp [step?, hf, hc, settle, hp, hr', Sheet.pop?, hs]
    | leave hf hc hp => simp [step?, hf, hc, hp]
    | @pass frame rest call pending hf hc hp hn =>
      simp only [step?, hf, hc, hp, examine, screenAfter, Option.some.injEq, Except.ok.injEq]
      cases hfound : g.find? (call.far plan.direction) with
      | none => rfl
      | some child =>
        have hout : ((w.screen.classify child).1.isExcluded || w.visited.contains child.name)
            = true := by
          rw [← Bool.not_eq_false, Bool.or_eq_false_iff]
          rintro ⟨hin, hfresh⟩
          exact hn child ⟨hfound, isExcluded_eq_false_iff.mp hin, by simpa using hfresh⟩
        exact if_pos hout
    | @follow frame rest call pending child hf hc hp hm =>
      have hin := isExcluded_eq_false_iff.mpr hm.included
      simp [step?, hf, hc, hp, examine, hm.found, hin, hm.fresh]

/-- A step fails only where an arrow is to be taken back and there is none. -/
theorem step?_eq_error {w : Walk} {fault : WalkFault} (h : w.step? g plan = some (.error fault)) :
    fault = .nothingDrawn ∧ plan.prunes = true ∧ w.sheet.stack = [] ∧
      ∃ frame rest child, w.frames = frame :: rest ∧ frame.child = some child ∧
        w.leadsOn child = false := by
  unfold step? at h
  cases hf : w.frames with
  | nil => simp [hf] at h
  | cons frame rest =>
    cases hc : frame.child with
    | none => cases hp : frame.pending <;> simp [hf, hc, hp] at h
    | some child =>
      simp only [hf, hc, Option.some.injEq, settle] at h
      cases hp : plan.prunes with
      | false => simp [hp] at h
      | true =>
        cases hr : w.leadsOn child with
        | true =>
          rw [leadsOn] at hr
          simp [hp, hr] at h
        | false =>
          have hr' := hr
          rw [leadsOn] at hr'
          cases hst : w.sheet.stack with
          | nil =>
            simp only [hp, hr', Sheet.pop?, hst, Bool.not_true, Bool.false_eq_true, if_false,
              Except.error.injEq] at h
            exact ⟨h.symm, rfl, rfl, frame, rest, child, rfl, hc, hr⟩
          | cons arrow below => simp [hp, hr', Sheet.pop?, hst] at h

theorem step?_eq_none_iff {w : Walk} : w.step? g plan = none ↔ w.frames = [] := by
  constructor
  · intro h
    unfold step? at h
    cases hf : w.frames with
    | nil => rfl
    | cons frame rest =>
      cases hc : frame.child with
      | some child => simp [hf, hc] at h
      | none => cases hp : frame.pending <;> simp [hf, hc, hp] at h
  · intro h
    simp [step?, h]

/-! ## Runs -/

/-- What a walk passes through: itself, and all that its moves lead to. -/
def Passes (g : Graph) (plan : Plan) : Walk → Walk → Prop := Relation.ReflTransGen (Move g plan)

theorem Passes.refl (w : Walk) : Passes g plan w w := Relation.ReflTransGen.refl

theorem Passes.trans {w₁ w₂ w₃ : Walk} (h₁ : Passes g plan w₁ w₂) (h₂ : Passes g plan w₂ w₃) :
    Passes g plan w₁ w₃ := Relation.ReflTransGen.trans h₁ h₂

theorem Move.passes {w w' : Walk} (h : Move g plan w w') : Passes g plan w w' :=
  Relation.ReflTransGen.single h

/-- What a move keeps is kept all along a run. -/
theorem Passes.invariant {I : Walk → Prop} (hstep : ∀ w w', I w → Move g plan w w' → I w')
    {w w' : Walk} (h : Passes g plan w w') (hw : I w) : I w' := by
  induction h with
  | refl => exact hw
  | tail _ hm ih => exact hstep _ _ ih hm

/-- A move does not change where a walk ends. -/
theorem finish_of_move {w w' : Walk} (h : Move g plan w w') :
    finish g plan w = finish g plan w' := by
  rw [finish.eq_def g plan w]
  -- of the three branches of `finish` the move leaves only the last one
  have hstep := step?_eq_ok_iff.mpr h
  split
  · rename_i hnone
    rw [hnone] at hstep
    cases hstep
  · rename_i fault herror
    rw [herror] at hstep
    cases hstep
  · rename_i w'' hok
    rw [hok] at hstep
    cases hstep
    rfl

theorem finish_of_passes {w w' : Walk} (h : Passes g plan w w') :
    finish g plan w = finish g plan w' := by
  induction h with
  | refl => rfl
  | tail _ hm ih => rw [ih, finish_of_move hm]

theorem finish_of_done {w : Walk} (h : w.frames = []) : finish g plan w = (w, none) := by
  rw [finish.eq_def g plan w]
  have hnone : w.step? g plan = none := step?_eq_none_iff.mpr h
  split
  · rfl
  · rename_i fault herror
    rw [herror] at hnone
    cases hnone
  · rename_i w'' hok
    rw [hok] at hnone
    cases hnone

/-! ## Extractions -/

/-- The walks that an extraction passes through. -/
def OnWay (g : Graph) (plan : Plan) (root : String) (desk : Desk) (w : Walk) : Prop :=
  ∃ symbol, g.find? root = some symbol ∧ Passes g plan (start g plan symbol desk) w

/-- What holds at the start and is kept by moves holds all along an extraction. -/
theorem OnWay.invariant {I : Walk → Prop} {root : String} {desk : Desk}
    (hstart : ∀ symbol, I (start g plan symbol desk))
    (hstep : ∀ w w', I w → Move g plan w w' → I w') {w : Walk} (h : OnWay g plan root desk w) :
    I w := by
  obtain ⟨symbol, -, hrun⟩ := h
  exact hrun.invariant hstep (hstart symbol)

/-- What an extraction gives when its walk comes to an end. -/
theorem extract_of_onWay {root : String} {desk : Desk} {w : Walk}
    (hw : OnWay g plan root desk w) (hdone : w.frames = []) :
    extract g plan root desk
      = match plan.goal with
        | none => .ok w w.toDesk
        | some goal =>
          if w.tally.arrows = 0 ∧ root ≠ goal then
            .error (.noPath root goal w.tally.takenBack) w.toDesk
          else .ok w w.toDesk := by
  obtain ⟨symbol, hroot, hrun⟩ := hw
  have hfinish : finish g plan (start g plan symbol desk) = (w, none) := by
    rw [finish_of_passes hrun, finish_of_done hdone]
  obtain rfl : symbol.name = root := Graph.name_of_find? hroot
  -- up to the test at the end an extraction is the walk alone
  show EStateM.run (extract g plan symbol.name) desk = _
  unfold extract
  simp only [hroot, EStateM.run_bind, EStateM.run_get, hfinish, EStateM.run_set]
  cases plan.goal with
  | none => rfl
  | some goal =>
    by_cases hempty : w.tally.arrows = 0 ∧ symbol.name ≠ goal
    · have hdec : (decide (w.tally.arrows = 0) && decide (symbol.name ≠ goal)) = true := by
        simpa using hempty
      simp only [hdec, if_true, if_pos hempty]
      rfl
    · have hdec : (decide (w.tally.arrows = 0) && decide (symbol.name ≠ goal)) = false := by
        simpa using hempty
      simp only [hempty, hdec, if_false, Bool.false_eq_true]
      rfl

/-- Of two walks that come to an end with the same tally, both give an excerpt or neither does. -/
theorem extract_alike {root : String} {desk desk' : Desk} {w w' : Walk}
    (hw : OnWay g plan root desk w) (hdone : w.frames = []) (hw' : OnWay g plan root desk' w')
    (hdone' : w'.frames = []) (htally : w'.tally = w.tally) :
    extract g plan root desk'
      = match extract g plan root desk with
        | .ok _ _ => .ok w' w'.toDesk
        | .error fault _ => .error fault w'.toDesk := by
  rw [extract_of_onWay hw hdone, extract_of_onWay hw' hdone', htally]
  cases plan.goal with
  | none => rfl
  | some goal =>
    by_cases hempty : w.tally.arrows = 0 ∧ root ≠ goal
    · simp only [if_pos hempty]
    · simp only [if_neg hempty]

/-- An extraction from a name that is no symbol fails at once. -/
theorem extract_of_unknown {root : String} (hroot : g.find? root = none) (desk : Desk) :
    extract g plan root desk = .error (.unknownSymbol root) desk := by
  unfold extract
  simp only [hroot]
  rfl

end CallExcerpt.Walk
