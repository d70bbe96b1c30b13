import CallExcerpt.Proofs.Walk.Attributes
import CallExcerpt.Proofs.Walk.Reach

/-! # Walks and the filters that they share

    Filters note the externs that they keep out, so that a walk leaves them
    other than it found them. The next walk makes nothing of that: with filters
    that agree on the symbols of the graph it makes the same moves.

    * `Move.withScreen`, `Passes.withScreen`: one move, and a run.
    * `extract_withScreen`, `agrees_deskAfter`: an extraction.
    * `Excerpt.walk_alone`: an excerpt from filters that agree and stylings
      that rest on the same lasting attributes.
-/

namespace CallExcerpt

theorem Screen.Agrees.symm {g : Graph} {before now : Screen} (h : before.Agrees g now) :
    now.Agrees g before :=
  ⟨h.filters.symm, fun hs => (h.verdict hs).symm⟩

namespace Walk

variable {g : Graph} {plan : Plan}

/-- The walk with other filters. -/
def withScreen (w : Walk) (s : Screen) : Walk := { w with screen := s }

theorem follow_withScreen (w : Walk) {s : Screen} (ha : w.screen.Agrees g s) (frame : Frame)
    (rest : List Frame) (call : Call) (child : Symbol) :
    (w.withScreen s).follow g plan frame rest call child
      = (w.follow g plan frame rest call child).withScreen s := by
  have hshown : s.isShown = w.screen.isShown := funext ha.isShown
  have hscreen : (w.withScreen s).screen = s := rfl
  rw [follow_eq, follow_eq, hscreen, goesOn_of_agrees ha]
  unfold awaiting
  rw [hscreen, hshown]
  split <;> rfl

/-- Screens that agree still agree after each has looked at a symbol of the graph. -/
theorem agrees_screenAfter {s s' : Screen} (ha : s.Agrees g s') (name : String) :
    (screenAfter (g.find? name) s).Agrees g (screenAfter (g.find? name) s') := by
  cases hfound : g.find? name with
  | none => exact ha
  | some child =>
    have hback := (Screen.agrees_classify s hfound).symm
    exact (hback.trans ha).trans (Screen.agrees_classify s' hfound)

/-- The filters that a move leaves agree with those that it found. -/
theorem Move.agrees {w w' : Walk} (h : Move g plan w w') : w.screen.Agrees g w'.screen := by
  cases h with
  | keep => exact .refl g _
  | takeBack => exact .refl g _
  | leave => exact .refl g _
  | @pass frame rest call pending _ _ _ _ =>
    show w.screen.Agrees g (screenAfter (g.find? (call.far plan.direction)) w.screen)
    cases hfound : g.find? (call.far plan.direction) with
    | none => exact .refl g _
    | some child => exact Screen.agrees_classify w.screen hfound
  | follow _ _ _ hm =>
    rw [follow_screen]
    exact Screen.agrees_classify w.screen hm.found

theorem OnWay.agrees {root : String} {desk : Desk} {w : Walk} (h : OnWay g plan root desk w) :
    desk.screen.Agrees g w.screen :=
  h.invariant (I := fun w => desk.screen.Agrees g w.screen) (fun _ => .refl g _)
    fun _ _ ha hmove => ha.trans hmove.agrees

/-- With filters that agree a walk makes the same move. -/
theorem Move.withScreen {w w' : Walk} (h : Move g plan w w') {s : Screen}
    (ha : w.screen.Agrees g s) :
    ∃ s', w'.screen.Agrees g s' ∧ Move g plan (w.withScreen s) (w'.withScreen s') := by
  cases h with
  | keep hf hc hk => exact ⟨s, ha, .keep (w := w.withScreen s) hf hc hk⟩
  | takeBack hf hc hp hr hs => exact ⟨s, ha, .takeBack (w := w.withScreen s) hf hc hp hr hs⟩
  | leave hf hc hp => exact ⟨s, ha, .leave (w := w.withScreen s) hf hc hp⟩
  | @pass frame rest call pending hf hc hp hn =>
    refine ⟨screenAfter (g.find? (call.far plan.direction)) s, agrees_screenAfter ha _, ?_⟩
    have hn' : ∀ child, ¬ Meets g plan s w.visited call child :=
      fun child hm => hn child ((meets_iff_of_agrees ha).mp hm)
    exact .pass (w := w.withScreen s) hf hc hp hn'
  | @follow frame rest call pending child hf hc hp hm =>
    have hafter : (w.screen.classify child).2.Agrees g (s.classify child).2 := by
      have h := agrees_screenAfter ha (call.far plan.direction)
      rwa [hm.found] at h
    refine ⟨(s.classify child).2, ?_, ?_⟩
    · rw [follow_screen]
      exact hafter
    · rw [← follow_withScreen _ hafter]
      exact .follow (w := w.withScreen s) hf hc hp ((meets_iff_of_agrees ha).mpr hm)

theorem Passes.withScreen {w w' : Walk} (h : Passes g plan w w') {s : Screen}
    (ha : w.screen.Agrees g s) :
    ∃ s', w'.screen.Agrees g s' ∧ Passes g plan (w.withScreen s) (w'.withScreen s') := by
  induction h with
  | refl => exact ⟨s, ha, Passes.refl _⟩
  | tail _ hmove ih =>
    obtain ⟨s₁, ha₁, hrun⟩ := ih
    obtain ⟨s₂, ha₂, hlast⟩ := hmove.withScreen ha₁
    exact ⟨s₂, ha₂, hrun.trans hlast.passes⟩

theorem start_withScreen (symbol : Symbol) {desk : Desk} {s : Screen}
    (ha : desk.screen.Agrees g s) :
    start g plan symbol { desk with screen := s } = (start g plan symbol desk).withScreen s := by
  have hshown : s.isShown symbol.name = desk.screen.isShown symbol.name := ha.isShown symbol.name
  simp only [start, withScreen, hshown]

theorem OnWay.withScreen {root : String} {desk : Desk} {w : Walk} (h : OnWay g plan root desk w)
    {s : Screen} (ha : desk.screen.Agrees g s) :
    ∃ s', w.screen.Agrees g s' ∧ OnWay g plan root { desk with screen := s } (w.withScreen s') := by
  obtain ⟨symbol, hroot, hrun⟩ := h
  have hbegun : (start g plan symbol desk).screen.Agrees g s := ha
  obtain ⟨s', ha', hrest⟩ := hrun.withScreen hbegun
  refine ⟨s', ha', symbol, hroot, ?_⟩
  rw [start_withScreen symbol ha]
  exact hrest

/-- What an extraction gives with other filters. -/
def rescreened (s : Screen) :
    EStateM.Result WalkFault Desk Walk → EStateM.Result WalkFault Desk Walk
  | .ok w desk => .ok (w.withScreen s) { desk with screen := s }
  | .error fault desk => .error fault { desk with screen := s }

/-- With filters that agree an extraction gives the same, and leaves filters that agree. -/
theorem extract_withScreen (root : String) {desk : Desk} {s : Screen}
    (ha : desk.screen.Agrees g s) :
    ∃ s', (deskAfter (extract g plan root desk)).screen.Agrees g s'
      ∧ extract g plan root { desk with screen := s }
        = rescreened s' (extract g plan root desk) := by
  have houtcome := outcome_extract g plan root desk
  generalize hresult : extract g plan root desk = result at houtcome
  cases houtcome with
  | unknown hroot =>
    refine ⟨s, ha, ?_⟩
    rw [extract_of_unknown hroot]
    rfl
  | noPath hw hended _ _ _ =>
    obtain ⟨s', ha', hrun⟩ := hw.withScreen ha
    refine ⟨s', ha', ?_⟩
    rw [extract_alike hw hended hrun hended rfl, hresult]
    rfl
  | excerpt hw hended _ =>
    obtain ⟨s', ha', hrun⟩ := hw.withScreen ha
    refine ⟨s', ha', ?_⟩
    rw [extract_alike hw hended hrun hended rfl, hresult]
    rfl

/-- The filters that an extraction leaves agree with those that it found. -/
theorem agrees_deskAfter (root : String) (desk : Desk) :
    desk.screen.Agrees g (deskAfter (extract g plan root desk)).screen := by
  have houtcome := outcome_extract g plan root desk
  generalize extract g plan root desk = result at houtcome ⊢
  cases houtcome with
  | unknown => exact .refl g _
  | noPath hw _ _ _ _ => exact hw.agrees
  | excerpt hw _ _ => exact hw.agrees

end Walk

/-! ## Excerpts -/

namespace Excerpt

variable {g : Graph}

theorem walk_of_agrees {screen now : Screen} (ha : screen.Agrees g now) (r : Request)
    (styling : Styling) (root : String) :
    (walk g r styling now root).styling = (walk g r styling screen root).styling
    ∧ (walk g r styling now root).walk.map (ofWalk r.drawing)
      = (walk g r styling screen root).walk.map (ofWalk r.drawing) := by
  obtain ⟨s', -, hnow⟩ :
      ∃ s', (Walk.deskAfter (Walk.extract g r.plan root { styling, screen })).screen.Agrees g s'
        ∧ Walk.extract g r.plan root { styling, screen := now }
          = Walk.rescreened s' (Walk.extract g r.plan root { styling, screen }) :=
    Walk.extract_withScreen root ha
  unfold walk
  rw [hnow]
  cases Walk.extract g r.plan root { styling, screen } with
  | ok w desk => exact ⟨rfl, rfl⟩
  | error fault desk => exact ⟨rfl, rfl⟩

theorem agrees_walk (r : Request) (styling : Styling) (screen : Screen) (root : String) :
    screen.Agrees g (walk g r styling screen root).screen := by
  have h : screen.Agrees g
      (Walk.deskAfter (Walk.extract g r.plan root { styling, screen })).screen :=
    Walk.agrees_deskAfter root { styling, screen }
  unfold walk
  cases hresult : Walk.extract g r.plan root { styling, screen } with
  | ok w desk =>
    rw [hresult] at h
    exact h
  | error fault desk =>
    rw [hresult] at h
    exact h

/-- The excerpt of a root does not depend on what was drawn before with the same filters and on the
    same graph, and whatever is drawn next does not depend on it. -/
theorem walk_alone {fresh s : Styling} {screen now : Screen} (hfresh : Styling.Rests fresh fresh)
    (h : Styling.Rests fresh s) (ha : screen.Agrees g now) (r : Request) (root : String) :
    (walk g r s now root).walk.map (ofWalk r.drawing)
        = (walk g r fresh screen root).walk.map (ofWalk r.drawing)
    ∧ Styling.Rests fresh (walk g r s now root).styling
    ∧ screen.Agrees g (walk g r s now root).screen := by
  obtain ⟨hstyling, hscreens⟩ := walk_of_agrees ha r s root
  obtain ⟨hrests, -, -, hstylings⟩ := walk_of_rests h hfresh g r screen root
  refine ⟨?_, hstyling ▸ hrests, ha.trans (agrees_walk r s now root)⟩
  rw [hscreens]
  -- the summaries agree as well, but are not told in an excerpt
  have hsecond := congrArg (Except.map Prod.snd) hstylings
  generalize (walk g r s screen root).walk = result at hsecond
  generalize (walk g r fresh screen root).walk = result' at hsecond
  cases result with
  | ok w =>
    cases result' with
    | ok w' => exact hsecond
    | error fault' => cases hsecond
  | error fault =>
    cases result' with
    | ok w' => cases hsecond
    | error fault' => exact hsecond

end Excerpt

end CallExcerpt
