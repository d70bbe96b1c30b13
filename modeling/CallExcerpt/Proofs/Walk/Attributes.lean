import CallExcerpt.Excerpt
import CallExcerpt.Proofs.Graph.Styling
import CallExcerpt.Proofs.Walk.Growth
import Mathlib.Tactic.SplitIfs

/-! # Walks and the attributes of symbols

    A walk sets attributes and never looks at them: laid on another styling it
    makes the same moves, and the same marks. So what an extraction gives does
    not depend on the attributes that the symbols have, and the reset after it
    brings back what there was before.

    * `Move.withStyling`, `Passes.withStyling`: one move, and a run.
    * `extract_withStyling`: an extraction.
    * `Excerpt.walk_of_rests`: an excerpt from two stylings that rest on the
      same lasting attributes.
-/

namespace CallExcerpt

namespace Walk

variable {g : Graph} {plan : Plan}

/-- The walk with other attributes. -/
def withStyling (w : Walk) (s : Styling) : Walk := { w with styling := s }

/-- The marks that a followed call leaves on its child. -/
def followMarks (plan : Plan) (screen : Screen) (child : Symbol) : List (String × Style) :=
  (if child.isExtern then [(child.name, Role.external)] else [])
    ++ (if plan.goal = some child.name then [(child.name, Role.goal)] else [])
    ++ (if screen.isShown child.name then [(child.name, Role.shown)] else [])

theorem follow_styling (w : Walk) (frame : Frame) (rest : List Frame) (call : Call)
    (child : Symbol) :
    (w.follow g plan frame rest call child).styling
      = w.styling.marked (followMarks plan w.screen child) := by
  -- the child is marked before it is asked whether the walk goes on from it
  have hawaiting : (w.follow g plan frame rest call child).styling
      = (w.awaiting frame rest call child g plan).styling := by
    rw [follow_eq]
    split <;> rfl
  rw [hawaiting, followMarks, Styling.marked_append, Styling.marked_append]
  simp only [awaiting, draw]
  split_ifs <;> rfl

theorem follow_withStyling (w : Walk) (s : Styling) (frame : Frame) (rest : List Frame)
    (call : Call) (child : Symbol) :
    (w.withStyling s).follow g plan frame rest call child
      = (w.follow g plan frame rest call child).withStyling
          (s.marked (followMarks plan w.screen child)) := by
  have hstyling : ((w.withStyling s).follow g plan frame rest call child).styling
      = s.marked (followMarks plan w.screen child) :=
    follow_styling (w.withStyling s) frame rest call child
  have hrest : ((w.withStyling s).follow g plan frame rest call child)
      = (w.follow g plan frame rest call child).withStyling
        ((w.withStyling s).follow g plan frame rest call child).styling := by
    have hscreen : (w.withStyling s).screen = w.screen := rfl
    rw [follow_eq, follow_eq, hscreen]
    split <;> rfl
  rw [hrest, hstyling]

/-- A move marks symbols, and neither the move nor the marks depend on the attributes. -/
theorem Move.withStyling {w w' : Walk} (h : Move g plan w w') :
    ∃ marks, ∀ s, Move g plan (w.withStyling s) (w'.withStyling (s.marked marks)) := by
  cases h with
  | keep hf hc hk => exact ⟨[], fun s => .keep (w := w.withStyling s) hf hc hk⟩
  | takeBack hf hc hp hr hs => exact ⟨[], fun s => .takeBack (w := w.withStyling s) hf hc hp hr hs⟩
  | leave hf hc hp => exact ⟨[], fun s => .leave (w := w.withStyling s) hf hc hp⟩
  | pass hf hc hp hn => exact ⟨[], fun s => .pass (w := w.withStyling s) hf hc hp hn⟩
  | @follow frame rest call pending child hf hc hp hm =>
    refine ⟨followMarks plan (w.screen.classify child).2 child, fun s => ?_⟩
    rw [← follow_withStyling]
    exact .follow (w := w.withStyling s) hf hc hp hm

theorem Passes.withStyling {w w' : Walk} (h : Passes g plan w w') :
    ∃ marks, ∀ s, Passes g plan (w.withStyling s) (w'.withStyling (s.marked marks)) := by
  induction h with
  | refl => exact ⟨[], fun s => Passes.refl _⟩
  | tail _ hmove ih =>
    obtain ⟨marks, hrun⟩ := ih
    obtain ⟨more, hlast⟩ := hmove.withStyling
    refine ⟨marks ++ more, fun s => ?_⟩
    rw [Styling.marked_append]
    exact (hrun s).trans (hlast _).passes

theorem start_withStyling (symbol : Symbol) (desk : Desk) :
    ∃ marks, ∀ s, start g plan symbol { desk with styling := s }
      = (start g plan symbol desk).withStyling (s.marked marks) := by
  refine ⟨(symbol.name, Role.root)
    :: if desk.screen.isShown symbol.name then [(symbol.name, Role.shown)] else [], fun s => ?_⟩
  simp only [start, withStyling]
  split_ifs <;> rfl

theorem OnWay.withStyling {root : String} {desk : Desk} {w : Walk}
    (h : OnWay g plan root desk w) :
    ∃ marks, ∀ s, OnWay g plan root { desk with styling := s }
      (w.withStyling (s.marked marks)) := by
  obtain ⟨symbol, hroot, hrun⟩ := h
  obtain ⟨marks, hstart⟩ : ∃ marks, ∀ s, start g plan symbol { desk with styling := s }
      = (start g plan symbol desk).withStyling (s.marked marks) := start_withStyling symbol desk
  obtain ⟨more, hrest⟩ := hrun.withStyling
  refine ⟨marks ++ more, fun s => ⟨symbol, hroot, ?_⟩⟩
  rw [Styling.marked_append, hstart s]
  exact hrest _

/-- What an extraction gives with other attributes. -/
def restyled (s : Styling) :
    EStateM.Result WalkFault Desk Walk → EStateM.Result WalkFault Desk Walk
  | .ok w desk => .ok (w.withStyling s) { desk with styling := s }
  | .error fault desk => .error fault { desk with styling := s }

/-- An extraction marks symbols, and neither what it gives nor the marks depend on the attributes. -/
theorem extract_withStyling (g : Graph) (plan : Plan) (root : String) (desk : Desk) :
    ∃ marks, ∀ s, extract g plan root { desk with styling := s }
      = restyled (s.marked marks) (extract g plan root desk) := by
  -- whether the walk that ends gives an excerpt or no path, its tally decides, not its styling
  have houtcome := outcome_extract g plan root desk
  generalize hresult : extract g plan root desk = result at houtcome
  cases houtcome with
  | unknown hroot =>
    refine ⟨[], fun s => ?_⟩
    rw [extract_of_unknown hroot]
    rfl
  | noPath hw hended _ _ _ =>
    obtain ⟨marks, hrun⟩ := hw.withStyling
    refine ⟨marks, fun s => ?_⟩
    rw [extract_alike hw hended (hrun s) hended rfl, hresult]
    rfl
  | excerpt hw hended _ =>
    obtain ⟨marks, hrun⟩ := hw.withStyling
    refine ⟨marks, fun s => ?_⟩
    rw [extract_alike hw hended (hrun s) hended rfl, hresult]
    rfl

end Walk

/-! ## Excerpts -/

namespace Excerpt

/-- The excerpt of a walk depends on the attributes that the symbols have, not on how they came by
    them. -/
theorem ofWalk_withStyling {s s' : Styling} (h : s.Alike s') (drawing : Dot.Options) (w : Walk) :
    ofWalk drawing (w.withStyling s) = ofWalk drawing (w.withStyling s') := by
  have hof : (fun n => (n, s.of n)) = fun n => (n, s'.of n) := by
    funext n
    rw [h n]
  simp only [ofWalk, Walk.withStyling, hof]

/-- From two stylings that rest on the same lasting attributes come the same excerpt and the same
    filters, and stylings that rest on those attributes again. -/
theorem walk_of_rests {fresh s s' : Styling} (h : Styling.Rests fresh s)
    (h' : Styling.Rests fresh s') (g : Graph) (r : Request) (screen : Screen) (root : String) :
    Styling.Rests fresh (walk g r s screen root).styling
    ∧ Styling.Rests fresh (walk g r s' screen root).styling
    ∧ (walk g r s screen root).screen = (walk g r s' screen root).screen
    ∧ (walk g r s screen root).walk.map (fun w => (w.summary, ofWalk r.drawing w))
      = (walk g r s' screen root).walk.map (fun w => (w.summary, ofWalk r.drawing w)) := by
  obtain ⟨marks, hmarks⟩ := Walk.extract_withStyling g r.plan root { styling := s, screen }
  have hsame : (s.marked marks).Alike (s'.marked marks) :=
    Styling.Alike.marked (fun n => (h.alike n).trans (h'.alike n).symm) marks
  have hfirst := hmarks s
  have hsecond := hmarks s'
  simp only at hfirst hsecond
  unfold walk
  rw [hsecond, hfirst]
  cases Walk.extract g r.plan root { styling := s, screen } with
  | ok w desk =>
    refine ⟨h.reset_marked marks, h'.reset_marked marks, rfl, ?_⟩
    have hexcerpt := ofWalk_withStyling hsame r.drawing w
    simp only [Walk.restyled, Except.map, hexcerpt]
    rfl
  | error fault desk => exact ⟨h.reset_marked marks, h'.reset_marked marks, rfl, rfl⟩

end Excerpt

end CallExcerpt
