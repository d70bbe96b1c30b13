import CallExcerpt.Proofs.Filter.History
import CallExcerpt.Proofs.Service.Apart
import CallExcerpt.Proofs.Walk.Order

/-! # Styles by role

    A walk marks a symbol each time that it draws an arrow to it, and does not
    take the marks back with the arrow. To mark a symbol again changes nothing,
    though the style of an extern and that of the goal share a key: both are
    laid on in the same order each time. So what a symbol looks like in a
    description depends on what it is, and on how it looked before.

    * `Role.styleOf`: what is laid over the attributes of a member, and
      `Role.worn`: the attributes that come of it.
    * `Styled`: a symbol that was marked has the style of its role, and members
      and the symbols of frames were marked. `Styled.of_follow` is what a
      followed call does to that, `Styled.move` what any move keeps.
    * `styled_by_role`: the attributes in the description of an excerpt.
-/

namespace CallExcerpt

open Styling (overlaid overlaid_append overlaid_overlaid of_mark)

/-! ## Roles -/

/-- The style of a symbol that an arrow is drawn to: as an extern, as the goal, and as one that is
    shown, the later ones on top. -/
def Role.reached (isExtern isGoal isShown : Bool) : Style :=
  (if isExtern then Role.external else []) ++ (if isGoal then Role.goal else [])
    ++ (if isShown then Role.shown else [])

/-- What a walk lays over the attributes of a symbol by its role: the root, or a symbol that an
    arrow is drawn to. -/
def Role.styleOf (g : Graph) (plan : Plan) (screen : Screen) (root name : String) : Style :=
  if name = root then Role.root ++ (if screen.isShown name then Role.shown else [])
  else
    Role.reached ((g.find? name).any Symbol.isExtern) (plan.goal = some name) (screen.isShown name)

/-- The attributes of a symbol with the style of its role laid over those that it had before. -/
def Role.worn (g : Graph) (plan : Plan) (screen : Screen) (root : String) (before : Styling)
    (name : String) : Style :=
  overlaid (before.of name) (Role.styleOf g plan screen root name)

namespace Walk

variable {g : Graph} {plan : Plan}

theorem of_followMarks (s : Styling) (screen : Screen) (child : Symbol) (name : String) :
    (s.marked (followMarks plan screen child)).of name
      = if name = child.name then
          overlaid (s.of name)
            (Role.reached child.isExtern (plan.goal = some child.name) (screen.isShown child.name))
        else s.of name := by
  unfold followMarks Role.reached
  by_cases hn : name = child.name
  · subst hn
    cases child.isExtern <;> by_cases hgoal : plan.goal = some child.name <;>
      cases screen.isShown child.name <;>
      simp [Styling.marked, of_mark, hgoal, overlaid]
  · cases child.isExtern <;> by_cases hgoal : plan.goal = some child.name <;>
      cases screen.isShown child.name <;>
      simp [Styling.marked, of_mark, hgoal, hn]

/-! ## Walks -/

/-- What a walk knows of the attributes of symbols, which had others before. -/
structure Styled (g : Graph) (plan : Plan) (root : String) (screen : Screen) (before : Styling)
    (w : Walk) : Prop where
  /-- The filters are as good as those at the beginning. -/
  agrees : screen.Agrees g w.screen
  /-- The root was expanded, so that no arrow is drawn to it. -/
  expanded : root ∈ w.visited
  /-- A symbol was not marked, or it has the style of its role. -/
  known : ∀ n,
    w.styling.of n = before.of n ∨ w.styling.of n = Role.worn g plan screen root before n
  /-- The symbols of frames have the style of their roles. -/
  standing : ∀ n ∈ w.frames.map Frame.name,
    w.styling.of n = Role.worn g plan screen root before n
  /-- The members have the style of their roles. -/
  members : ∀ n ∈ w.tally.members, w.styling.of n = Role.worn g plan screen root before n

section styled
variable {root : String} {screen : Screen} {before : Styling} {w w' : Walk}

theorem styled_start (g : Graph) (plan : Plan) (root : Symbol) (desk : Desk) :
    Styled g plan root.name desk.screen desk.styling (start g plan root desk) := by
  have hof : ∀ n, (start g plan root desk).styling.of n
      = if n = root.name then Role.worn g plan desk.screen root.name desk.styling n
        else desk.styling.of n := by
    intro n
    unfold start Role.worn Role.styleOf
    by_cases hn : n = root.name
    · subst hn
      cases desk.screen.isShown root.name <;> simp [of_mark, overlaid_append]
    · cases desk.screen.isShown root.name <;> simp [of_mark, hn]
  have hroot : (start g plan root desk).styling.of root.name
      = Role.worn g plan desk.screen root.name desk.styling root.name := by
    rw [hof, if_pos rfl]
  refine ⟨.refl g _, by simp [start], ?_, ?_, ?_⟩
  · intro n
    rw [hof]
    split
    · exact .inr rfl
    · exact .inl rfl
  · intro n hn
    obtain rfl := List.mem_singleton.mp hn
    exact hroot
  · intro n hn
    obtain rfl : n = root.name := List.mem_singleton.mp hn
    exact hroot

/-- A move that marks nothing, adds no member and puts up no frame. -/
private theorem Styled.unmarked (h : Styled g plan root screen before w)
    (hagrees : screen.Agrees g w'.screen) (hvisited : w'.visited = w.visited)
    (hstyling : w'.styling = w.styling)
    (hframes : (w'.frames.map Frame.name).Sublist (w.frames.map Frame.name))
    (hmembers : ∀ n ∈ w'.tally.members, n ∈ w.tally.members) :
    Styled g plan root screen before w' := by
  refine ⟨hagrees, hvisited ▸ h.expanded, ?_, ?_, ?_⟩
  · rw [hstyling]
    exact h.known
  · intro n hn
    rw [hstyling]
    exact h.standing n (hframes.subset hn)
  · intro n hn
    rw [hstyling]
    exact h.members n (hmembers n hn)

/-- A call that is followed gives its child the attributes of its role, for the first time or once
    more, and leaves those of the others. -/
theorem Styled.of_follow (h : Styled g plan root screen before w) {call : Call} {child : Symbol}
    (hmeets : Meets g plan w.screen w.visited call child) (frame : Frame) (rest : List Frame)
    (n : String) :
    (Walk.follow g plan { w with screen := (w.screen.classify child).2 } frame rest call
        child).styling.of n
      = if n = child.name then Role.worn g plan screen root before n else w.styling.of n := by
  have hne : child.name ≠ root := fun heq => hmeets.fresh (heq ▸ h.expanded)
  have hfound : g.find? child.name = some child := by
    rw [Graph.name_of_find? hmeets.found]
    exact hmeets.found
  have hshown : (w.screen.classify child).2.isShown child.name = screen.isShown child.name :=
    (h.agrees.trans (Screen.agrees_classify w.screen hfound)).isShown child.name
  have hstyle : Role.styleOf g plan screen root child.name
      = Role.reached child.isExtern (plan.goal = some child.name)
        ((w.screen.classify child).2.isShown child.name) := by
    rw [Role.styleOf, if_neg hne, hfound, hshown]
    rfl
  rw [follow_styling, of_followMarks]
  by_cases hn : n = child.name
  · subst hn
    rw [if_pos rfl, if_pos rfl, ← hstyle]
    -- a style that was laid on before is laid on once more, and changes nothing
    rcases h.known child.name with hbefore | hmarked
    · exact congrArg (overlaid · _) hbefore
    · exact (congrArg (overlaid · _) hmarked).trans (overlaid_overlaid _ _)
  · rw [if_neg hn, if_neg hn]

/-- Every move leaves the members and the symbols of frames with the style of their roles. -/
theorem Styled.move (h : Styled g plan root screen before w) (hm : Move g plan w w') :
    Styled g plan root screen before w' := by
  have hagrees := h.agrees.trans hm.agrees
  cases hm with
  | @keep frame rest child hf _ _ =>
    exact h.unmarked hagrees rfl rfl (by simp [hf]) (fun n hn => hn)
  | @takeBack frame rest child arrow below hf _ _ _ _ =>
    refine h.unmarked hagrees rfl rfl (by simp [hf]) ?_
    intro n hn
    obtain ⟨p, hp⟩ := Tally.exists_filter_release w.tally arrow.source arrow.target
    rw [hp] at hn
    exact (List.mem_filter.mp hn).1
  | @leave frame rest hf _ _ =>
    exact h.unmarked hagrees rfl rfl (by simp [hf, leave]) (fun n hn => hn)
  | @pass frame rest call pending hf _ _ _ =>
    exact h.unmarked hagrees rfl rfl (by simp [hf]) (fun n hn => hn)
  | @follow frame rest call pending child hf _ _ hmeets =>
    have hof := h.of_follow hmeets { frame with pending } rest
    generalize hw' : Walk.follow g plan { w with screen := (w.screen.classify child).2 }
      { frame with pending } rest call child = w' at hagrees hof ⊢
    have hstays : ∀ n, n = child.name ∨ w.styling.of n = Role.worn g plan screen root before n →
        w'.styling.of n = Role.worn g plan screen root before n := by
      intro n hn
      rw [hof]
      split
      · rfl
      · next hother => exact hn.resolve_left hother
    refine ⟨hagrees, ?_, ?_, ?_, ?_⟩
    · rw [← hw', follow_visited]
      split
      · exact List.mem_append_left _ h.expanded
      · exact h.expanded
    · intro n
      rw [hof]
      split
      · exact .inr rfl
      · exact h.known n
    · intro n hn
      have hname : n = child.name ∨ n ∈ w.frames.map Frame.name := by
        rw [← hw', follow_frames] at hn
        split at hn
        · simpa [hf, frameBelow] using hn
        · exact .inr (by simpa [hf] using hn)
      exact hstays n (hname.imp_right (h.standing n))
    · -- the arrow brings in its child, and the symbol of the frame, which may be no member yet
      intro n hn
      rw [← hw', follow_tally, Tally.mem_members_retain_iff] at hn
      rcases hn with hold | hsource | hchild
      · exact hstays n (.inr (h.members n hold))
      · have hname : n = frame.name := hsource.trans (name_of_origin g frame.name)
        exact hstays n (.inr (h.standing n (by simp [hf, hname])))
      · exact hstays n (.inl hchild)

end styled

/-- All along an extraction symbols have the style of their roles. -/
theorem OnWay.styled {root : String} {desk : Desk} {w : Walk} (h : OnWay g plan root desk w) :
    Styled g plan root desk.screen desk.styling w := by
  obtain ⟨symbol, hroot, hrun⟩ := h
  obtain rfl : symbol.name = root := Graph.name_of_find? hroot
  exact hrun.invariant (fun _ _ => Styled.move) (styled_start g plan symbol desk)

end Walk

/-! ## Excerpts -/

/-- The walk of an excerpt leaves each member with the style of its role over what it had before. -/
theorem Excerpt.styled_of_walk {g : Graph} {r : Request} {styling : Styling} {screen : Screen}
    {root : String} {w : Walk} (hwalk : (Excerpt.walk g r styling screen root).walk = .ok w) :
    ∀ n ∈ w.tally.members, w.styling.of n = Role.worn g r.plan screen root styling n := by
  unfold Excerpt.walk at hwalk
  cases hextract : Walk.extract g r.plan root { styling, screen } with
  | error fault desk =>
    rw [hextract] at hwalk
    cases hwalk
  | ok w' desk =>
    rw [hextract] at hwalk
    obtain rfl : w' = w := Except.ok.inj hwalk
    exact (Walk.grows_of_extract hextract).1.styled.members

namespace Service

/-- The attributes of the members of an excerpt, in the description: those that each had before the
    walk, with the style of its role laid over. -/
def Described (g : Graph) (r : Request) (screen : Screen) (root : String) (styling : Styling)
    (e : Excerpt) : Prop :=
  ∃ w, (Excerpt.walk g r styling screen root).walk = .ok w ∧ e = Excerpt.ofWalk r.drawing w ∧
    (∀ n ∈ e.members, w.styling.of n = Role.worn g r.plan screen root styling n) ∧
    e.description = Dot.render r.drawing e.arrows
      (e.members.map fun n => (n, Role.worn g r.plan screen root styling n))

theorem described_of_walk {g : Graph} {r : Request} {screen : Screen} {root : String}
    {styling : Styling} {e : Excerpt}
    (h : (Excerpt.walk g r styling screen root).walk.map (Excerpt.ofWalk r.drawing) = .ok e) :
    Described g r screen root styling e := by
  cases hwalk : (Excerpt.walk g r styling screen root).walk with
  | error fault =>
    rw [hwalk] at h
    cases h
  | ok w =>
    rw [hwalk] at h
    obtain rfl : Excerpt.ofWalk r.drawing w = e := Except.ok.inj h
    have hstyled := Excerpt.styled_of_walk hwalk
    refine ⟨w, hwalk, rfl, hstyled, ?_⟩
    have hmap : (w.tally.members.map fun n => (n, w.styling.of n))
        = w.tally.members.map fun n => (n, Role.worn g r.plan screen root styling n) := by
      apply List.map_congr_left
      intro n hn
      rw [hstyled n hn]
    simp only [Excerpt.ofWalk]
    rw [hmap]

section walks
variable {g : Graph} {r : Request} {root : String} {s : Station} {w : Walk}

/-- Where a walk comes to its excerpt, the excerpt is drawn. -/
theorem draw_of_walk {screen : Screen}
    (hwalk : (Excerpt.walk g r s.styling screen root).walk = .ok w) :
    ∃ screen' s', draw g r screen root s = .ok (.ok (Excerpt.ofWalk r.drawing w), screen') s' := by
  obtain ⟨world, hdraw⟩ := draw_eq g r screen root s
  rw [hwalk] at hdraw
  exact ⟨_, _, hdraw⟩

theorem extract_of_walk {filters : Filters}
    (hfilters : Filters.compile r.filters s.world.fits = .ok filters)
    (hwalk : (Excerpt.walk g r s.styling { filters } root).walk = .ok w) :
    ∃ s', extract g root r s = .ok (Excerpt.ofWalk r.drawing w) s' := by
  obtain ⟨s', hextract⟩ := extract_eq hfilters g root
  rw [hwalk] at hextract
  exact ⟨s', hextract⟩

end walks

/-- In the description of an excerpt each member has the attributes that it had before, with the
    style of its role laid over: the root that of roots, another one those of an extern, of the
    goal and of what is shown, as far as it is that. How often arrows were drawn to it and taken
    back makes no difference. -/
theorem styled_by_role (g : Graph) (r : Request) (root : String) (s : Station) :
    (∀ screen e screen' s', draw g r screen root s = .ok (.ok e, screen') s' →
      Described g r screen root s.styling e) ∧
    ∀ e s', extract g root r s = .ok e s' →
      ∃ filters, Filters.compile r.filters = .ok filters ∧
        Described g r { filters } root s.styling e := by
  constructor
  · intro screen e screen' s' hdrawn
    obtain ⟨world, hdraw⟩ := draw_eq g r screen root s
    rw [hdraw, EStateM.Result.ok.injEq, Prod.mk.injEq] at hdrawn
    exact described_of_walk hdrawn.1.1
  · intro e s' hextracted
    unfold extract at hextracted
    obtain ⟨s₀, s₁, hlook, hcompiling⟩ := Success.of_run_bind hextracted
    cases hlook
    obtain ⟨filters, s₁, hcompiled, hdrawing⟩ := Success.of_run_bind hcompiling
    obtain ⟨hfilters, rfl⟩ := of_ofExcept hcompiled
    obtain ⟨⟨result, screen⟩, s₂, hdrawn, hresult⟩ := Success.of_run_bind hdrawing
    obtain ⟨rfl, -⟩ := of_ofExcept hresult
    obtain ⟨world, hdraw⟩ := draw_eq g r { filters } root s₁
    rw [hdraw, EStateM.Result.ok.injEq, Prod.mk.injEq] at hdrawn
    exact ⟨filters, Filters.compile_of_fits hfilters, described_of_walk hdrawn.1.1⟩

/-- A goal that is an extern and shown had a style before, and two arrows are drawn to it; the arrow
    to another extern is taken back. Of the style that the goal had, and of that of an extern, the
    description has what the style of a goal leaves. -/
theorem styled_as_extern_goal_shown :
    let g := (({} : Graph).declare { name := "a" }).declare { name := "b" }
    let g := (((g.connect "a" "x" []).connect "a" "c" []).connect "a" "b" []).connect "b" "c" []
    let r : Request := { roots := ["a"], goal := some "c", shown := ["c"] }
    let styling : Styling := { current := [("c", [("style", "bold")])] }
    let screen : Screen := { filters := { shown := ["c"] } }
    let styles := [
      ("a", [("style", "filled"), ("fillcolor", "lightblue")]),
      ("c", [("style", "filled"), ("fontcolor", "gray40"), ("fillcolor", "palegreen"),
        ("shape", "box"), ("peripheries", "2")]),
      ("b", [])]
    (∃ e screen' s', draw g r screen "a" { styling } = .ok (.ok e, screen') s' ∧
      e.description = Dot.render r.drawing e.arrows styles) ∧
    ∃ e s', extract g "a" r { styling } = .ok e s' ∧
      e.description = Dot.render r.drawing e.arrows styles := by
  intro g₀ g r styling screen styles
  have hfilters : Filters.compile r.filters = .ok screen.filters := rfl
  have hmembers : (Excerpt.walk g r styling screen "a").walk.toOption.map
      (fun w => w.tally.members) = some ["a", "c", "b"] := by decide +kernel
  have hstyles : (["a", "c", "b"].map fun n => (n, Role.worn g r.plan screen "a" styling n))
      = styles := by decide +kernel
  cases hwalk : (Excerpt.walk g r styling screen "a").walk with
  | error fault =>
    rw [hwalk] at hmembers
    cases hmembers
  | ok w =>
    rw [hwalk] at hmembers
    have hthree : (Excerpt.ofWalk r.drawing w).members = ["a", "c", "b"] := Option.some.inj hmembers
    constructor
    · obtain ⟨screen', s', hdraw⟩ : ∃ screen' s', draw g r screen "a" { styling }
          = .ok (.ok (Excerpt.ofWalk r.drawing w), screen') s' := draw_of_walk hwalk
      obtain ⟨-, -, -, -, hdescription⟩ :=
        (styled_by_role g r "a" { styling }).1 screen _ screen' s' hdraw
      rw [hthree, hstyles] at hdescription
      exact ⟨_, screen', s', hdraw, hdescription⟩
    · obtain ⟨s', hextract⟩ : ∃ s',
          extract g "a" r { styling } = .ok (Excerpt.ofWalk r.drawing w) s' :=
        extract_of_walk hfilters hwalk
      obtain ⟨filters, hcompiled, -, -, -, -, hdescription⟩ :=
        (styled_by_role g r "a" { styling }).2 _ s' hextract
      obtain rfl : screen.filters = filters := Except.ok.inj (hfilters.symm.trans hcompiled)
      rw [hthree, hstyles] at hdescription
      exact ⟨_, s', hextract, hdescription⟩

end Service

end CallExcerpt
