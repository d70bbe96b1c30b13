import CallExcerpt.Proofs.Walk.Growth
import CallExcerpt.Proofs.Walk.Members

/-! # Taking arrows back

    A walk with a goal takes back the latest arrow of its sheet when the goal
    was not reached from a child, without looking which arrow that is. It is
    the right one, because the frames say what lies on the sheet: from the
    ground up, for each frame what was drawn from it and stays, and on top of
    that the arrow to the child on which the frame waits.

    * `Laid`: this reading of the sheet, which every move keeps.
    * `Touches`: what a move does to the sheet: nothing, one arrow more, or the
      arrow to the child being settled taken back.
    * `takes_back_arrow_of_settled_child`: the account of a whole extraction.
-/

namespace CallExcerpt

/-- The ends of an arrow. -/
def Arrow.ends (a : Arrow) : String × String := (a.source, a.target)

theorem mem_ends_arrows {arrows : List Arrow} {name : String} :
    name ∈ Tally.ends (arrows.map Arrow.ends)
      ↔ ∃ a ∈ arrows, name = a.source ∨ name = a.target := by
  rw [Tally.ends, List.flatMap_map, List.mem_flatMap]
  simp [Arrow.ends]

theorem Sheet.stack_of_pop? {s s' : Sheet} {arrow : Arrow} (h : s.pop? = some (arrow, s')) :
    s.stack = arrow :: s'.stack := by
  unfold Sheet.pop? at h
  split at h
  · cases h
  · next hstack =>
    cases h
    exact hstack

/-- Was an arrow taken back? -/
def Stroke.isTakenBack : Stroke → Bool
  | .drawn _ => false
  | .takenBack _ => true

namespace Walk

variable {g : Graph} {plan : Plan} {base : List Arrow}

/-! ## What lies on the sheet -/

/-- The arrow is that of a call which a walk follows from one symbol to the other. -/
def DrawnFrom (g : Graph) (plan : Plan) (source target : String) (arrow : Arrow) : Prop :=
  ∃ call ∈ g.relations plan.direction source,
    call.far plan.direction = target ∧ arrow = arrowOf plan source target call

theorem DrawnFrom.ends {source target : String} {arrow : Arrow}
    (h : DrawnFrom g plan source target arrow) : arrow.ends = (source, target) := by
  obtain ⟨call, -, -, rfl⟩ := h
  rfl

/-- Each frame looks only at calls that a walk follows from its symbol. -/
def LooksAhead (g : Graph) (plan : Plan) (frames : List Frame) : Prop :=
  ∀ frame ∈ frames, ∀ call ∈ frame.pending, call ∈ g.relations plan.direction frame.name

theorem looksAhead_start (root : Symbol) (desk : Desk) :
    LooksAhead g plan (start g plan root desk).frames := by
  intro frame hf call hcall
  obtain rfl := List.mem_singleton.mp hf
  simp only at hcall
  split at hcall
  · cases hcall
  · exact relationsAt_subset _ _ call hcall

theorem looksAhead_move {w w' : Walk} (h : LooksAhead g plan w.frames) (hm : Move g plan w w') :
    LooksAhead g plan w'.frames := by
  have same : ∀ {frame frame' : Frame} {rest : List Frame}, w.frames = frame :: rest →
      frame'.name = frame.name → (∀ call ∈ frame'.pending, call ∈ frame.pending) →
      LooksAhead g plan (frame' :: rest) := by
    intro frame frame' rest hf hname hpending f hin call hcall
    rcases List.mem_cons.mp hin with rfl | hin
    · rw [hname]
      exact h frame (by simp [hf]) call (hpending call hcall)
    · exact h f (by simp [hf, hin]) call hcall
  cases hm with
  | keep hf hc hk => exact same hf rfl (fun _ hcall => hcall)
  | takeBack hf hc hp hr hs => exact same hf rfl (fun _ hcall => hcall)
  | leave hf hc hp =>
    intro f hin call hcall
    exact h f (by rw [hf]; exact List.mem_cons_of_mem _ hin) call hcall
  | pass hf hc hp hn => exact same hf rfl (fun call hcall => by rw [hp]; exact .tail _ hcall)
  | @follow frame rest call pending child hf hc hp hmeets =>
    have hparent : LooksAhead g plan
        ({ frame with pending, child := some child.name } :: rest) :=
      same hf rfl (fun call hcall => by rw [hp]; exact .tail _ hcall)
    rw [follow_frames]
    split
    · intro f hin call hcall
      rcases List.mem_cons.mp hin with rfl | hin
      · exact relationsAt_subset _ _ call hcall
      · exact hparent f hin call hcall
    · exact hparent

/-- What lies beneath the arrows drawn from the child of the first frame: the arrow to that child,
    what was drawn from the frame before, and so on down to the base. From a frame that has not
    reached the goal nothing stays. -/
inductive Beneath (g : Graph) (plan : Plan) (base : List Arrow) :
    List Frame → List Arrow → Prop where
  /-- No frame: what lay there when the walk began. -/
  | ground : Beneath g plan base [] base
  /-- A frame that waits for its child. -/
  | frame {frame rest child arrow drawn under} (hc : frame.child = some child)
      (ha : DrawnFrom g plan frame.name child arrow)
      (hlink : ∀ above ∈ rest.head?, above.child = some frame.name)
      (hempty : plan.prunes = true → frame.reached = false → drawn = [])
      (hunder : Beneath g plan base rest under) :
      Beneath g plan base (frame :: rest) (arrow :: (drawn ++ under))

/-- What lies on the sheet of a walk that stands at some frames. -/
inductive Laid (g : Graph) (plan : Plan) (base : List Arrow) (leads : String → Bool) :
    List Frame → List Arrow → Prop where
  /-- The walk has ended. -/
  | ended {drawn} : Laid g plan base leads [] (drawn ++ base)
  /-- The walk looks at the calls of the first frame. -/
  | looking {frame rest drawn under} (hc : frame.child = none)
      (hlink : ∀ above ∈ rest.head?, above.child = some frame.name)
      (hempty : plan.prunes = true → frame.reached = false → drawn = [])
      (hunder : Beneath g plan base rest under) :
      Laid g plan base leads (frame :: rest) (drawn ++ under)
  /-- The walk has come back from the child of the first frame. -/
  | settling {frame rest child drawn under} (hc : frame.child = some child)
      (hempty : plan.prunes = true → leads child = false → drawn = [])
      (hunder : Beneath g plan base (frame :: rest) under) :
      Laid g plan base leads (frame :: rest) (drawn ++ under)

theorem Beneath.suffix {frames : List Frame} {stack : List Arrow}
    (h : Beneath g plan base frames stack) : ∃ own, stack = own ++ base := by
  induction h with
  | ground => exact ⟨[], rfl⟩
  | @frame _ _ _ arrow drawn _ _ _ _ _ _ ih =>
    obtain ⟨own, rfl⟩ := ih
    exact ⟨arrow :: (drawn ++ own), by simp⟩

/-- What lay on the sheet when the walk began lies there still. -/
theorem Laid.suffix {leads : String → Bool} {frames : List Frame} {stack : List Arrow}
    (h : Laid g plan base leads frames stack) : ∃ own, stack = own ++ base := by
  cases h with
  | @ended drawn => exact ⟨drawn, rfl⟩
  | @looking _ _ drawn _ _ _ _ hunder =>
    obtain ⟨own, rfl⟩ := hunder.suffix
    exact ⟨drawn ++ own, by simp⟩
  | @settling _ _ _ drawn _ _ _ hunder =>
    obtain ⟨own, rfl⟩ := hunder.suffix
    exact ⟨drawn ++ own, by simp⟩

theorem Laid.of_looking {leads : String → Bool} {frame : Frame} {rest : List Frame}
    {stack : List Arrow} (h : Laid g plan base leads (frame :: rest) stack)
    (hc : frame.child = none) :
    ∃ drawn under, stack = drawn ++ under ∧
      (∀ above ∈ rest.head?, above.child = some frame.name) ∧
      (plan.prunes = true → frame.reached = false → drawn = []) ∧
      Beneath g plan base rest under := by
  cases h with
  | looking _ hlink hempty hunder => exact ⟨_, _, rfl, hlink, hempty, hunder⟩
  | settling hsome => rw [hc] at hsome; cases hsome

theorem Laid.of_settling {leads : String → Bool} {frame : Frame} {rest : List Frame}
    {child : String} {stack : List Arrow} (h : Laid g plan base leads (frame :: rest) stack)
    (hc : frame.child = some child) :
    ∃ drawn arrow drawn' under, stack = drawn ++ arrow :: (drawn' ++ under) ∧
      (plan.prunes = true → leads child = false → drawn = []) ∧
      DrawnFrom g plan frame.name child arrow ∧
      (∀ above ∈ rest.head?, above.child = some frame.name) ∧
      (plan.prunes = true → frame.reached = false → drawn' = []) ∧
      Beneath g plan base rest under := by
  cases h with
  | looking hnone => rw [hc] at hnone; cases hnone
  | settling hc' hempty hunder =>
    cases hc'.symm.trans hc
    cases hunder with
    | frame hc'' ha hlink hempty' hunder' =>
      cases hc''.symm.trans hc
      exact ⟨_, _, _, _, rfl, hempty, ha, hlink, hempty', hunder'⟩

/-- A frame from which nothing was drawn. -/
theorem Beneath.looking {leads : String → Bool} {frame : Frame} {rest : List Frame}
    {under : List Arrow} (h : Beneath g plan base rest under) (hc : frame.child = none)
    (hlink : ∀ above ∈ rest.head?, above.child = some frame.name) :
    Laid g plan base leads (frame :: rest) under := by
  rw [← List.nil_append under]
  exact .looking hc hlink (fun _ _ => rfl) h

/-- A frame with a child from which nothing was drawn. -/
theorem Beneath.settling {leads : String → Bool} {frame : Frame} {rest : List Frame}
    {child : String} {under : List Arrow} (h : Beneath g plan base (frame :: rest) under)
    (hc : frame.child = some child) : Laid g plan base leads (frame :: rest) under := by
  rw [← List.nil_append under]
  exact .settling hc (fun _ _ => rfl) h

theorem laid_start (root : Symbol) (desk : Desk) :
    Laid g plan desk.sheet.stack (start g plan root desk).leadsOn (start g plan root desk).frames
      (start g plan root desk).sheet.stack := by
  refine Beneath.ground.looking rfl ?_
  intro above habove
  cases habove

/-- Every move keeps the reading of the sheet. -/
theorem laid_move {w w' : Walk} (hlaid : Laid g plan base w.leadsOn w.frames w.sheet.stack)
    (hahead : LooksAhead g plan w.frames) (hm : Move g plan w w') :
    Laid g plan base w'.leadsOn w'.frames w'.sheet.stack := by
  cases hm with
  | @keep frame rest child hf hc hk =>
    rw [hf] at hlaid
    obtain ⟨drawn, arrow, drawn', under, hstack, -, -, hlink, -, hunder⟩ := hlaid.of_settling hc
    -- what was drawn from the child and the arrow to it now count as drawn from the frame
    have h : Laid g plan base w.leadsOn
        ({ frame with child := none, reached := frame.reached || plan.prunes } :: rest)
        ((drawn ++ arrow :: drawn') ++ under) := by
      refine .looking rfl hlink ?_ hunder
      intro hp hr
      rw [hp, Bool.or_true] at hr
      cases hr
    rw [List.append_assoc, List.cons_append, ← hstack] at h
    exact h
  | @takeBack frame rest child arrow below hf hc hp hr hs =>
    rw [hf] at hlaid
    obtain ⟨drawn, arrow', drawn', under, hstack, hempty, -, hlink, hempty', hunder⟩ :=
      hlaid.of_settling hc
    -- nothing lies above the arrow to the child, so that the top of the sheet is this arrow
    rw [hs, hempty hp hr, List.nil_append] at hstack
    obtain ⟨rfl, rfl⟩ := List.cons.inj hstack
    exact .looking rfl hlink hempty' hunder
  | @leave frame rest hf hc hp =>
    rw [hf] at hlaid
    obtain ⟨drawn, under, hstack, hlink, hempty, hunder⟩ := hlaid.of_looking hc
    show Laid g plan base (w.leave frame rest).leadsOn rest w.sheet.stack
    rw [hstack]
    cases hunder with
    | ground => exact .ended
    | @frame above rest' child arrow drawn' under' hc' ha hlink' hempty' hunder' =>
      have hchild : above.child = some frame.name := hlink above (by simp)
      refine .settling hchild ?_ (.frame hc' ha hlink' hempty' hunder')
      intro hprunes hlead
      apply hempty hprunes
      -- had the frame reached the goal, its symbol would now lead on
      cases hreached : frame.reached with
      | false => rfl
      | true => simp [leadsOn, leave, hreached] at hlead
  | @pass frame rest call pending hf hc hp hn =>
    rw [hf] at hlaid
    obtain ⟨drawn, under, hstack, hlink, hempty, hunder⟩ := hlaid.of_looking hc
    have h : Laid g plan base w.leadsOn ({ frame with pending } :: rest) (drawn ++ under) :=
      .looking hc hlink hempty hunder
    rw [← hstack] at h
    exact h
  | @follow frame rest call pending child hf hc hp hmeets =>
    rw [hf] at hlaid
    obtain ⟨drawn, under, hstack, hlink, hempty, hunder⟩ := hlaid.of_looking hc
    have hcall : call ∈ g.relations plan.direction frame.name :=
      hahead frame (by simp [hf]) call (by simp [hp])
    have hchild : call.far plan.direction = child.name :=
      (Graph.name_of_find? hmeets.found).symm
    -- the arrow to the child now separates the frame from what will be drawn below
    have hbeneath : Beneath g plan base ({ frame with pending, child := some child.name } :: rest)
        (arrowOf plan frame.name child.name call :: (drawn ++ under)) :=
      .frame rfl ⟨call, hcall, hchild, rfl⟩ hlink hempty hunder
    rw [follow_sheet, follow_frames]
    show Laid g plan base _ _ (arrowOf plan frame.name child.name call :: w.sheet.stack)
    rw [hstack]
    split
    · refine hbeneath.looking rfl ?_
      intro above habove
      obtain rfl := Option.some.inj habove
      rfl
    · exact hbeneath.settling rfl

/-! ## What a move does to the sheet -/

/-- What a move does to the sheet, to the record of strokes and to the tally, which go together. -/
inductive Touches (g : Graph) (plan : Plan) (w w' : Walk) : Prop where
  /-- Nothing. -/
  | nothing (hsheet : w'.sheet = w.sheet) (hstrokes : w'.strokes = w.strokes)
      (htally : w'.tally = w.tally)
  /-- An arrow is drawn from the symbol of the first frame. -/
  | draws {frame rest source target arrow} (hf : w.frames = frame :: rest)
      (ha : DrawnFrom g plan frame.name target.name arrow)
      (hsheet : w'.sheet = w.sheet.push arrow) (hstrokes : w'.strokes = .drawn arrow :: w.strokes)
      (hsource : source.name = frame.name) (htally : w'.tally = w.tally.retain source target)
  /-- The arrow from the symbol of the first frame to its child is taken back. -/
  | takesBack {frame rest child arrow} (hf : w.frames = frame :: rest)
      (hc : frame.child = some child) (ha : DrawnFrom g plan frame.name child arrow)
      (hp : plan.prunes = true) (hpop : w.sheet.pop? = some (arrow, w'.sheet))
      (hstrokes : w'.strokes = .takenBack arrow :: w.strokes)
      (htally : w'.tally = w.tally.release arrow.source arrow.target)

/-- Each move touches the sheet in one of these ways. -/
theorem touches_of_move {w w' : Walk} (hlaid : Laid g plan base w.leadsOn w.frames w.sheet.stack)
    (hahead : LooksAhead g plan w.frames) (hm : Move g plan w w') : Touches g plan w w' := by
  cases hm with
  | keep hf hc hk => exact .nothing rfl rfl rfl
  | leave hf hc hp => exact .nothing rfl rfl rfl
  | pass hf hc hp hn => exact .nothing rfl rfl rfl
  | @takeBack frame rest child arrow below hf hc hp hr hs =>
    rw [hf] at hlaid
    obtain ⟨drawn, arrow', drawn', under, hstack, hempty, ha, -⟩ := hlaid.of_settling hc
    rw [hs, hempty hp hr, List.nil_append] at hstack
    obtain ⟨rfl, -⟩ := List.cons.inj hstack
    have hpop : w.sheet.pop? = some (arrow, ⟨below⟩) := by
      unfold Sheet.pop?
      rw [hs]
    exact .takesBack hf hc ha hp hpop rfl rfl
  | @follow frame rest call pending child hf hc hp hmeets =>
    have hcall : call ∈ g.relations plan.direction frame.name :=
      hahead frame (by simp [hf]) call (by simp [hp])
    have hchild : call.far plan.direction = child.name :=
      (Graph.name_of_find? hmeets.found).symm
    refine .draws hf ⟨call, hcall, hchild, rfl⟩ ?_ ?_ (name_of_origin g frame.name) ?_
    · rw [follow_sheet]
    · rw [follow_strokes]
    · rw [follow_tally]

/-! ## The account of a walk -/

/-- The tally is that of the root. It counts the arrows that lie above what lay there before, with
    their ends, and the strokes that took one back; without a goal there is no such stroke. -/
structure Balanced (plan : Plan) (root : String) (desk : Desk) (w : Walk) : Prop where
  root : w.tally.root = root
  arrows : ∃ own, w.sheet.stack = own ++ desk.sheet.stack ∧ w.tally.arrows = own.length ∧
    w.tally.Accounts (own.map Arrow.ends)
  takenBack : ∃ made, w.strokes = made ++ desk.strokes ∧
    w.tally.takenBack = made.countP Stroke.isTakenBack ∧
    (plan.goal = none → w.tally.takenBack = 0)

theorem balanced_start (root : Symbol) (desk : Desk) :
    Balanced plan root.name desk (start g plan root desk) :=
  ⟨rfl, ⟨[], rfl, rfl, Tally.accounts_start root⟩, ⟨[], rfl, rfl, fun _ => rfl⟩⟩

/-- If the tally counts no arrow, nothing lies above what lay there before. -/
theorem Balanced.sheet_eq {root : String} {desk : Desk} {w : Walk}
    (hb : Balanced plan root desk w) (hzero : w.tally.arrows = 0) : w.sheet = desk.sheet := by
  obtain ⟨own, hown, harrows, -⟩ := hb.arrows
  have hnil : own = [] := by
    rw [hzero] at harrows
    exact List.eq_nil_of_length_eq_zero (by omega)
  rw [hnil, List.nil_append] at hown
  cases hsheet : w.sheet
  cases hbase : desk.sheet
  rw [hsheet, hbase] at hown
  exact congrArg Sheet.mk hown

/-- The account stays right as long as nothing is taken from below it. -/
theorem Balanced.of_touches {root : String} {desk : Desk} {w w' : Walk}
    (hb : Balanced plan root desk w) (ht : Touches g plan w w')
    (hsuffix : ∃ own, w'.sheet.stack = own ++ desk.sheet.stack) :
    Balanced plan root desk w' := by
  obtain ⟨hroot, ⟨own, hown, harrows, haccounts⟩, ⟨made, hmade, htaken, hnone⟩⟩ := hb
  cases ht with
  | nothing hsheet hstrokes htally =>
    refine ⟨?_, ⟨own, ?_, ?_, ?_⟩, ⟨made, ?_, ?_, ?_⟩⟩
    · rw [htally, hroot]
    · rw [hsheet, hown]
    · rw [htally, harrows]
    · rw [htally]
      exact haccounts
    · rw [hstrokes, hmade]
    · rw [htally, htaken]
    · rw [htally]
      exact hnone
  | @draws frame _ source target arrow _ ha hsheet hstrokes hsource htally =>
    refine ⟨?_, ⟨arrow :: own, ?_, ?_, ?_⟩, ⟨.drawn arrow :: made, ?_, ?_, ?_⟩⟩
    · rw [htally, ← hroot]
      rfl
    · rw [hsheet, Sheet.push, hown]
      rfl
    · rw [htally, Tally.retain_arrows, harrows]
      simp
    · rw [htally, List.map_cons, ha.ends, ← hsource]
      exact haccounts.retain source target
    · rw [hstrokes, hmade]
      rfl
    · rw [htally, Tally.retain_takenBack, htaken,
        List.countP_cons_of_neg (by simp [Stroke.isTakenBack])]
    · rw [htally, Tally.retain_takenBack]
      exact hnone
  | @takesBack _ _ _ arrow _ _ _ hp hpop hstrokes htally =>
    -- what lay there before lies there after, so the arrow that went is one of the walk's own
    obtain ⟨own', hown'⟩ := hsuffix
    have hcons : own = arrow :: own' := by
      have hstack := Sheet.stack_of_pop? hpop
      rw [hown, hown', ← List.cons_append] at hstack
      exact List.append_cancel_right hstack
    refine ⟨?_, ⟨own', hown', ?_, ?_⟩, ⟨.takenBack arrow :: made, ?_, ?_, ?_⟩⟩
    · rw [htally, Tally.root_release, hroot]
    · rw [htally, Tally.release_arrows, harrows, hcons]
      simp
    · rw [hcons, List.map_cons] at haccounts
      rw [htally]
      exact haccounts.release (.refl _)
    · rw [hstrokes, hmade]
      rfl
    · rw [htally, Tally.release_takenBack, htaken, List.countP_cons_of_pos rfl]
    · intro hgoal
      simp [Plan.prunes, hgoal] at hp

/-! ## Extractions -/

/-- All along an extraction the sheet can be read by the frames. -/
theorem OnWay.laid {root : String} {desk : Desk} {w : Walk} (h : OnWay g plan root desk w) :
    Laid g plan desk.sheet.stack w.leadsOn w.frames w.sheet.stack ∧
      LooksAhead g plan w.frames := by
  refine h.invariant
    (I := fun w => Laid g plan desk.sheet.stack w.leadsOn w.frames w.sheet.stack ∧
      LooksAhead g plan w.frames)
    (fun symbol => ⟨laid_start symbol desk, looksAhead_start symbol desk⟩) ?_
  rintro w₁ w₂ ⟨hlaid, hahead⟩ hm
  exact ⟨laid_move hlaid hahead hm, looksAhead_move hahead hm⟩

theorem OnWay.balanced {root : String} {desk : Desk} {w : Walk} (h : OnWay g plan root desk w) :
    Balanced plan root desk w := by
  obtain ⟨symbol, hroot, hrun⟩ := h
  obtain rfl : symbol.name = root := Graph.name_of_find? hroot
  induction hrun with
  | refl => exact balanced_start symbol desk
  | @tail w₁ w₂ hrun hm ih =>
    have hlaid := OnWay.laid ⟨symbol, hroot, hrun⟩
    have hlaid' := OnWay.laid ⟨symbol, hroot, hrun.tail hm⟩
    exact ih.of_touches (touches_of_move hlaid.1 hlaid.2 hm) hlaid'.1.suffix

/-- All along an extraction there is an arrow to take back where one is to be taken back. -/
theorem OnWay.step?_ne_error {root : String} {desk : Desk} {w : Walk}
    (h : OnWay g plan root desk w) (fault : WalkFault) : w.step? g plan ≠ some (.error fault) := by
  intro herror
  obtain ⟨-, hp, hempty, frame, rest, child, hf, hc, hl⟩ := step?_eq_error herror
  have hlaid := h.laid.1
  rw [hf] at hlaid
  obtain ⟨drawn, arrow, drawn', under, hstack, -⟩ := hlaid.of_settling hc
  rw [hempty] at hstack
  simp at hstack

/-- An extraction takes back only the latest arrow, and only the one that leads from the symbol of
    the first frame to the child that is being settled. It never lacks one and never takes what
    lay there before; its tally is right at every move; and if it fails, all that it drew has been
    taken back. -/
theorem takes_back_arrow_of_settled_child (g : Graph) (plan : Plan) (root : String) (desk : Desk) :
    (∀ w, OnWay g plan root desk w →
      Balanced plan root desk w ∧ (∀ fault, w.step? g plan ≠ some (.error fault)) ∧
        ∀ w', w.step? g plan = some (.ok w') → Touches g plan w w') ∧
    (∀ w desk', extract g plan root desk = .ok w desk' →
      OnWay g plan root desk w ∧ w.frames = [] ∧ desk' = w.toDesk) ∧
    (∀ fault desk', extract g plan root desk = .error fault desk' →
      desk'.sheet = desk.sheet ∧
        (fault = .unknownSymbol root ∧ desk' = desk ∨
          ∃ w goal, plan.goal = some goal ∧ fault = .noPath root goal w.tally.takenBack ∧
            OnWay g plan root desk w ∧ w.frames = [] ∧ desk' = w.toDesk)) := by
  have houtcome := outcome_extract g plan root desk
  refine ⟨?_, ?_, ?_⟩
  · intro w hw
    refine ⟨hw.balanced, hw.step?_ne_error, ?_⟩
    intro w' hstep
    exact touches_of_move hw.laid.1 hw.laid.2 (step?_eq_ok_iff.mp hstep)
  · intro w desk' hextract
    rw [hextract] at houtcome
    cases houtcome with
    | excerpt hw hended _ => exact ⟨hw, hended, rfl⟩
  · intro fault desk' hextract
    rw [hextract] at houtcome
    cases houtcome with
    | unknown _ => exact ⟨rfl, .inl ⟨rfl, rfl⟩⟩
    | noPath hw hended hgoal _ hempty =>
      exact ⟨hw.balanced.sheet_eq hempty, .inr ⟨_, _, hgoal, rfl, hw, hended, rfl⟩⟩

end Walk

end CallExcerpt
