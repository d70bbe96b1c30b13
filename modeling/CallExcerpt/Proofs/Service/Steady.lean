import CallExcerpt.Proofs.Files.Disk
import CallExcerpt.Proofs.Success
import CallExcerpt.Proofs.Walk.Attributes
import CallExcerpt.Service

/-! # A service that keeps its attributes

    Work at a station is steady if it makes no difference which of the stylings
    it begins with that rest on the same lasting attributes: the results are
    the same, so is the world, and what it leaves rests on those attributes
    again. Handling a request is steady, whether it succeeds or fails. So a
    request is handled after others as it would be by a service that has just
    loaded its graph.
-/

namespace CallExcerpt

open Styling (Rests)
open Success (bind_of_ok bind_of_error Leads leads_pure leads_throw)

namespace Serving

/-- Results that differ in nothing but stylings that rest on the same lasting attributes. -/
inductive Same (fresh : Styling) {α : Type} :
    EStateM.Result Failure Station α → EStateM.Result Failure Station α → Prop where
  /-- Both succeed. -/
  | ok {a : α} {world : World} {s s' : Styling} (h : Rests fresh s) (h' : Rests fresh s') :
      Same fresh (.ok a ⟨world, s⟩) (.ok a ⟨world, s'⟩)
  /-- Both fail. -/
  | error {failure : Failure} {world : World} {s s' : Styling} (h : Rests fresh s)
      (h' : Rests fresh s') : Same fresh (.error failure ⟨world, s⟩) (.error failure ⟨world, s'⟩)

/-- It makes no difference which styling is there, of those that rest on the same lasting
    attributes. -/
def Steady (fresh : Styling) {α : Type} (x : Serving α) : Prop :=
  ∀ world s s', Rests fresh s → Rests fresh s' → Same fresh (x ⟨world, s⟩) (x ⟨world, s'⟩)

variable {fresh : Styling} {α β : Type}

theorem steady_pure (a : α) : Steady fresh (pure a) := fun _ _ _ h h' => .ok h h'

theorem steady_throw (failure : Failure) : Steady fresh (throw failure : Serving α) :=
  fun _ _ _ h h' => .error h h'

theorem Steady.bind {x : Serving α} {f : α → Serving β} (hx : Steady fresh x)
    (hf : ∀ a, Steady fresh (f a)) : Steady fresh (x >>= f) := by
  intro world s s' h h'
  have hfirst := hx world s s' h h'
  show Same fresh ((x >>= f).run ⟨world, s⟩) ((x >>= f).run ⟨world, s'⟩)
  simp only [EStateM.run_bind]
  generalize hr : EStateM.run x ⟨world, s⟩ = result
  generalize hr' : EStateM.run x ⟨world, s'⟩ = result'
  change x ⟨world, s⟩ = _ at hr
  change x ⟨world, s'⟩ = _ at hr'
  rw [hr, hr'] at hfirst
  cases hfirst with
  | ok h h' => exact hf _ _ _ _ h h'
  | error h h' => exact .error h h'

/-- What looks at nothing but the world is steady. -/
theorem steady_onWorld (x : Action α) : Steady fresh (onWorld x) := by
  intro world s s' h h'
  unfold onWorld
  simp only
  split
  · exact .ok h h'
  · exact .error h h'

theorem steady_ofExcept {ε : Type} (failure : ε → Failure) (x : Except ε α) :
    Steady fresh (ofExcept failure x) := steady_onWorld _

theorem steady_note (level : Level) (text : String) : Steady fresh (note level text) :=
  steady_onWorld _

/-- Work that begins with a look at the world. -/
theorem steady_world {f : World → Serving α} (hf : ∀ world, Steady fresh (f world)) :
    Steady fresh (do let s ← get; f s.world) :=
  fun world s s' h h' => hf world world s s' h h'

end Serving

/-! ## Work on the world -/

namespace Action

variable {w : World} {α : Type}

theorem onDisk_of_ok {x : OnDisk α} {a : α} {d : Disk} (failure : SystemFault → Failure)
    (h : x w.disk = .ok a d) : onDisk failure x w = .ok a { w with disk := d } := by
  unfold onDisk
  rw [h]

theorem onDisk_of_error {x : OnDisk α} {cause : SystemFault} {d : Disk}
    (failure : SystemFault → Failure) (h : x w.disk = .error cause d) :
    onDisk failure x w = .error (failure cause) { w with disk := d } := by
  unfold onDisk
  rw [h]

/-- A note changes nothing but the list of notes, and the disk where the log file is. -/
theorem log_of_disk (n : Note) {P : Disk → Prop} (hsame : P w.disk)
    (hlogged : ∀ file ∈ w.logFile,
      Leads (OnDisk.appendFile w.base file.path (Text.Utf8.encode n.lines)) w.disk (fun _ d => P d)
        fun _ d => P d) :
    ∃ d, P d ∧ log n w = .ok () { w with notes := w.notes ++ [n], disk := d } := by
  refine ⟨_, ?_, rfl⟩
  cases hlog : w.logFile with
  | none => exact hsame
  | some file =>
    show P (ite _ _ _)
    split
    case isTrue => exact hsame
    case isFalse =>
      rcases (hlogged file hlog).cases with ⟨_, d, hrun, hd⟩ | ⟨_, d, hrun, hd⟩
      · rw [hrun]
        exact hd
      · rw [hrun]
        exact hd

theorem log_of_keeps (n : Note) (w : World) :
    ∃ d, w.disk.Keeps d ∧ log n w = .ok () { w with notes := w.notes ++ [n], disk := d } := by
  apply log_of_disk n (.refl w.disk)
  intro file _
  exact OnDisk.leads_appendFile_keeps w.base file.path _ w.disk

end Action

namespace Service

open Serving

variable {fresh : Styling}

theorem onWorld_of_ok {α : Type} {x : Action α} {s : Station} {a : α} {w : World}
    (h : x s.world = .ok a w) : Serving.onWorld x s = .ok a { s with world := w } := by
  unfold Serving.onWorld
  rw [h]

theorem onWorld_of_error {α : Type} {x : Action α} {s : Station} {e : Failure} {w : World}
    (h : x s.world = .error e w) : Serving.onWorld x s = .error e { s with world := w } := by
  unfold Serving.onWorld
  rw [h]

theorem leads_onWorld {α : Type} {x : Action α} {s : Station} {P : α → World → Prop}
    {F : Failure → World → Prop} (h : Leads x s.world P F) :
    Leads (Serving.onWorld x) s (fun a s' => P a s'.world) fun e s' => F e s'.world := by
  unfold Leads
  obtain ⟨a, w', hrun, ha⟩ | ⟨e, w', hrun, he⟩ := h.cases
  · rw [onWorld_of_ok hrun]
    exact ha
  · rw [onWorld_of_error hrun]
    exact he

/-! ## Requests -/

theorem steady_draw (g : Graph) (r : Request) (screen : Screen) (root : String) :
    Steady fresh (draw g r screen root) := by
  intro world s s' h h'
  obtain ⟨hrests, hrests', hscreen, hwalk⟩ := Excerpt.walk_of_rests h h' g r screen root
  show Same fresh ((draw g r screen root).run _) ((draw g r screen root).run _)
  simp only [draw, EStateM.run_bind, EStateM.run_get, EStateM.run_modify]
  generalize Excerpt.walk g r s screen root = outcome at *
  generalize Excerpt.walk g r s' screen root = outcome' at *
  obtain ⟨result, styling, screen₁⟩ := outcome
  obtain ⟨result', styling', screen₂⟩ := outcome'
  obtain rfl : screen₁ = screen₂ := hscreen
  -- the walks end alike, so the cases in which only one of them fails are void
  cases result with
  | error fault =>
    cases result' with
    | error fault' =>
      obtain rfl : fault = fault' := by simpa [Except.map] using hwalk
      exact .ok hrests hrests'
    | ok w' => cases hwalk
  | ok w =>
    cases result' with
    | error fault' => cases hwalk
    | ok w' =>
      obtain ⟨hsummary, hexcerpt⟩ : w.summary = w'.summary
          ∧ Excerpt.ofWalk r.drawing w = Excerpt.ofWalk r.drawing w' := by
        simpa [Except.map] using hwalk
      simp only [hsummary, hexcerpt]
      exact ((steady_onWorld _).bind fun _ => steady_pure _) _ _ _ hrests hrests'

theorem steady_work (g : Graph) (r : Request) (several : Bool) (place : Path) (screen : Screen)
    (names : List String) : Steady fresh (work g r several place screen names) := by
  induction names generalizing screen with
  | nil => exact steady_pure _
  | cons name names ih =>
    refine (steady_draw g r screen name).bind fun drawn => ?_
    obtain ⟨result, screen'⟩ := drawn
    have hothers : ∀ first : Excerpt, Steady fresh (do
        let others ← work g r several place screen' names
        return first :: others) :=
      fun first => (ih screen').bind fun others => steady_pure _
    cases result with
    | ok e => exact (steady_onWorld _).bind hothers
    | error fault =>
      cases fault with
      | noPath root goal takenBack =>
        exact (steady_note _ _).bind fun _ => (steady_pure _).bind hothers
      | unknownSymbol name => exact (steady_throw _).bind hothers
      | nothingDrawn => exact (steady_throw _).bind hothers

/-- What is removed after work, however it ended. -/
def removal (place : Location) : Serving Unit :=
  onWorld (Action.onDisk .system (OnDisk.removeAll place))

/-- Work after which a directory is removed, however it ended. -/
def clearing {α : Type} (place : Location) (x : Serving α) : Serving α := try x finally removal place

/-- If the directory cannot be removed, that takes the place of what came of the work. -/
theorem clearing_apply {α : Type} (place : Location) (x : Serving α) (s : Station) :
    clearing place x s = match x s with
      | .ok a s' => (do removal place; return a : Serving α) s'
      | .error e s' => (do removal place; throw e : Serving α) s' := by
  have hfinally : clearing place x s
      = EStateM.map Prod.fst (MonadFinally.tryFinally' x fun _ => removal place) s := rfl
  rw [hfinally]
  cases hx : x s with
  | ok a s' =>
    simp only [EStateM.map, MonadFinally.tryFinally', hx]
    cases hremoval : removal place s' with
    | ok _ s'' => exact Eq.symm ((bind_of_ok hremoval).trans rfl)
    | error e s'' => exact Eq.symm (bind_of_error hremoval)
  | error e s' =>
    simp only [EStateM.map, MonadFinally.tryFinally', hx]
    cases hremoval : removal place s' with
    | ok _ s'' => exact Eq.symm ((bind_of_ok hremoval).trans rfl)
    | error e s'' => exact Eq.symm (bind_of_error hremoval)

/-- Work, and the removal of a directory after it. -/
theorem leads_clearing {α : Type} {x : Serving α} {s : Station} {place : Location}
    {P Q : α → Station → Prop} {F G : Failure → Station → Prop} (hx : Leads x s P F)
    (hok : ∀ a s', P a s' → Leads (removal place) s' (fun _ s'' => Q a s'') G)
    (herror : ∀ e s', F e s' → Leads (removal place) s' (fun _ s'' => G e s'') G) :
    Leads (clearing place x) s Q G := by
  unfold Leads
  rw [clearing_apply]
  obtain ⟨a, s', hrun, ha⟩ | ⟨e, s', hrun, he⟩ := hx.cases
  · rw [hrun]
    exact (hok a s' ha).bind fun _ _ h => leads_pure h
  · rw [hrun]
    exact (herror e s' he).bind fun _ _ h => leads_throw h

/-- The system lets a directory go, or keeps a remnant of it. -/
theorem leads_removal (place : Location) (s : Station) :
    Leads (removal place) s
      (fun _ s' => s' = { s with world := { s.world with disk := s.world.disk.removeTree place } })
      fun e s' => ∃ remnant, s.world.disk.limits.removing s.world.disk.entries place = some remnant
        ∧ e = .system (.refused (.limited remnant.reason) remnant.path)
        ∧ s' = { s with
            world := { s.world with disk := s.world.disk.removeTree place remnant.kept } } := by
  have hlooked : OnDisk.removeAll place s.world.disk
      = (s.world.disk.limits.removing s.world.disk.entries place).elim
          (.ok () (s.world.disk.removeTree place))
          fun remnant => .error (.refused (.limited remnant.reason) remnant.path)
            (s.world.disk.removeTree place remnant.kept) := by
    unfold OnDisk.removeAll
    refine (bind_of_ok rfl).trans ?_
    cases s.world.disk.limits.removing s.world.disk.entries place with
    | none => rfl
    | some remnant => rfl
  unfold Leads removal
  cases hremnant : s.world.disk.limits.removing s.world.disk.entries place with
  | none =>
    rw [hremnant] at hlooked
    rw [onWorld_of_ok (Action.onDisk_of_ok .system hlooked)]
  | some remnant =>
    rw [hremnant] at hlooked
    rw [onWorld_of_error (Action.onDisk_of_error .system hlooked)]
    exact ⟨remnant, rfl, rfl, rfl⟩

theorem steady_clearing {α : Type} {x : Serving α} (hx : Steady fresh x) (place : Location) :
    Steady fresh (clearing place x) := by
  intro world s s' h h'
  have hinside := hx world s s' h h'
  rw [clearing_apply, clearing_apply]
  generalize x ⟨world, s⟩ = result at *
  generalize x ⟨world, s'⟩ = result' at *
  cases hinside with
  | ok h h' => exact ((steady_onWorld _).bind fun _ => steady_pure _) _ _ _ h h'
  | error h h' => exact ((steady_onWorld _).bind fun _ => steady_throw _) _ _ _ h h'

theorem withWorkplace_eq {α : Type} (x : Path → Serving α) :
    withWorkplace x = (do
      let s ← get
      onWorld (Action.onDisk .noWorkingDirectory
        (OnDisk.makeDirectory [] (World.pathOf (workplace s.world))))
      clearing (workplace s.world) (x (World.pathOf (workplace s.world)))) := rfl

theorem steady_withWorkplace {α : Type} {x : Path → Serving α}
    (hx : ∀ path, Steady fresh (x path)) : Steady fresh (withWorkplace x) := by
  rw [withWorkplace_eq]
  let inside (world : World) : Serving α := do
    onWorld (Action.onDisk .noWorkingDirectory
      (OnDisk.makeDirectory [] (World.pathOf (workplace world))))
    clearing (workplace world) (x (World.pathOf (workplace world)))
  have hinside : ∀ world, Steady fresh (inside world) := fun world =>
    (steady_onWorld _).bind fun _ => steady_clearing (hx _) _
  exact steady_world hinside

/-- What is done for a request where such patterns can be read. -/
def handling (g : Graph) (r : Request) (fits : String → Bool) : Serving (List Excerpt) := do
  Serving.ofExcept .request r.validate
  let filters ← Serving.ofExcept .pattern (Filters.compile r.filters fits)
  match r.goal with
  | some goal => do
    let _ ← Serving.ofExcept id (resolve g goal)
  | none => pure ()
  let roots ← Serving.ofExcept id (roots g r fits)
  withWorkplace fun place => work g r (1 < roots.length) place { filters } roots

theorem handle_apply (g : Graph) (r : Request) (s : Station) :
    handle g r s = handling g r s.world.fits s := rfl

/-- A request is handled alike by all services that rest on the same lasting attributes, and they
    rest on them afterwards. -/
theorem steady_handle (g : Graph) (r : Request) : Steady fresh (handle g r) := by
  have hhandling : ∀ world : World, Steady fresh (handling g r world.fits) := ?_
  · exact steady_world hhandling
  intro world
  refine (steady_ofExcept _ _).bind fun _ => (steady_ofExcept _ _).bind fun filters => ?_
  have hroots : Steady fresh (do
      let roots ← Serving.ofExcept id (roots g r world.fits)
      withWorkplace fun place => work g r (1 < roots.length) place { filters } roots) :=
    (steady_ofExcept _ _).bind fun roots => steady_withWorkplace fun place =>
      steady_work _ _ _ _ _ _
  cases r.goal with
  | none => exact hroots
  | some goal => exact (steady_ofExcept _ _).bind fun _ => hroots

end Service

end CallExcerpt
