import CallExcerpt.Proofs.Service.Failing

/-! # Requests that are refused

    A request is looked at as a whole before anything is done about it: its
    parameters, its filters, its goal and its roots, in this order. A request
    that makes no sense is refused then, and nothing in the world tells of it.
    Once the first root is begun it is too late for that: what is looked up
    later on was found before.

    * `asked`, `handling_eq`: the look at a request, and the work that comes after.
    * `asked_eq_ok_iff`, `accepted_iff`: the requests that pass.
    * `Walk.contains_of_extract`: the members of an excerpt are symbols.
    * `refused_without_effect`: a refusal leaves all as it was, and comes before
      all work.
-/

namespace CallExcerpt

open Success (Leads)

/-! ## Members are symbols -/

theorem Graph.contains_of_find? {g : Graph} {name : String} {symbol : Symbol}
    (h : g.find? name = some symbol) : g.contains symbol.name = true := by
  rw [Graph.name_of_find? h, Graph.contains, h]
  rfl

namespace Walk

variable {g : Graph} {plan : Plan}

/-- The walk stands at symbols of the graph, and its members are some. -/
structure Known (g : Graph) (w : Walk) : Prop where
  frames : ∀ name ∈ w.frames.map (·.name), g.contains name = true
  members : ∀ name ∈ w.tally.members, g.contains name = true

theorem known_start {root : Symbol} {name : String} (hroot : g.find? name = some root)
    (plan : Plan) (desk : Desk) : (start g plan root desk).Known g := by
  have hname : g.contains root.name = true := Graph.contains_of_find? hroot
  constructor
  · intro frame hframe
    obtain rfl : frame = root.name := List.mem_singleton.mp hframe
    exact hname
  · intro member hmember
    have hall : (Tally.start root).members = [root.name] := rfl
    obtain rfl : member = root.name := by simpa [start, hall] using hmember
    exact hname

theorem Known.stack {w : Walk} (h : w.Known g) {frames : List Frame} (hf : w.frames = frames) :
    ∀ name ∈ frames.map (·.name), g.contains name = true := hf ▸ h.frames

/-- Every move leads to symbols of the graph only. -/
theorem known_move {w w' : Walk} (h : w.Known g) (hm : Move g plan w w') : w'.Known g := by
  cases hm with
  | @keep frame rest child hf =>
    have hframes := h.stack hf
    exact ⟨hframes, h.members⟩
  | @takeBack frame rest child arrow below hf =>
    have hframes := h.stack hf
    -- what is taken back leaves some of the members, and adds none
    refine ⟨hframes, fun name hname => ?_⟩
    obtain ⟨p, hp⟩ := Tally.exists_filter_release w.tally arrow.source arrow.target
    exact h.members name (List.mem_filter.mp (hp ▸ hname)).1
  | @leave frame rest hf =>
    exact ⟨(List.forall_mem_cons.mp (h.stack hf)).2, h.members⟩
  | @pass frame rest call pending hf =>
    have hframes := h.stack hf
    exact ⟨hframes, h.members⟩
  | @follow frame rest call pending child hf _ _ hmeets =>
    have hframes := h.stack hf
    have hhere : g.contains frame.name = true := (List.forall_mem_cons.mp hframes).1
    have hchild : g.contains child.name = true := Graph.contains_of_find? hmeets.found
    constructor
    · rw [follow_frames]
      split
      · exact List.forall_mem_cons.mpr ⟨hchild, hframes⟩
      · exact hframes
    · intro name hname
      rw [follow_tally, Tally.mem_members_retain_iff, name_of_origin] at hname
      obtain hold | rfl | rfl := hname
      · exact h.members name hold
      · exact hhere
      · exact hchild

theorem contains_of_extract {root : String} {desk desk' : Desk} {w : Walk}
    (h : extract g plan root desk = .ok w desk') :
    ∀ name ∈ w.tally.members, g.contains name = true := by
  obtain ⟨⟨symbol, hroot, hrun⟩, -⟩ := grows_of_extract h
  have hknown : w.Known g := hrun.invariant (I := fun w => w.Known g) (fun _ _ => known_move)
    (known_start hroot plan desk)
  exact hknown.members

end Walk

namespace Failure

/-- A failure with which a request is refused: it makes no sense, or speaks of symbols that are not
    there. -/
def Refuses (e : Failure) : Prop := e.family = .config ∨ e.family = .symbolNotFound

end Failure

namespace Service

variable {g : Graph} {r : Request} {fits : String → Bool}

/-! ## A look at a request -/

/-- What a request asks for where such patterns can be read: its filters and its roots, or why it is
    refused. -/
def asked (g : Graph) (r : Request) (fits : String → Bool) :
    Except Failure (Filters × List String) := do
  r.validate.mapError .request
  let filters ← (Filters.compile r.filters fits).mapError .pattern
  match r.goal with
  | some goal => do
    let _ ← resolve g goal
  | none => pure ()
  let names ← roots g r fits
  return (filters, names)

/-- A request is looked at first, and its roots are worked on then. -/
theorem handling_eq (g : Graph) (r : Request) (fits : String → Bool) :
    handling g r fits = (do
      let (filters, names) ← Serving.ofExcept id (asked g r fits)
      withWorkplace fun place => work g r (1 < names.length) place { filters } names) := by
  funext s
  unfold handling asked
  cases r.validate with
  | error fault => rfl
  | ok _ =>
    cases Filters.compile r.filters fits with
    | error fault => rfl
    | ok filters =>
      have hrooted : (do
          let roots ← Serving.ofExcept id (roots g r fits)
          withWorkplace fun place => work g r (1 < roots.length) place { filters } roots) s
        = (do
          let (filters, names) ← Serving.ofExcept id (do
            let names ← roots g r fits
            return (filters, names))
          withWorkplace fun place => work g r (1 < names.length) place { filters } names) s := by
        cases roots g r fits with
        | error failure => rfl
        | ok names => rfl
      cases r.goal with
      | none => exact hrooted
      | some goal =>
        cases hresolve : resolve g goal with
        | error failure => simp only [hresolve]; rfl
        | ok symbol => simp only [hresolve]; exact hrooted

theorem handle_of_refused {e : Failure} {s : Station} (h : asked g r s.world.fits = .error e) :
    handle g r s = .error e s := by
  rw [handle_apply, handling_eq, h]
  rfl

theorem handle_of_asked {filters : Filters} {names : List String} {s : Station}
    (h : asked g r s.world.fits = .ok (filters, names)) :
    handle g r s
      = withWorkplace (fun place => work g r (1 < names.length) place { filters } names) s := by
  rw [handle_apply, handling_eq, h]
  rfl

/-- A request passes if each of its parts does, and asks for just what these give. -/
theorem asked_eq_ok_iff {filters : Filters} {names : List String} :
    asked g r fits = .ok (filters, names) ↔ r.validate = .ok ()
      ∧ Filters.compile r.filters fits = .ok filters
      ∧ (∀ goal ∈ r.goal, ∃ symbol, resolve g goal = .ok symbol)
      ∧ roots g r fits = .ok names := by
  constructor
  · intro h
    unfold asked at h
    obtain ⟨_, hvalid, h⟩ := Success.of_bind h
    obtain ⟨filters', hfilters, h⟩ := Success.of_bind h
    have hrooted : (∀ goal ∈ r.goal, ∃ symbol, resolve g goal = .ok symbol)
        ∧ (do
          let names ← roots g r fits
          return (filters', names)) = .ok (filters, names) := by
      cases hsome : r.goal with
      | none =>
        rw [hsome] at h
        exact ⟨nofun, h⟩
      | some goal =>
        rw [hsome] at h
        obtain ⟨symbol, hsymbol, h⟩ := Success.of_bind h
        refine ⟨?_, h⟩
        rintro _ ⟨⟩
        exact ⟨symbol, hsymbol⟩
    obtain ⟨hgoal, h⟩ := hrooted
    obtain ⟨names', hnames, h⟩ := Success.of_bind h
    cases h
    exact ⟨Success.of_mapError hvalid, Success.of_mapError hfilters, hgoal, hnames⟩
  · rintro ⟨hvalid, hfilters, hgoal, hnames⟩
    unfold asked
    rw [hvalid, hfilters, hnames]
    cases hsome : r.goal with
    | none => rfl
    | some goal =>
      obtain ⟨symbol, hsymbol⟩ := hgoal goal hsome
      simp only [hsymbol]
      rfl

/-- The requests that make sense are those that pass. -/
theorem accepted_iff :
    Accepted g r fits ↔ ∃ filters names, asked g r fits = .ok (filters, names) := by
  constructor
  · rintro ⟨hvalid, ⟨filters, hfilters⟩, hgoal, names, hnames⟩
    exact ⟨filters, names, asked_eq_ok_iff.mpr ⟨hvalid, hfilters, hgoal, hnames⟩⟩
  · rintro ⟨filters, names, h⟩
    obtain ⟨hvalid, hfilters, hgoal, hnames⟩ := asked_eq_ok_iff.mp h
    exact ⟨hvalid, ⟨filters, hfilters⟩, hgoal, names, hnames⟩

/-! ## Work that has begun -/

theorem not_refuses_of_system (cause : SystemFault) : ¬ (Failure.system cause).Refuses := by
  cases cause <;> simp [Failure.Refuses, Failure.family, Failure.familyOfCause]

/-- Whatever goes wrong with an excerpt that is written, it is no refusal. -/
theorem not_refuses_of_trouble {w : World} {place : Path} {e : Failure}
    (h : Mishap r w place e) : ¬ e.Refuses := by
  cases h with
  | storage hfamily => simp [Failure.Refuses, hfamily]
  | noPlace _ hdeep =>
    rw [hdeep]
    exact not_refuses_of_system _
  | slip hslip =>
    cases hslip with
    | @pattern fault happart =>
      unfold Failure.Refuses Failure.family
      cases hproblem : fault.fault.problem <;>
        simp_all [Pattern.Problem.isApart]
    | longDepth _ hlong => simp [Failure.Refuses, Failure.family, hlong]
    | nameless => simp [Failure.Refuses, Failure.family]
    | garbled => simp [Failure.Refuses, Failure.family]
    | nullByte => exact not_refuses_of_system _
    | directory => exact not_refuses_of_system _
    | tooDeep => exact not_refuses_of_system _
    | notEncoded => exact not_refuses_of_system _
    | outlet => exact not_refuses_of_system _
    | remnant => exact not_refuses_of_system _

/-- A request that makes sense is not refused any more. -/
theorem leads_accepted {s : Station} (h : Accepted g r s.world.fits) :
    Leads (handle g r) s (fun _ _ => True) fun e _ => ¬ e.Refuses := by
  obtain ⟨filters, names, hasked⟩ := accepted_iff.mp h
  obtain ⟨-, -, -, hroots⟩ := asked_eq_ok_iff.mp hasked
  unfold Leads
  rw [handle_of_asked hasked]
  apply leads_withWorkplace (P := fun _ => True) (F := fun e => ¬ e.Refuses)
  · intro cause
    have hresource : (Failure.noWorkingDirectory cause).family = .resource := rfl
    simp [Failure.Refuses, hresource]
  · exact fun _ _ _ => not_refuses_of_system _
  · intro s' honward hthere
    have hplace := (Disk.isDirectory_iff.mp hthere).1
    apply (leads_work h.valid hplace honward _ _ names (contains_of_roots hroots)).mono
    · exact fun _ _ hw => ⟨hw, trivial⟩
    · exact fun _ _ hw => ⟨hw.1, not_refuses_of_trouble hw.2⟩

/-- A request that is refused leaves all as it was: the disk, what was printed and logged, the
    calls of the layout engine, and the styling. The reason is the request as a whole. Once it makes
    sense, the work on its roots, begun anywhere in their row, ends with no refusal; and the members
    of an excerpt, whose symbols are looked up again for its description, are there. -/
theorem refused_without_effect (g : Graph) (r : Request) (s : Station) :
    (∀ e s', handle g r s = .error e s' → e.Refuses → s' = s ∧ ¬ Accepted g r s.world.fits)
      ∧ (∀ fits, Accepted g r fits → ∀ names, roots g r fits = .ok names → ∀ rest ⊆ names,
          ∀ several place screen begun e s', place.Clean →
            work g r several place screen rest begun = .error e s' → ¬ e.Refuses)
      ∧ ∀ root desk w desk', Walk.extract g r.plan root desk = .ok w desk' →
          ∀ name ∈ w.tally.members, ∃ symbol, resolve g name = .ok symbol := by
  refine ⟨?_, ?_, ?_⟩
  · intro e s' hrun hrefuses
    cases hasked : asked g r s.world.fits with
    | error failure =>
      rw [handle_of_refused hasked] at hrun
      cases hrun
      refine ⟨rfl, fun haccepted => ?_⟩
      obtain ⟨filters, names, hpassed⟩ := accepted_iff.mp haccepted
      simp [hasked] at hpassed
    | ok passed =>
      have haccepted : Accepted g r s.world.fits :=
        accepted_iff.mpr ⟨passed.1, passed.2, hasked⟩
      have hleads := leads_accepted haccepted
      unfold Leads at hleads
      rw [hrun] at hleads
      exact absurd hrefuses hleads
  · intro fits haccepted names hnames rest hrest several place screen begun e s' hplace hrun
    have hcontains : ∀ n ∈ rest, g.contains n = true :=
      fun n hn => contains_of_roots hnames n (hrest hn)
    have hleads :=
      leads_work haccepted.valid hplace (.refl begun.world) several screen rest hcontains
    unfold Leads at hleads
    rw [hrun] at hleads
    exact not_refuses_of_trouble hleads.2
  · intro root desk w desk' hextract name hname
    obtain ⟨symbol, hsymbol⟩ :=
      Option.isSome_iff_exists.mp (Walk.contains_of_extract hextract name hname)
    refine ⟨symbol, ?_⟩
    rw [resolve, hsymbol]

/-- A goal that is not there, asked for beside a root that is. -/
def goneGoal : Request := { roots := ["main"], goal := some "gone" }

/-- Nothing tells of the request, not even the directory for its working files. -/
theorem gone_goal_without_effect :
    ∃ e s', handle loneGraph goneGoal {} = .error e s' ∧ e.message = "Symbol 'gone' not found"
      ∧ s' = {} ∧ ¬ Accepted loneGraph goneGoal (fun _ => true) := by
  have hasked : asked loneGraph goneGoal ({} : Station).world.fits
      = .error (.walk (.unknownSymbol "gone")) := by rfl
  have hrun := handle_of_refused hasked
  obtain ⟨hsame, hrefused⟩ := (refused_without_effect loneGraph goneGoal {}).1 _ _ hrun (.inr rfl)
  exact ⟨_, _, hrun, by decide, hsame, hrefused⟩

end Service

end CallExcerpt
