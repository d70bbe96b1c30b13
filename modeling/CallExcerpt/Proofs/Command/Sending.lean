import CallExcerpt.Command.Invocation
import CallExcerpt.Proofs.Request.Wire
import CallExcerpt.Proofs.Service.Steady
import CallExcerpt.Proofs.Success

/-! # Drawing here or having it drawn

    A command line can have its request handled at once or send it to a
    service, which reads it from a record. Both come to the same unless an
    option has the empty text for its value: a record tells neither an empty
    pattern nor an empty goal, and takes them for not given. An empty size is
    lost as well, but nothing is drawn differently without it.

    * `reread_requestOf`: what is read of a command line's request.
    * `handle_size`: an empty size and none are drawn alike.
    * `sent_handled_alike`: both ways agree; `sent_handled_otherwise` has two
      command lines where they do not, with an empty goal and with an empty
      pattern.
    * `Unhindered`, `leads_draw_of_no_goal`, `handle_dash`: without a goal the excerpts of known
      symbols are drawn and written to standard output.
-/

namespace CallExcerpt

open Success (bind_of_ok Leads leads_pure leads_get leads_of_ok)

namespace Command

/-! ## Names of a command line -/

theorem readNames_namesOf (l : Line) (key : String) :
    Wire.readNames (namesOf l key) = namesOf l key := by
  unfold namesOf
  induction l.all key with
  | nil => rfl
  | cons text texts ih =>
    rw [List.flatMap_cons, Wire.readNames_append, Wire.readNames_splitNames, ih]

theorem normal_of_pathOf {l : Line} {key : String} {path : Option Path}
    (h : pathOf? l key = some path) : ∀ p ∈ path, p.Normal := by
  unfold pathOf? value? at h
  intro p hp
  split at h
  · cases h
    cases hp
  · obtain ⟨q, hq, rfl⟩ := Option.map_eq_some_iff.mp h
    cases hp
    unfold readPath? at hq
    split at hq
    · cases hq
    · cases hq
      exact Path.normal_ofString _

/-- The names of a command line's request stand in a record as they are, and so does its output. -/
theorem names_of_requestOf {l : Line} {r : Request} (h : requestOf? l = some r) :
    Wire.readNames r.roots = r.roots ∧ Wire.readNames r.ignore = r.ignore
      ∧ Wire.readNames r.shown = r.shown ∧ r.output.Normal := by
  simp only [requestOf?, Option.bind_eq_bind, Option.bind_eq_some_iff] at h
  obtain ⟨direction, -, depth, -, output, houtput, hr⟩ := h
  obtain rfl := Option.some.inj hr
  refine ⟨readNames_namesOf _ _, readNames_namesOf _ _, readNames_namesOf _ _, ?_⟩
  cases output with
  | none => exact Path.normal_ofString _
  | some path => exact normal_of_pathOf houtput path rfl

/-- What is read from the record of a command line's request, if no pattern and no goal is empty:
    the request itself, but for an empty size. -/
theorem reread_requestOf {l : Line} {r : Request} (h : requestOf? l = some r)
    (hpatterns : "" ∉ Wire.patterns r) (hgoal : r.goal ≠ some "") :
    Wire.reread r = { r with size := r.size.filter (· ≠ "") } := by
  obtain ⟨hroots, hignore, hshown, houtput⟩ := names_of_requestOf h
  -- nothing is empty, so nothing that is read is dropped
  have hkept : ∀ patterns : List String, patterns ⊆ Wire.patterns r →
      patterns.filter (· ≠ "") = patterns := by
    intro patterns hsub
    rw [List.filter_eq_self]
    intro pattern hpattern
    have hne : pattern ≠ "" := fun he => hpatterns (he ▸ hsub hpattern)
    simpa using hne
  have hsaid : r.goal.filter (· ≠ "") = r.goal := by
    cases hg : r.goal with
    | none => rfl
    | some goal =>
      have hne : goal ≠ "" := fun he => hgoal (by rw [hg, he])
      simp [Option.filter, hne]
  rw [Wire.reread_eq houtput, Wire.received, hroots, hignore, hshown, hsaid,
    hkept r.rootPatterns (by simp [Wire.patterns]), hkept r.ignorePatterns (by simp [Wire.patterns]),
    hkept r.shownPatterns (by simp [Wire.patterns])]

end Command

/-! ## An empty size -/

namespace Service

open Serving

theorem sizeLines_filter (size : Option String) :
    Dot.sizeLines (size.filter (· ≠ "")) = Dot.sizeLines size := by
  cases size with
  | none => rfl
  | some size =>
    by_cases hempty : size = ""
    · simp [Option.filter, Dot.sizeLines, hempty]
    · simp [Option.filter, hempty]

variable (g : Graph) (r : Request) {size : Option String}

theorem draw_size (h : Dot.sizeLines size = Dot.sizeLines r.size) (screen : Screen) (root : String) :
    draw g { r with size } screen root = draw g r screen root := by
  have hdrawing : Excerpt.ofWalk { r with size }.drawing = Excerpt.ofWalk r.drawing := by
    funext w
    have hheader : Dot.header { r with size }.drawing = Dot.header r.drawing := by
      simp only [Dot.header, Request.drawing, h]
    simp only [Excerpt.ofWalk, Dot.render, hheader]
  simp only [draw, hdrawing]
  rfl

theorem work_size (h : Dot.sizeLines size = Dot.sizeLines r.size) (several : Bool) (place : Path)
    (screen : Screen) (names : List String) :
    work g { r with size } several place screen names = work g r several place screen names := by
  induction names generalizing screen with
  | nil => rfl
  | cons name names ih =>
    have hwrite : write { r with size } several place = write r several place := rfl
    simp only [work, draw_size g r h, ih, hwrite]

/-- A size matters to a drawing only by its lines. -/
theorem handle_size (h : Dot.sizeLines size = Dot.sizeLines r.size) :
    handle g { r with size } = handle g r := by
  have hwork : ∀ several place screen names,
      work g { r with size } several place screen names = work g r several place screen names :=
    work_size g r h
  simp only [handle, hwork]
  rfl

/-! ## Both ways -/

/-- A command line whose patterns and goal are not empty: the service that reads its request from a
    record does what would be done without a record. -/
theorem sent_handled_alike (g : Graph) (l : Command.Line) (r : Request) (record : String)
    (hbuilt : Command.requestOf? l = some r) (hsent : Wire.encode r = .ok record)
    (hpatterns : "" ∉ Wire.patterns r) (hgoal : r.goal ≠ some "") :
    ∃ r', Wire.decode record = .ok r' ∧ handle g r' = handle g r := by
  refine ⟨Wire.reread r, Wire.decode_of_encode hsent, ?_⟩
  rw [Command.reread_requestOf hbuilt hpatterns hgoal]
  exact handle_size g r (sizeLines_filter r.size)

/-- A root that is blank around its name, and an empty size: neither is told by the record. -/
def blankLine : Command.Line := { given := [("root", " main ; "), ("size", "")] }

/-- The request of that line. -/
def blankRequest : Request := { roots := ["main"], size := some "" }

theorem blank_handled_alike :
    Command.requestOf? blankLine = some blankRequest
    ∧ Wire.encode blankRequest = .ok ((Wire.body blankRequest).push Wire.recordSeparator)
    ∧ "" ∉ Wire.patterns blankRequest ∧ blankRequest.goal ≠ some ""
    ∧ ∃ r', Wire.decode ((Wire.body blankRequest).push Wire.recordSeparator) = .ok r'
      ∧ handle {} r' = handle {} blankRequest := by
  have hbuilt : Command.requestOf? blankLine = some blankRequest := by
    decide
  have hsent : Wire.encode blankRequest
      = .ok ((Wire.body blankRequest).push Wire.recordSeparator) :=
    Wire.encode_of_sendable (by decide)
  have hpatterns : "" ∉ Wire.patterns blankRequest := by decide
  have hgoal : blankRequest.goal ≠ some "" := by decide
  exact ⟨hbuilt, hsent, hpatterns, hgoal,
    sent_handled_alike {} blankLine blankRequest _ hbuilt hsent hpatterns hgoal⟩

/-! ## Empty values -/

/-- Standard output takes all that is written to it, and every directory can be removed. -/
structure Unhindered (w : World) : Prop where
  outlet : ∀ before text, w.outlet before text = none
  removing : ∀ tree l, w.disk.limits.removing tree l = none

/-- What is logged hinders nothing. -/
theorem leads_log_unhindered {w : World} (h : Unhindered w) (n : Note) :
    Leads (Action.log n) w (fun _ w' => Unhindered w') fun _ _ => False := by
  obtain ⟨d, hkeeps, hrun⟩ := Action.log_of_keeps n w
  refine leads_of_ok hrun ⟨h.outlet, ?_⟩
  show ∀ tree l, d.limits.removing tree l = none
  rw [hkeeps.limits]
  exact h.removing

/-- An excerpt of a symbol that is there, without a goal, is drawn. -/
theorem leads_draw_of_no_goal {g : Graph} {r : Request} {root : String}
    (hroot : g.contains root = true) (hgoal : r.goal = none) (screen : Screen) {s : Station}
    (hs : Unhindered s.world) :
    Leads (draw g r screen root) s
      (fun drawn s' => (∃ e, drawn.1 = .ok e) ∧ Unhindered s'.world) fun _ _ => False := by
  have houtcome := Walk.outcome_extract g r.plan root { styling := s.styling, screen }
  have hplan : r.plan.goal = none := hgoal
  unfold draw
  apply leads_get.bind
  rintro _ _ ⟨rfl, rfl⟩
  have hset : ∀ styling, Leads (modify fun s : Station => { s with styling }) s
      (fun _ s' => Unhindered s'.world) fun (_ : Failure) _ => False := fun _ => hs
  apply (hset _).bind
  intro _ s₁ hs₁
  unfold Excerpt.walk
  generalize Walk.extract g r.plan root { styling := s.styling, screen } = result at houtcome
  cases houtcome with
  | unknown hnone => simp [Graph.contains, hnone] at hroot
  | noPath _ _ hsome =>
    rw [hplan] at hsome
    cases hsome
  | excerpt =>
    apply (leads_onWorld (leads_log_unhindered hs₁ _)).bind
    intro _ s₂ hs₂
    exact leads_pure ⟨⟨_, rfl⟩, hs₂⟩

/-- A graph of one symbol. -/
def loneGraph : Graph := { symbols := [{ name := "main" }] }

/-- An empty disk with a directory for working files. -/
def loneStation : Station :=
  { world := { disk := { entries := [(["callslice-XXXXXXXX"], .directory)] } } }

theorem makeDirectory_lone :
    (onWorld (Action.onDisk .noWorkingDirectory
        (OnDisk.makeDirectory [] (World.pathOf (workplace {}))))).run {}
      = .ok () loneStation := by
  have hpath : (World.pathOf (workplace {})).toString = "/callslice-XXXXXXXX" := by decide
  have hmade : (OnDisk.makeDirectory [] (World.pathOf (workplace {}))).run {}
      = .ok () loneStation.world.disk := by
    simp only [OnDisk.makeDirectory, OnDisk.locate, EStateM.run_bind, EStateM.run_get, hpath]
    simp
    rfl
  change OnDisk.makeDirectory [] (World.pathOf (workplace {})) {} = _ at hmade
  show onWorld _ _ = _
  simp only [onWorld, Action.onDisk]
  rw [hmade]
  rfl

/-- A text to standard output is written, and its excerpt is as it was, whatever is looked at on the
    way. -/
theorem leads_write_dash {P : World → Prop} {F : Failure → World → Prop}
    (hlog : ∀ w n, P w → Leads (Action.log n) w (fun _ w' => P w') fun _ _ => False)
    (hprint : ∀ w text, P w → Leads (Action.print text) w (fun _ w' => P w') F)
    {r : Request} (houtput : r.output = Path.dash) (hplain : r.isPlain = true) (several : Bool)
    (place : Path) (e : Excerpt) {w : World} (hw : P w) :
    Leads (write r several place e) w (fun e' w' => e' = e ∧ P w') F := by
  have hartifact : Request.artifact? Path.dash e.root several = some Path.dash := by
    simp [Request.artifact?]
  unfold write
  rw [houtput, hartifact, hplain]
  show Leads (writePlain e Path.dash) w _ _
  unfold writePlain
  rw [if_pos rfl]
  apply (hprint w e.description hw).bind
  intro _ w₁ hw₁
  apply (leads_pure (P := fun e' w' => e' = e ∧ P w') ⟨rfl, hw₁⟩).bind
  rintro _ w₁ ⟨rfl, hw₁⟩
  apply ((hlog w₁ _ hw₁).mono (fun _ _ h => h) fun _ _ h => h.elim).bind
  intro _ w₂ hw₂
  exact leads_pure ⟨rfl, hw₂⟩

theorem leads_print_unhindered {w : World} (h : Unhindered w) (text : String) :
    Leads (Action.print text) w (fun _ w' => Unhindered w') fun _ _ => False := by
  have hprint : Action.print text w = .ok () { w with printed := w.printed ++ text } := by
    refine (bind_of_ok rfl).trans ?_
    rw [h.outlet]
    rfl
  exact leads_of_ok hprint ⟨h.outlet, h.removing⟩

/-- What comes of work stays when the directory is removed. -/
theorem leads_clearing_unhindered {α : Type} {x : Serving α} {place : Location} {s : Station}
    {P : α → Prop} (hx : Leads x s (fun a s' => P a ∧ Unhindered s'.world) fun _ _ => False) :
    Leads (clearing place x) s (fun a _ => P a) fun _ _ => False := by
  apply leads_clearing hx
  · intro a s' ⟨ha, hs'⟩
    apply (leads_removal place s').mono
    · exact fun _ _ _ => ha
    · rintro e _ ⟨remnant, hremnant, -⟩
      simp [hs'.removing] at hremnant
  · exact fun _ _ h => h.elim

section dash
variable {g : Graph} {r : Request} (hgoal : r.goal = none) (houtput : r.output = Path.dash)
  (hplain : r.isPlain = true)

include hgoal houtput hplain in
/-- Symbols that are there, without a goal, are all drawn and written to standard output. -/
theorem leads_work_dash {names : List String} (hnames : ∀ n ∈ names, g.contains n = true)
    (several : Bool) (place : Path) (screen : Screen) {s : Station} (hs : Unhindered s.world) :
    Leads (work g r several place screen names) s (fun _ s' => Unhindered s'.world)
      fun _ _ => False := by
  induction names generalizing screen s with
  | nil => exact leads_pure hs
  | cons name names ih =>
    obtain ⟨hname, hrest⟩ := List.forall_mem_cons.mp hnames
    unfold work
    apply (leads_draw_of_no_goal hname hgoal screen hs).bind
    rintro ⟨_, screen'⟩ s₁ ⟨⟨e, rfl⟩, hs₁⟩
    apply (leads_onWorld (leads_write_dash (fun _ n hw => leads_log_unhindered hw n)
      (fun _ text hw => leads_print_unhindered hw text) houtput hplain several place e hs₁)).bind
    rintro e' s₂ ⟨rfl, hs₂⟩
    apply (ih hrest screen' hs₂).bind
    intro es s₃ hs₃
    exact leads_pure hs₃

include hgoal houtput hplain in
/-- A request for symbols that are there, without a goal and written to standard output, is handled
    on an empty disk. -/
theorem handle_dash {filters : Filters} {names : List String} (hvalid : r.validate = .ok ())
    (hfilters : Filters.compile r.filters = .ok filters) (hroots : roots g r = .ok names)
    (hnames : ∀ n ∈ names, g.contains n = true) : ∃ es s', handle g r {} = .ok es s' := by
  have hbegin : (handle g r).run {}
      = (withWorkplace fun place =>
          work g r (1 < names.length) place { filters } names).run {} := by
    simp only [handle, hvalid, hgoal, EStateM.run_bind, EStateM.run_get, hfilters, hroots]
    rfl
  have hwork := leads_work_dash hgoal houtput hplain hnames (1 < names.length)
    (World.pathOf (workplace {})) { filters } (s := loneStation) ⟨fun _ _ => rfl, fun _ _ => rfl⟩
  have hcleared : Leads (clearing (workplace {}) (work g r (1 < names.length)
      (World.pathOf (workplace {})) { filters } names)) loneStation (fun _ _ => True)
      fun _ _ => False :=
    leads_clearing_unhindered (hwork.mono (fun _ _ h => ⟨trivial, h⟩) fun _ _ h => h)
  show ∃ es s', (handle g r).run {} = .ok es s'
  rw [hbegin, withWorkplace_eq]
  simp only [EStateM.run_bind, EStateM.run_get, makeDirectory_lone]
  obtain ⟨es, s', hrun, -⟩ | ⟨_, _, _, hfalse⟩ := hcleared.cases
  · exact ⟨es, s', hrun⟩
  · exact hfalse.elim

end dash

/-- A request for that symbol, written to standard output, is drawn. -/
theorem handle_lone {r : Request} {filters : Filters} (hvalid : r.validate = .ok ())
    (hfilters : Filters.compile r.filters = .ok filters) (hgoal : r.goal = none)
    (hroots : roots loneGraph r = .ok ["main"]) (houtput : r.output = Path.dash)
    (hplain : r.isPlain = true) : ∃ es s', handle loneGraph r {} = .ok es s' := by
  refine handle_dash hgoal houtput hplain hvalid hfilters hroots ?_
  intro n hn
  obtain rfl := List.mem_singleton.mp hn
  rfl

/-- Its symbol, written to standard output, with an empty goal. -/
def emptyGoalLine : Command.Line :=
  { given := [("root", "main"), ("end", ""), ("output", "-"), ("format", "plain")] }

/-- The request of that line. -/
def emptyGoalRequest : Request :=
  { roots := ["main"], goal := some "", output := Path.dash, format := "plain" }

/-- An empty pattern of roots, and the same output. -/
def emptyPatternLine : Command.Line :=
  { given := [("root-pattern", ""), ("output", "-"), ("format", "plain")] }

/-- The request of that line. -/
def emptyPatternRequest : Request :=
  { rootPatterns := [""], output := Path.dash, format := "plain" }

/-- The empty pattern selects all there is. -/
theorem roots_emptyPattern : roots loneGraph emptyPatternRequest = .ok ["main"] := by
  let pattern : Pattern := {
    source := ""
    flags := {}
    node := Pattern.Node.sequence []
    least := 0
    head? := none }
  have hcompile : Filters.compileAll [""] = .ok [pattern] := rfl
  have hmatching : loneGraph.matching pattern.isFoundIn = [{ name := "main" }] := by
    show List.mergeSort [({ name := "main" } : Symbol)] _ = _
    rw [List.mergeSort_singleton]
  have hselection : selection loneGraph pattern = .ok ["main"] := by
    rw [selection, hmatching]
    rfl
  have hpatterns : emptyPatternRequest.rootPatterns = [""] := rfl
  simp only [roots, hpatterns, hcompile]
  show (do
    let selected ← [pattern].mapM (selection loneGraph)
    pure (selected.flatten).eraseDups) = Except.ok ["main"]
  rw [List.mapM_cons, List.mapM_nil, hselection]
  rfl

theorem pathOf_dash {l : Command.Line} (h : l.last? "output" = some "-") :
    Command.pathOf? l "output" = some (some Path.dash) := by
  have hpath : Command.readPath? "-" = some Path.dash := by
    have hplain : "-".contains '\x00' = false := by simp
    simp only [Command.readPath?, hplain, Bool.false_eq_true, if_false]
    rfl
  simp only [Command.pathOf?, Command.value?, h, hpath, Option.map_some]

/-- An empty goal is looked for in vain, but no goal is read from the record, and the excerpt is
    drawn. An empty pattern of roots selects every symbol, but no pattern is read from the record,
    and there is no root. -/
theorem sent_handled_otherwise :
    (Command.requestOf? emptyGoalLine = some emptyGoalRequest
      ∧ emptyGoalRequest.validate = .ok ()
      ∧ ∃ record r', Wire.encode emptyGoalRequest = .ok record ∧ Wire.decode record = .ok r'
        ∧ handle loneGraph emptyGoalRequest {} = .error (.walk (.unknownSymbol "")) {}
        ∧ ∃ es s', handle loneGraph r' {} = .ok es s')
    ∧ Command.requestOf? emptyPatternLine = some emptyPatternRequest
      ∧ emptyPatternRequest.validate = .ok ()
      ∧ ∃ record r', Wire.encode emptyPatternRequest = .ok record ∧ Wire.decode record = .ok r'
        ∧ (∃ es s', handle loneGraph emptyPatternRequest {} = .ok es s')
        ∧ handle loneGraph r' {} = .error (.request .noRoot) {} := by
  constructor
  · have hbuilt : Command.requestOf? emptyGoalLine = some emptyGoalRequest := by
      unfold Command.requestOf?
      rw [pathOf_dash rfl]
      decide
    have hsent : Wire.encode emptyGoalRequest
        = .ok ((Wire.body emptyGoalRequest).push Wire.recordSeparator) :=
      Wire.encode_of_sendable (by decide)
    have hread : Wire.reread emptyGoalRequest = { emptyGoalRequest with goal := none } := by decide
    have hdrawn : ∃ es s', handle loneGraph (Wire.reread emptyGoalRequest) {} = .ok es s' := by
      rw [hread]
      exact handle_lone (by decide) rfl rfl rfl rfl rfl
    exact ⟨hbuilt, by decide, _, _, hsent, Wire.decode_of_encode hsent, rfl, hdrawn⟩
  · have hbuilt : Command.requestOf? emptyPatternLine = some emptyPatternRequest := by
      unfold Command.requestOf?
      rw [pathOf_dash rfl]
      decide
    have hsent : Wire.encode emptyPatternRequest
        = .ok ((Wire.body emptyPatternRequest).push Wire.recordSeparator) :=
      Wire.encode_of_sendable (by decide)
    have hread : Wire.reread emptyPatternRequest
        = { emptyPatternRequest with rootPatterns := [] } := by decide
    have hdrawn : ∃ es s', handle loneGraph emptyPatternRequest {} = .ok es s' :=
      handle_lone (by decide) rfl rfl roots_emptyPattern rfl rfl
    have hrefused : handle loneGraph (Wire.reread emptyPatternRequest) {}
        = .error (.request .noRoot) {} := by
      rw [hread]
      rfl
    exact ⟨hbuilt, by decide, _, _, hsent, Wire.decode_of_encode hsent, hdrawn, hrefused⟩

end Service

end CallExcerpt
