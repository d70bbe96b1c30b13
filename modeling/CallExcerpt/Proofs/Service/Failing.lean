import CallExcerpt.Proofs.Service.Onward

/-! # How a request fails

    A request either gives a result for each of its roots, or fails. All of
    its failures are its own, those of storage among them, but for some that slip
    through: patterns, bounds and outputs that cannot be taken at their word, a
    directory that the layout engine's call finds missing, and what is no text on
    its way in or out.

    * `Slip`: the failures that slip through, each with what it takes.
    * `Mishap`: what may go wrong with one excerpt; `leads_write`, and `leads_work`
      for the roots in a row.
    * `Accepted`, `Told`: a request that makes sense, and how a failure is told.
    * `handled_or_told`: all of that for a request.
    * `blocked_directory`: a failure that slips through.
-/

namespace CallExcerpt

open Success (bind_of_ok bind_of_error tryCatch_of_error Blames blames_ok blames_error blames_mapM
  Leads leads_pure leads_throw_bind)

namespace Service

variable {g : Graph} {r : Request} {w₀ w : World}

/-! ## Failures that slip through -/

/-- The failures of a request that are none of its own. -/
inductive Slip (r : Request) (w : World) : Failure → Prop where
  /-- A number in a pattern is out of reach, or it asks for two alphabets at once, or it is nested
      too deeply. -/
  | pattern {fault : Filters.Fault} (happart : fault.fault.problem.isApart = true) :
      Slip r w (.pattern fault)
  /-- A bound below zero is too long to be written. -/
  | longDepth {depth : Int} (hrefused : r.validate = .error (.negativeDepth depth))
      (hlong : Text.isWritable depth = false) : Slip r w (.request (.negativeDepth depth))
  /-- A name is needed of an output that has none. -/
  | nameless (hname : r.output.name = "") : Slip r w (.nameless r.output)
  /-- The system does not take the output, or the engine's program. -/
  | nullByte (hunclean : ¬ r.output.Clean ∨ '\x00' ∈ w.engineProgram.toList) :
      Slip r w (.system .nullByte)
  /-- The directory of a drawing is not there, and no description was kept in it. -/
  | directory {error : SystemError} {name : String} (hdrawn : r.isPlain = false)
      (hkeep : r.keep = false) (hmissing : w.disk.isDirectory w.base r.output.parent = false) :
      Slip r w (.system (.refused error name))
  /-- More directories are missing above the output than can be made at once. -/
  | tooDeep {most : Nat} (hmost : most ∈ w.disk.limits.climbing)
      (hdeep : most < r.output.parent.parts.length)
      (hmissing : w.disk.isDirectory w.base r.output.parent = false) : Slip r w (.system .tooDeep)
  /-- A text cannot be put in octets. -/
  | notEncoded {text words : String} {tree : Tree} {l : Location} {taken : Nat}
      (hfilling : w.disk.limits.filling tree l (Text.Utf8.encode text)
        = some ⟨taken, .notEncoded words⟩) :
      Slip r w (.system (.notEncoded words))
  /-- Standard output does not take a text. -/
  | outlet {before text : String} {taken : Nat} {cause : SystemFault} (hplain : r.isPlain = true)
      (houtput : r.output = Path.dash) (hrefused : w.outlet before text = some (taken, cause)) :
      Slip r w (.system cause)
  /-- What the layout engine says is no text. -/
  | garbled {fault : Text.Utf8.Fault} {drawn : Option (List UInt8)} (hdrawn : r.isPlain = false)
      (hreply : .garbled fault drawn ∈ w.engine.replies) : Slip r w (.garbled fault)
  /-- The directory of the working files cannot be removed. -/
  | remnant {tree : Tree} {remnant : Remnant}
      (hremoving : w.disk.limits.removing tree (workplace w) = some remnant) :
      Slip r w (.system (.refused (.limited remnant.reason) remnant.path))

/-- What slips through later would have slipped through before. -/
theorem Slip.of_onward (hw : w₀.Onward w) {failure : Failure} (h : Slip r w failure) :
    Slip r w₀ failure := by
  cases h with
  | pattern happart => exact .pattern happart
  | longDepth hrefused hlong => exact .longDepth hrefused hlong
  | nameless hname => exact .nameless hname
  | nullByte hunclean => exact .nullByte (hw.engineProgram ▸ hunclean)
  | directory hdrawn hkeep hmissing => exact .directory hdrawn hkeep (hw.missing hmissing)
  | tooDeep hmost hdeep hmissing =>
    exact .tooDeep (hw.disk.limits ▸ hmost) hdeep (hw.missing hmissing)
  | notEncoded hfilling => exact .notEncoded (hw.disk.limits ▸ hfilling)
  | outlet hplain houtput hrefused => exact .outlet hplain houtput (hw.outlet ▸ hrefused)
  | garbled hdrawn hreply => exact .garbled hdrawn (hw.replies hreply)
  | remnant hremoving =>
    rw [hw.disk.limits, hw.place] at hremoving
    exact .remnant hremoving

/-- What may go wrong with an excerpt that is written, with a place for its working files. -/
inductive Mishap (r : Request) (w : World) (place : Path) (failure : Failure) : Prop where
  /-- It is a matter of storage. -/
  | storage (hfamily : failure.family = .resource)
  /-- It slips through. -/
  | slip (hslip : Slip r w failure)
  /-- The place is missing, and so are more directories above it than can be made at once. -/
  | noPlace (hmissing : w.disk.isDirectory w.base place = false)
      (hdeep : failure = .system .tooDeep)

/-- A text that cannot be written, beside the output or among the working files. -/
theorem Unwritable.trouble (hw : w₀.Onward w) {path place : Path} {text : String}
    {failure : Failure} (hclean : r.output.Clean → path.Clean)
    (hparent : path.parent = r.output.parent ∨ path.parent = place)
    (h : Unwritable w path text failure) : Mishap r w₀ place failure := by
  cases h with
  | storage => exact .storage rfl
  | nullByte hunclean =>
    exact .slip (.nullByte (.inl fun houtput => hunclean (hclean houtput)))
  | tooDeep hmost hdeep hmissing =>
    obtain hparent | hparent := hparent
    · rw [hparent] at hdeep hmissing
      exact .slip (.tooDeep (hw.disk.limits ▸ hmost) hdeep (hw.missing hmissing))
    · rw [hparent] at hmissing
      exact .noPlace (hw.missing hmissing) rfl
  | notEncoded hfilling => exact .slip (.notEncoded (hw.disk.limits ▸ hfilling))

section writing
variable {several : Bool} {artifact place : Path} {e : Excerpt}

theorem leads_writePlain (hw : w₀.Onward w) (hplain : r.isPlain = true) (place : Path)
    (hartifact : Request.artifact? r.output e.root several = some artifact) :
    Leads (writePlain e artifact) w (fun _ w' => w₀.Onward w') fun failure w' =>
      w₀.Onward w' ∧ Mishap r w₀ place failure := by
  have hwrote : ∀ (e : Excerpt) (text : String) (w' : World), w₀.Onward w' → Leads (do
      Action.note .service .info text
      return e) w' (fun _ w'' => w₀.Onward w'') fun failure w'' =>
        w₀.Onward w'' ∧ Mishap r w₀ place failure :=
    fun e text w' hw' => (Action.leads_note hw' _ _ _).bind fun _ w'' hw'' => leads_pure hw''
  unfold writePlain
  split
  case isTrue hdash =>
    have houtput : r.output = Path.dash := Request.eq_dash_of_artifact (hdash ▸ hartifact)
    apply ((Action.leads_print hw e.description).mono (fun _ _ h => h) fun failure _ h => ?_).bind
    · exact fun _ w₁ hw₁ => hwrote e _ w₁ hw₁
    · obtain ⟨hw₁, before, taken, cause, rfl, hrefused⟩ := h
      exact ⟨hw₁, .slip (.outlet hplain houtput hrefused)⟩
  case isFalse =>
    apply ((leads_writeText hw artifact e.description).mono (fun _ _ h => h.1)
      fun failure _ h => ?_).bind
    · exact fun _ w₁ hw₁ => hwrote _ _ w₁ hw₁
    · exact ⟨h.1, h.2.trouble hw (fun houtput => Request.clean_artifact houtput hartifact)
        (.inl (Request.parent_artifact hartifact))⟩

/-- The system takes the words that the engine is handed, if it takes the paths among them and the
    program. -/
theorem clean_command {program : String} {description : Path}
    (hformat : r.format ∈ Request.drawnFormats) (hprogram : '\x00' ∉ program.toList)
    (hdescription : description.Clean) (hartifact : artifact.Clean) :
    ∀ word ∈ Layout.command program r.format description artifact, '\x00' ∉ word.toList := by
  have hpath : ∀ p : Path, p.Clean → '\x00' ∉ p.toString.toList := by
    intro p hp
    have hcontains := Path.clean_iff.mp hp
    simpa using hcontains
  have hword : '\x00' ∉ ("-T" ++ r.format).toList := by
    have hall : ∀ format ∈ Request.drawnFormats, '\x00' ∉ ("-T" ++ format).toList := by decide
    exact hall r.format hformat
  simp only [Layout.command, List.forall_mem_cons, List.not_mem_nil, false_imp_iff, implies_true]
  exact ⟨hprogram, hword, by decide, hpath _ hartifact, hpath _ hdescription, trivial⟩

/-- It takes a description beside the artifact if it takes that, and one among the working files in
    any case. -/
theorem clean_description {kept : Option Path} (hplace : place.Clean) (hartifact : artifact.Clean)
    (hbeside : ∀ p ∈ kept, artifact.withSuffix? Request.descriptionSuffix = some p)
    (name : String) : (kept.getD (place.child (Request.descriptionName name))).Clean := by
  cases kept with
  | none => exact hplace.child (Request.not_mem_descriptionName name)
  | some p => exact Request.clean_kept hartifact (hbeside p rfl)

/-- The engine's failures are told in the result, unless its call slips. -/
theorem leads_drawing {description : Path} (hw : w₀.Onward w) (hdrawn : r.isPlain = false)
    (hformat : r.format ∈ Request.drawnFormats)
    (hartifact : Request.artifact? r.output e.root several = some artifact)
    (hdescription : r.output.Clean → description.Clean)
    (hthere : r.keep = true → w.disk.isDirectory w.base artifact.parent = true) :
    Leads (Layout.run none r.format description artifact) w (fun _ w' => w₀.Onward w')
      fun failure w' => w₀.Onward w' ∧ (failure.family = .render ∨ Slip r w₀ failure) := by
  have hparent : artifact.parent = r.output.parent := Request.parent_artifact hartifact
  refine (leads_layout w r.format description artifact).mono (fun _ _ h => hw.trans h)
    fun failure w' h => ⟨hw.trans h.1, h.2.imp_right fun hunlaid => ?_⟩
  cases hunlaid with
  | @words word hnull hword =>
    refine .nullByte (Classical.byContradiction fun hnone => ?_)
    obtain ⟨houtput, hprogram⟩ : r.output.Clean ∧ '\x00' ∉ w₀.engineProgram.toList := by
      simpa [not_or] using hnone
    rw [← hw.engineProgram] at hprogram
    have hclean : artifact.Clean := Request.clean_artifact houtput hartifact
    exact clean_command hformat hprogram (hdescription houtput) hclean word hword hnull
  | garbled hreply => exact .garbled hdrawn (hw.replies hreply)
  | directory hmissing hcause =>
    have hkeep : r.keep = false := by
      cases hkeep : r.keep with
      | false => rfl
      | true => simp [hthere hkeep] at hmissing
    rw [hparent] at hmissing hcause
    have hbefore := hw.missing hmissing
    obtain hrefusal | ⟨rfl, most, hmost, hdeep⟩ := hcause
    · cases hrefusal with
      | refused => exact .directory hdrawn hkeep hbefore
      | nullByte hunclean => exact .nullByte (.inl fun hclean => hunclean hclean.parent)
    · exact .tooDeep (hw.disk.limits ▸ hmost) hdeep hbefore

/-- Where a description is kept, it is kept beside the artifact, so its directory is there when the
    drawing is to be made. -/
theorem leads_writeDrawing (hw : w₀.Onward w) (hdrawn : r.isPlain = false)
    (hformat : r.format ∈ Request.drawnFormats) (hplace : place.Clean)
    (hartifact : Request.artifact? r.output e.root several = some artifact) :
    Leads (writeDrawing e artifact r place) w (fun _ w' => w₀.Onward w') fun failure w' =>
      w₀.Onward w' ∧ Mishap r w₀ place failure := by
  have hclean : r.output.Clean → artifact.Clean := fun h => Request.clean_artifact h hartifact
  have hparent : artifact.parent = r.output.parent := Request.parent_artifact hartifact
  apply leads_writeDrawing_of
  · intro w' level text hw'
    exact Action.leads_note hw' _ _ _
  · intro _ hbeside
    obtain ⟨rfl, hname⟩ := Request.eq_output_of_no_kept hartifact hbeside
    exact ⟨hw, .slip (.nameless hname)⟩
  · intro kept hkept description
    have hdescription : r.output.Clean → description.Clean :=
      fun h => clean_description hplace (hclean h) hkept.eq_beside e.root
    have hbelow : description.parent = r.output.parent ∨ description.parent = place := by
      cases hkept with
      | beside _ hbeside => exact .inl ((Path.parent_withName? hbeside).trans hparent)
      | nowhere => exact .inr (by simp [description, Path.child, Path.parent])
    apply (leads_writeText hw description e.description).mono
    · rintro _ w₁ ⟨hw₁, hwritten⟩
      have hthere : r.keep = true → w₁.disk.isDirectory w₁.base artifact.parent = true := by
        intro hkeep
        cases hkept with
        | beside _ hbeside =>
          rw [← Path.parent_withName? hbeside]
          exact hwritten
        | nowhere hnot => simp [hnot] at hkeep
      apply (leads_drawing hw₁ hdrawn hformat hartifact hdescription hthere).mono
      · exact fun _ _ h => h
      · intro failure w₂ h
        by_cases hrender : failure.family = .render
        · rw [if_pos hrender]
          exact h.1
        · rw [if_neg hrender]
          exact ⟨h.1, .slip (h.2.resolve_left hrender)⟩
    · exact fun failure _ h => ⟨h.1, h.2.trouble hw hdescription hbelow⟩

/-- An excerpt that cannot be written is a matter of storage, or slips through. -/
theorem leads_write (hw : w₀.Onward w) (hvalid : r.validate = .ok ()) (several : Bool)
    (hplace : place.Clean) (e : Excerpt) :
    Leads (write r several place e) w (fun _ w' => w₀.Onward w') fun failure w' =>
      w₀.Onward w' ∧ Mishap r w₀ place failure := by
  unfold write
  cases hartifact : Request.artifact? r.output e.root several with
  | none =>
    have hslip : Slip r w₀ (.nameless r.output) :=
      .nameless (Request.name_of_no_artifact hartifact)
    exact leads_throw_bind ⟨hw, .slip hslip⟩
  | some artifact =>
    show Leads (if r.isPlain then writePlain e artifact else writeDrawing e artifact r place) w _ _
    cases hplain : r.isPlain with
    | true => exact leads_writePlain hw hplain place hartifact
    | false =>
      have hformat : r.format ∈ Request.drawnFormats := Request.format_of_validate hvalid hplain
      exact leads_writeDrawing hw hplain hformat hplace hartifact

end writing

/-! ## Roots in a row -/

/-- Roots in a row: the results stop with the first excerpt that cannot be written. -/
theorem leads_work {place : Path} {s : Station} (hvalid : r.validate = .ok ())
    (hplace : place.Clean) (hw : w₀.Onward s.world) (several : Bool) (screen : Screen)
    (names : List String)
    (hnames : ∀ n ∈ names, g.contains n = true) :
    Leads (work g r several place screen names) s (fun _ s' => w₀.Onward s'.world)
      fun failure s' => w₀.Onward s'.world ∧ Mishap r w₀ place failure := by
  apply leads_work_of (P := w₀.Onward)
    (F := fun failure w' => w₀.Onward w' ∧ Mishap r w₀ place failure)
  · intro w' part level text hw'
    exact Action.leads_note hw' part level text
  · intro w' e hw'
    exact leads_write hw' hvalid several hplace e
  · exact hnames
  · exact hw

/-! ## A request -/

/-- A failure of the program's own, or one that slips through for the sake of a pattern. -/
def OwnOrApart (e : Failure) : Prop :=
  e.isOwn = true ∨ ∃ fault, e = .pattern fault ∧ fault.fault.problem.isApart = true

theorem ownOrApart_pattern (fault : Filters.Fault) : OwnOrApart (.pattern fault) := by
  cases hproblem : fault.fault.problem.isApart with
  | true => exact .inr ⟨fault, rfl, hproblem⟩
  | false =>
    refine .inl ?_
    unfold Failure.isOwn Failure.family
    cases hcase : fault.fault.problem <;> simp_all [Pattern.Problem.isApart, Failure.Family.isOwn]

theorem blames_resolve (name : String) : Blames (resolve g name) OwnOrApart := by
  unfold resolve
  split
  · exact blames_ok _
  · exact blames_error (.inl rfl)

theorem blames_selection (p : Pattern) : Blames (selection g p) OwnOrApart := by
  unfold selection
  split
  · exact blames_error (.inl rfl)
  · exact blames_ok _

variable {fits : String → Bool}

theorem blames_roots : Blames (roots g r fits) OwnOrApart := by
  refine (blames_mapM blames_resolve _).bind fun named _ => Blames.bind ?_ fun patterns _ =>
    (blames_mapM blames_selection _).bind fun selected _ => blames_ok _
  cases Filters.compileAll r.rootPatterns fits with
  | error fault => exact blames_error (ownOrApart_pattern fault)
  | ok patterns => exact blames_ok patterns

/-- All roots are symbols of the graph. -/
theorem contains_of_roots {names : List String} (h : roots g r fits = .ok names) :
    ∀ n ∈ names, g.contains n = true := by
  obtain ⟨patterns, -, rfl⟩ := roots_of_ok h
  have hnamed : ∀ n ∈ r.roots, g.contains n = true := by
    unfold roots at h
    obtain ⟨symbols, hsymbols, -⟩ := Success.of_bind h
    have hall : List.Forall₂ (fun n symbol => g.contains n = true ∧ resolve g n = .ok symbol)
        r.roots symbols := by
      refine (Success.of_mapM hsymbols).imp fun n symbol hresolve => ⟨?_, hresolve⟩
      cases hfind : g.find? n with
      | none => simp [resolve, hfind] at hresolve
      | some symbol => simp [Graph.contains, hfind]
    exact ((List.forall₂_and_left _ _).mp hall).1
  intro n hn
  obtain hroot | ⟨p, -, hselected⟩ := by
    simpa [List.mem_eraseDups, List.mem_append, List.mem_flatMap] using hn
  · exact hnamed n hroot
  · obtain ⟨symbol, hsymbol, rfl⟩ := hselected
    exact Graph.contains_iff.mpr (List.mem_map_of_mem (mem_matching_iff.mp hsymbol).1)

/-- A request that makes sense for a graph, where such patterns can be read. -/
structure Accepted (g : Graph) (r : Request) (fits : String → Bool) : Prop where
  valid : r.validate = .ok ()
  filters : ∃ filters, Filters.compile r.filters fits = .ok filters
  goal : ∀ goal ∈ r.goal, ∃ symbol, resolve g goal = .ok symbol
  roots : ∃ names, roots g r fits = .ok names

/-- A failure is told as one of the program's own, and as a matter of storage if the request makes
    sense, or slips through. -/
def Told (g : Graph) (r : Request) (w : World) (e : Failure) : Prop :=
  (e.isOwn = true ∧ (Accepted g r w.fits → e.family = .resource)) ∨ Slip r w e

theorem told_of_refused {e : Failure} (h : OwnOrApart e) (hrefused : ¬ Accepted g r w.fits) :
    Told g r w e := by
  obtain hown | ⟨fault, rfl, happart⟩ := h
  · exact .inl ⟨hown, fun haccepted => absurd haccepted hrefused⟩
  · exact .inr (.pattern happart)

/-- A request that is refused as it stands is told, unless there are no words for its bound. -/
theorem told_of_invalid {fault : Request.Fault} (hvalid : r.validate = .error fault) :
    Told g r w (.request fault) := by
  have hrefused : ¬ Accepted g r w.fits := fun haccepted => by simp [haccepted.valid] at hvalid
  cases fault with
  | negativeDepth depth =>
    cases hlong : Text.isWritable depth with
    | false => exact .inr (.longDepth hvalid hlong)
    | true =>
      refine told_of_refused (.inl ?_) hrefused
      simp [Failure.isOwn, Failure.family, hlong, Failure.Family.isOwn]
  | _ => exact told_of_refused (.inl rfl) hrefused

theorem told_of_storage {e : Failure} (hfamily : e.family = .resource) : Told g r w e := by
  refine .inl ⟨?_, fun _ => hfamily⟩
  rw [Failure.isOwn, hfamily]
  rfl

/-- From the roots on, a request fails over its roots, or over storage. -/
theorem leads_rooted (hvalid : r.validate = .ok ()) (filters : Filters) (s : Station) :
    Leads (do
      let roots ← Serving.ofExcept id (roots g r s.world.fits)
      withWorkplace fun place => work g r (1 < roots.length) place { filters } roots) s
      (fun _ _ => True) fun e _ => Told g r s.world e := by
  apply ((leads_ofExcept id (roots g r s.world.fits) s).mono (fun _ _ h => h)
    fun e _ h => ?_).bind
  · rintro names s₁ ⟨rfl, hroots⟩
    apply leads_withWorkplace
    · exact fun cause => told_of_storage rfl
    · exact fun tree remnant hremoving => .inr (.remnant hremoving)
    · intro s' honward hthere
      have hplace : (World.pathOf (workplace s.world)).Clean := (Disk.isDirectory_iff.mp hthere).1
      apply ((leads_work hvalid hplace honward _ _ names (contains_of_roots hroots)).and
        (leads_work hvalid hplace (.refl s'.world) _ _ names (contains_of_roots hroots))).mono
      · exact fun _ _ h => ⟨h.1, trivial⟩
      · rintro e s'' ⟨⟨honward', -⟩, -, htrouble⟩
        refine ⟨honward', ?_⟩
        -- the place is there, so that nothing is missing above it
        cases htrouble with
        | storage hfamily => exact told_of_storage hfamily
        | slip hslip => exact .inr (hslip.of_onward honward)
        | noPlace hmissing => simp [hthere] at hmissing
  · obtain ⟨_, hroots, rfl⟩ := h
    refine told_of_refused (blames_roots _ hroots) fun haccepted => ?_
    obtain ⟨names, hnames⟩ := haccepted.roots
    simp [hroots] at hnames

section blocked
variable {artifact place path : Path} {e : Excerpt} {w₁ : World}

theorem writeText_of_missing {l : Location} (hthere : w.disk.isDirectory w.base path.parent = true)
    (hclean : path.Clean) (hlocate : w.disk.locate w.base path = .ok l)
    (hmissing : w.disk.find? l = none) (hlimits : w.disk.limits = {}) (text : String) :
    ∃ d, writeText path text w = .ok () { w with disk := d } ∧ OnDisk.ChangedAt w.disk l d
      ∧ d.find? l = some (.file (.plain (Text.Utf8.encode text))) := by
  have hmade := OnDisk.ensureDirectories_of_isDirectory hthere
  have hfilling : ∀ tree, w.disk.limits.filling tree l (Text.Utf8.encode text) = none := by
    intro tree
    rw [hlimits]
  obtain ⟨d, hchanged, hfound, hwrote⟩ := OnDisk.writeFile_of_free hclean hlocate (.inl hmissing)
    (by rw [hlimits]) hfilling
  refine ⟨d, ?_, hchanged, hfound⟩
  unfold writeText
  exact (bind_of_ok rfl).trans (Action.onDisk_of_ok _ ((bind_of_ok hmade).trans hwrote))

/-- What keeps the directory of a drawing from being made is told as it came from the system. -/
theorem writeDrawing_of_blocked {fault : SystemFault} {d : Disk} (hkeep : r.keep = false)
    (hwritten : writeText (place.child (Request.descriptionName e.root)) e.description w
      = .ok () w₁)
    (hblocked : OnDisk.ensureDirectories w₁.base artifact.parent w₁.disk = .error fault d) :
    writeDrawing e artifact r place w = .error (.system fault) { w₁ with disk := d } := by
  have hlayout : ∀ description, Layout.run none r.format description artifact w₁
      = .error (.system fault) { w₁ with disk := d } := by
    intro description
    unfold Layout.run
    exact (bind_of_ok rfl).trans (bind_of_error (Action.onDisk_of_error _ hblocked))
  have hother : ¬ (Failure.system fault).family = .render := by
    cases fault <;> exact nofun
  unfold writeDrawing
  rw [if_neg (by simp [hkeep])]
  refine (bind_of_ok rfl).trans ((bind_of_ok hwritten).trans (bind_of_error ?_))
  refine (tryCatch_of_error (bind_of_error (hlayout _))).trans ?_
  rw [if_neg hother]
  rfl

/-- Where nobody keeps a log, a drawing leaves nothing in the world but a message. -/
theorem draw_of_no_log {name : String} (hname : g.contains name = true) (hgoal : r.goal = none)
    (screen : Screen) (s : Station) (hlog : s.world.logFile = none) :
    ∃ e screen' notes styling, e.root = name ∧ draw g r screen name s
      = .ok (.ok e, screen') ⟨{ s.world with notes }, styling⟩ := by
  cases hwalk : (Excerpt.walk g r s.styling screen name).walk with
  | error fault =>
    obtain ⟨_, goal, _, hsome, -⟩ := noPath_of_walk hname hwalk
    rw [hgoal] at hsome
    cases hsome
  | ok walk =>
    have hroot : (Excerpt.ofWalk r.drawing walk).root = name := root_of_ok hwalk
    let note : Note := { part := .traversal, level := .debug, text := walk.summary }
    let outcome := Excerpt.walk g r s.styling screen name
    have hnote : Serving.onWorld (Action.log note) ⟨s.world, outcome.styling⟩
        = .ok () ⟨{ s.world with notes := s.world.notes ++ [note] }, outcome.styling⟩ :=
      onWorld_of_ok (Action.log_of_no_file hlog note)
    have hdraw : draw g r screen name s = .ok (.ok (Excerpt.ofWalk r.drawing walk), outcome.screen)
        ⟨{ s.world with notes := s.world.notes ++ [note] }, outcome.styling⟩ := by
      unfold draw
      refine (bind_of_ok rfl).trans ((bind_of_ok rfl).trans ?_)
      rw [hwalk]
      exact (bind_of_ok hnote).trans rfl
    exact ⟨_, _, _, _, hroot, hdraw⟩

theorem withWorkplace_of_error {α : Type} {x : Path → Serving α} {s s' : Station} {d : Disk}
    {failure : Failure}
    (hmade : OnDisk.makeDirectory [] (World.pathOf (workplace s.world)) s.world.disk = .ok () d)
    (hx : x (World.pathOf (workplace s.world)) { s with world := { s.world with disk := d } }
      = .error failure s')
    (hremoving : ∀ tree l, s'.world.disk.limits.removing tree l = none) :
    withWorkplace x s = .error failure { s' with
      world := { s'.world with disk := s'.world.disk.removeTree (workplace s.world) } } := by
  have hremoval := leads_removal (workplace s.world) s'
  obtain ⟨_, s'', hrun, rfl⟩ | ⟨_, _, _, remnant, hremnant, -⟩ := hremoval.cases
  · rw [withWorkplace_of_made x hmade, clearing_apply, hx]
    exact (bind_of_ok hrun).trans rfl
  · simp [hremoving] at hremnant

end blocked

/-- A disk with a file. -/
def fileStation : Station :=
  { world := { disk := { entries := [(["notes"], .file (.plain []))] } } }

/-- The disk once the working files of a request have their directory. -/
def fileDisk : Disk :=
  { entries := [(["notes"], .file (.plain [])), (["callslice-XXXXXXXX"], .directory)] }

/-- A drawing that is to be made below the file. -/
def belowFile : Request := { roots := ["main"], output := Path.ofString "notes/a.svg" }

theorem makeDirectory_fileStation :
    OnDisk.makeDirectory [] (World.pathOf (workplace fileStation.world)) fileStation.world.disk
      = .ok () fileDisk := by
  have hclean : (World.pathOf (workplace fileStation.world)).Clean := by decide
  have hlocate : fileStation.world.disk.locate [] (World.pathOf (workplace fileStation.world))
      = .ok ["callslice-XXXXXXXX"] := by rfl
  exact OnDisk.makeDirectory_of_missing hclean hlocate (by decide) rfl

/-- The description finds its place among the working files, and then the file is in the way. -/
theorem write_belowFile {e : Excerpt} (hroot : e.root = "main") (notes : List Note) :
    ∃ w', write belowFile false (World.pathOf (workplace fileStation.world)) e
        { fileStation.world with disk := fileDisk, notes }
      = .error (.system (.refused .alreadyThere "notes")) w' ∧ w'.disk.limits = {} := by
  let description : Path := { anchor := .root, parts := ["callslice-XXXXXXXX", "main.gv"] }
  let location : Location := ["callslice-XXXXXXXX", "main.gv"]
  have hdescription : (World.pathOf (workplace fileStation.world)).child
      (Request.descriptionName e.root) = description := by
    rw [hroot]
    decide
  have hplace : fileDisk.isDirectory [] description.parent = true :=
    Disk.isDirectory_iff.mpr ⟨by decide, ["callslice-XXXXXXXX"], by rfl, by decide⟩
  have hmissing : fileDisk.find? location = none := by decide
  obtain ⟨d, hwritten, hchanged, -⟩ := writeText_of_missing
    (w := { fileStation.world with disk := fileDisk, notes }) hplace (by decide) rfl hmissing rfl
    e.description
  have hblocked : OnDisk.ensureDirectories [] belowFile.output.parent d
      = .error (.refused .alreadyThere "notes") d := by
    have hclean : belowFile.output.parent.Clean := by decide
    have hlocate : fileDisk.locate [] belowFile.output.parent = .ok ["notes"] := by rfl
    have hfile : fileDisk.find? ["notes"] = some (.file (.plain [])) := by decide
    exact OnDisk.ensureDirectories_of_blocked hclean (hchanged.keeps.locate hlocate)
      ((hchanged.elsewhere _ (by decide)).trans hfile) nofun
  have hdrawing := writeDrawing_of_blocked (r := belowFile) rfl (hdescription ▸ hwritten) hblocked
  exact ⟨_, hdrawing, hchanged.limits⟩

end Service

end CallExcerpt
