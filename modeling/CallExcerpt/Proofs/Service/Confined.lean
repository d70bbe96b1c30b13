import CallExcerpt.Proofs.Service.Leaving

/-! # Files keep to their directory

    The name of a root goes into the names of files, and it may be any text. But
    it never leads a file away: what is written for a root lies in the directory of
    the output itself, or in that of the working files.

    * `FileName`, `LiesIn`: names that stand for a file of one directory, and the
      paths of these files.
    * `fileName_of_mem`: how a name is known to be one.
    * `liesIn_artifact`, `liesIn_kept`, `liesIn_description`: the three files that
      are written for a root.
    * `Confined`: a world after which the files lie in their place; kept by writing
      one excerpt (`leads_write_confined`).
    * `names_lead_nowhere`: the files of a root, and all that a request writes.
-/

namespace CallExcerpt

open Success (Gives Leads leads_get)

/-! ## Files of one directory -/

/-- A name that stands for a file of a directory. The empty name and the dots stand for directories,
    and a slash leads through one. -/
structure Path.FileName (name : String) : Prop where
  notEmpty : name ≠ ""
  notHere : name ≠ "."
  notAbove : name ≠ ".."
  flat : '/' ∉ name.toList

/-- The path is that of a file in a directory, neither above nor below it. -/
structure Path.LiesIn (p directory : Path) : Prop where
  parent : p.parent = directory
  name : FileName p.name

namespace Path

variable {p directory : Path} {name : String}

/-- Without slashes, one character other than a dot makes a name that of a file. -/
theorem fileName_of_mem (hflat : '/' ∉ name.toList) {c : Char} (hc : c ∈ name.toList)
    (hdot : c ≠ '.') : FileName name where
  notEmpty := by
    intro h
    rw [h] at hc
    cases hc
  notHere := by
    intro h
    rw [h] at hc
    exact hdot (List.mem_singleton.mp hc)
  notAbove := by
    intro h
    rw [h] at hc
    have htwo : c = '.' ∨ c = '.' := by simpa using hc
    exact htwo.elim hdot hdot
  flat := hflat

/-- A path that was read leads to a file, unless it ends above or nowhere. -/
theorem Normal.liesIn (h : p.Normal) (hempty : p.name ≠ "") (habove : p.name ≠ "..") :
    p.LiesIn p.parent := by
  have hmem : p.name ∈ p.parts := by
    unfold Path.name at hempty ⊢
    cases hlast : p.parts.getLast? with
    | none =>
      rw [hlast] at hempty
      exact absurd rfl hempty
    | some name => exact List.mem_of_getLast? hlast
  obtain ⟨-, hhere, hflat⟩ := h p.name hmem
  exact ⟨rfl, hempty, hhere, habove, hflat⟩

theorem LiesIn.beside (h : p.LiesIn directory) (hname : FileName name) :
    (p.beside name).LiesIn directory where
  parent := by
    rw [← h.parent]
    simp [Path.beside, Path.parent]
  name := by
    rw [name_beside]
    exact hname

theorem FileName.liesIn_child (h : FileName name) (directory : Path) :
    (directory.child name).LiesIn directory where
  parent := by simp [Path.child, Path.parent]
  name := by
    have hlast : (directory.child name).name = name := by simp [Path.child, Path.name]
    rw [hlast]
    exact h

end Path

namespace Request

open CallExcerpt.Path (FileName fileName_of_mem)

variable {output artifact directory place : Path}

theorem flat_safeName (root : String) : '/' ∉ (safeName root).toList := by
  intro hmem
  rw [safeName, String.toList_ofList] at hmem
  have hunsafe : isSafe '/' = false := by decide
  rw [isSafe_of_mem_safeChars hmem] at hunsafe
  cases hunsafe

/-- Whatever the root is called, its artifact has a place beside the output. -/
theorem liesIn_artifact (h : output.LiesIn directory) (root : String) (several : Bool) :
    ∃ artifact, artifact? output root several = some artifact ∧ artifact.LiesIn directory := by
  rw [artifact?_def]
  split
  case isTrue => exact ⟨output, rfl, h⟩
  case isFalse =>
    have hflat : '/' ∉ (fileName output root).toList := by
      have hstem : '/' ∉ output.stem.toList :=
        fun hmem => h.name.flat (Path.mem_name_of_mem_stem hmem)
      have hsuffix : '/' ∉ output.suffix.toList :=
        fun hmem => h.name.flat (Path.mem_name_of_mem_suffix hmem)
      have hroot := flat_safeName root
      simp [fileName, hstem, hsuffix, hroot]
    have hdash : '-' ∈ (fileName output root).toList := by simp [fileName]
    have hname : FileName (fileName output root) := fileName_of_mem hflat hdash (by decide)
    exact ⟨_, Path.withName?_eq h.name.notEmpty _, h.beside hname⟩

/-- The suffix of descriptions makes any text without slashes the name of a file. -/
theorem fileName_description {stem : String} (hflat : '/' ∉ stem.toList) :
    FileName (stem ++ descriptionSuffix) := by
  have hflat' : '/' ∉ (stem ++ descriptionSuffix).toList := by simp [hflat, descriptionSuffix]
  have hletter : 'g' ∈ (stem ++ descriptionSuffix).toList := by simp [descriptionSuffix]
  exact fileName_of_mem hflat' hletter (by decide)

/-- The description that is kept lies beside the artifact. -/
theorem liesIn_kept (h : artifact.LiesIn directory) :
    ∃ kept, artifact.withSuffix? descriptionSuffix = some kept ∧ kept.LiesIn directory := by
  have hstem : '/' ∉ artifact.stem.toList :=
    fun hmem => h.name.flat (Path.mem_name_of_mem_stem hmem)
  exact ⟨_, Path.withName?_eq h.name.notEmpty _, h.beside (fileName_description hstem)⟩

/-- One that is not kept lies in the directory of the working files. -/
theorem liesIn_description (place : Path) (root : String) :
    (place.child (descriptionName root)).LiesIn place :=
  (fileName_description (flat_safeName root)).liesIn_child place

end Request

namespace Service

variable {g : Graph} {r : Request}

/-! ## One excerpt -/

/-- A call that draws a description beside the output. The description lies there too if it is
    kept, and among the working files if it is not. -/
def DrawsBeside (r : Request) (place : Path) (c : EngineCall) : Prop :=
  ∃ program description artifact, c.command = Layout.command program r.format description artifact
    ∧ artifact.LiesIn r.output.parent
    ∧ description.LiesIn (if r.keep then r.output.parent else place)

/-- A world on the way through a request, with all drawings and all entries of the journal in the
    directory of the output. -/
def Confined (r : Request) (w₀ w : World) : Prop :=
  ∃ tried calls journal, Along r w₀ w tried calls journal
    ∧ (∀ c ∈ calls, DrawsBeside r (World.pathOf (workplace w₀)) c)
    ∧ ∀ x ∈ journal, x.path.LiesIn r.output.parent

section writing
variable {several : Bool} {w₀ w : World} {e : Excerpt} {artifact : Path}

theorem leads_note_confined (h : Confined r w₀ w) (part : Part) (level : Level) (text : String)
    {F : Failure → World → Prop} :
    Leads (Action.note part level text) w (fun _ w' => Confined r w₀ w') F := by
  obtain ⟨tried, calls, journal, halong, hin⟩ := h
  apply (leads_note_along halong part level text (F := fun _ _ => False)).mono
  · intro _ w' hw'
    exact ⟨tried, calls, journal, hw', hin⟩
  · intro _ _ hfalse
    exact hfalse.elim

/-- What is written at a place of the directory, or aside, leaves the journal in its place, and so
    does a beginning of it. -/
theorem leads_writeText_confined {tried : List Excerpt} {calls : List EngineCall}
    {journal : List Write} {path : Path} (halong : Along r w₀ w tried calls journal)
    (hjournal : ∀ x ∈ journal, x.path.LiesIn r.output.parent)
    (hway : MakesWay r w₀ w tried journal path.parent)
    (hplace : path.LiesIn r.output.parent ∨ Aside w₀ (path.location w₀.base)) (text : String) :
    Leads (writeText path text) w
      (fun _ w' => ∃ journal', Along r w₀ w' tried calls journal'
        ∧ ∀ x ∈ journal', x.path.LiesIn r.output.parent)
      fun _ w' => ∃ journal', Along r w₀ w' tried calls journal'
        ∧ ∀ x ∈ journal', x.path.LiesIn r.output.parent := by
  have hwrote : ∀ {w' octets}, Wrote r w₀ w' tried calls journal path octets →
      ∃ journal', Along r w₀ w' tried calls journal'
        ∧ ∀ x ∈ journal', x.path.LiesIn r.output.parent := by
    intro w' octets hwrote
    obtain hin | haside := hplace
    · refine ⟨_, hwrote.told, ?_⟩
      exact List.forall_mem_append.mpr ⟨hjournal, List.forall_mem_singleton.mpr hin⟩
    · exact ⟨journal, hwrote.aside haside, hjournal⟩
  apply (leads_writeText_along halong hway text).mono
  · exact fun _ w' hw' => hwrote hw'.2
  · rintro e w' (⟨hw', -⟩ | ⟨-, -, taken, -, hw'⟩)
    · exact ⟨journal, hw', hjournal⟩
    · exact hwrote hw'

theorem leads_writePlain_confined (h : Confined r w₀ w)
    (hartifact : Request.artifact? r.output e.root several = some artifact)
    (hin : artifact.LiesIn r.output.parent) :
    Leads (writePlain e artifact) w (fun _ w' => Confined r w₀ w')
      fun _ w' => Confined r w₀ w' := by
  have hnoted : ∀ (e' : Excerpt) (text : String) (w' : World), Confined r w₀ w' → Leads (do
        Action.note .service .info text
        return e') w' (fun _ w'' => Confined r w₀ w'') fun _ w'' => Confined r w₀ w'' := by
    intro e' text w' hw'
    apply (leads_note_confined hw' _ _ _).bind
    intro _ w'' hw''
    exact Success.leads_pure hw''
  obtain ⟨tried, calls, journal, halong, hcalls, hjournal⟩ := h
  replace halong := halong.tries e
  unfold writePlain
  split
  case isTrue hdash =>
    -- what goes to standard output is not on the disk
    apply ((leads_print_along halong e.description).mono (fun _ _ h => h)
      fun failure w' hw' => ?_).bind
    · intro _ w₁ hw₁
      exact hnoted e _ w₁ ⟨_, calls, journal, hw₁, hcalls, hjournal⟩
    · exact ⟨_, calls, journal, hw'.1, hcalls, hjournal⟩
  case isFalse hdash =>
    have hfiles : r.toFiles = true := by
      have houtput : r.output ≠ Path.dash := by
        intro houtput
        rw [Request.artifact?, houtput] at hartifact
        exact hdash (by simpa using hartifact.symm)
      simp [Request.toFiles, houtput]
    have hway : MakesWay r w₀ w (tried ++ [e]) journal artifact.parent := by
      rw [hin.parent]
      exact makesWay_of_output halong (by simp) hfiles
    apply ((leads_writeText_confined halong hjournal hway (.inl hin) e.description).mono
      (fun _ _ h => h) fun failure w' hw' => ?_).bind
    · rintro _ w₁ ⟨journal₁, hw₁, hjournal₁⟩
      exact hnoted _ _ w₁ ⟨_, calls, journal₁, hw₁, hcalls, hjournal₁⟩
    · obtain ⟨journal₁, hw₁, hjournal₁⟩ := hw'
      exact ⟨_, calls, journal₁, hw₁, hcalls, hjournal₁⟩

/-! ### Calls of the engine -/

/-- The calls that are new in a world, if there are any, have one command. -/
def CallsOnly (command : List String) (w w' : World) : Prop :=
  ∃ more, w'.calls = w.calls ++ more ∧ ∀ c ∈ more, c.command = command

theorem CallsOnly.of_eq {command : List String} {w w' : World} (h : w'.calls = w.calls) :
    CallsOnly command w w' := by
  refine ⟨[], ?_, nofun⟩
  rw [h, List.append_nil]

theorem leads_onDisk_calls {α : Type} (failure : SystemFault → Failure) (x : OnDisk α) :
    Leads (Action.onDisk failure x) w (fun _ w' => w'.calls = w.calls)
      fun _ w' => w'.calls = w.calls := by
  unfold Leads Action.onDisk
  cases x w.disk with
  | ok a d => rfl
  | error e d => rfl

/-- A layout is one call at most. -/
theorem leads_layout_calls (format : String) (description output : Path) :
    Leads (Layout.run none format description output) w
      (fun _ w' => CallsOnly (Layout.command w.engineProgram format description output) w w')
      fun _ w' => CallsOnly (Layout.command w.engineProgram format description output) w w' := by
  apply leads_layout_of (P := fun w' => w'.calls = w.calls)
  · apply (leads_onDisk_calls _ _).mono
    · exact fun _ _ h => h
    · exact fun _ w' hw' => .of_eq hw'
  · exact fun w' text hw' => hw'
  · intro w' hw'
    unfold Layout.call Leads
    dsimp only
    cases w'.engine.takes (Layout.command w.engineProgram format description output) with
    | false =>
      rw [if_neg (by simp)]
      exact .of_eq hw'
    | true =>
      rw [if_pos rfl]
      let made : EngineCall := {
        command := Layout.command w.engineProgram format description output
        description := (w'.disk.file? w'.base description).map Content.octets }
      have honly : ∀ w'' : World, w''.calls = w'.calls ++ [made] →
          CallsOnly (Layout.command w.engineProgram format description output) w w'' := by
        intro w'' hw''
        exact ⟨[made], hw' ▸ hw'', List.forall_mem_singleton.mpr rfl⟩
      exact ⟨honly _ rfl, fun _ _ _ => honly _ rfl⟩
  · exact fun failure w' hw' _ => hw'

/-- The drawing of a description. -/
theorem confined_of_drew {tried : List Excerpt} {calls : List EngineCall} {journal : List Write}
    {w' : World} {program : String} {description : Path}
    (halong : Along r w₀ w tried calls journal)
    (hcalls : ∀ c ∈ calls, DrawsBeside r (World.pathOf (workplace w₀)) c)
    (hjournal : ∀ x ∈ journal, x.path.LiesIn r.output.parent)
    (hdrew : Drew r w₀ w' tried calls journal artifact)
    (honly : CallsOnly (Layout.command program r.format description artifact) w w')
    (hin : artifact.LiesIn r.output.parent)
    (hdescription : description.LiesIn
      (if r.keep then r.output.parent else World.pathOf (workplace w₀))) :
    Confined r w₀ w' := by
  obtain ⟨more, drawn, halong', hdrawn⟩ := hdrew
  obtain ⟨more', hcalls', hcommand⟩ := honly
  -- both tell of the same calls
  obtain rfl : more = more' := by
    rw [halong'.calls, halong.calls, ← List.append_assoc] at hcalls'
    exact List.append_cancel_left hcalls'
  refine ⟨tried, calls ++ more, journal ++ drawn, halong', ?_, ?_⟩
  · refine List.forall_mem_append.mpr ⟨hcalls, fun c hc => ?_⟩
    exact ⟨program, description, artifact, hcommand c hc, hin, hdescription⟩
  · refine List.forall_mem_append.mpr ⟨hjournal, fun x hx => ?_⟩
    obtain ⟨octets, rfl, -⟩ := hdrawn x hx
    exact hin

theorem leads_writeDrawing_confined (h : Confined r w₀ w) (hdots : ".." ∉ workplace w₀)
    (hdrawn : r.isPlain = false)
    (hartifact : Request.artifact? r.output e.root several = some artifact)
    (hin : artifact.LiesIn r.output.parent) :
    Leads (writeDrawing e artifact r (World.pathOf (workplace w₀))) w
      (fun _ w' => Confined r w₀ w') fun _ w' => Confined r w₀ w' := by
  have hfiles : r.toFiles = true := by simp [Request.toFiles, hdrawn]
  apply leads_writeDrawing_of
  · intro w' level text hw'
    exact leads_note_confined hw' _ _ _
  · exact fun _ _ => h
  · intro kept hkept description
    obtain ⟨tried, calls, journal, halong, hcalls, hjournal⟩ := h
    replace halong := halong.tries e
    obtain ⟨-, hway, -⟩ := place_of_keptAt halong (by simp) hdots hdrawn hartifact hkept
    have hdescription : description.LiesIn
        (if r.keep then r.output.parent else World.pathOf (workplace w₀)) := by
      cases hkept with
      | beside hkeep hbeside =>
        obtain ⟨kept, hkept, hlies⟩ := Request.liesIn_kept hin
        obtain rfl := Option.some.inj (hbeside.symm.trans hkept)
        rw [if_pos hkeep]
        exact hlies
      | nowhere hnot =>
        rw [if_neg (by simp [hnot])]
        exact Request.liesIn_description _ e.root
    have hplace : description.LiesIn r.output.parent ∨ Aside w₀ (description.location w₀.base) := by
      cases hkept with
      | beside hkeep =>
        rw [if_pos hkeep] at hdescription
        exact .inl hdescription
      | nowhere => exact .inr (aside_description hdots e.root)
    apply (leads_writeText_confined halong hjournal hway hplace e.description).mono
    · rintro _ w₁ ⟨journal₁, halong₁, hjournal₁⟩
      have hparent : MakesWay r w₀ w₁ (tried ++ [e]) journal₁ artifact.parent := by
        rw [hin.parent]
        exact makesWay_of_output halong₁ (by simp) hfiles
      have hlayout := (leads_layout_along halong₁ r.format description hparent).and
        (leads_layout_calls r.format description artifact)
      apply hlayout.mono
      · intro _ w₂ hw₂
        exact confined_of_drew halong₁ hcalls hjournal₁ hw₂.1 hw₂.2 hin hdescription
      · intro failure w₂ hw₂
        have hconfined : Confined r w₀ w₂ :=
          confined_of_drew halong₁ hcalls hjournal₁ hw₂.1.1 hw₂.2 hin hdescription
        split
        · exact hconfined
        · exact hconfined
    · rintro failure w' ⟨journal₁, hw₁, hjournal₁⟩
      exact ⟨_, calls, journal₁, hw₁, hcalls, hjournal₁⟩

/-- Whatever the root is called, its excerpt is written where it belongs, or not at all. -/
theorem leads_write_confined (houtput : r.output.LiesIn r.output.parent)
    (hdots : ".." ∉ workplace w₀) (h : Confined r w₀ w) (e : Excerpt) :
    Leads (write r several (World.pathOf (workplace w₀)) e) w (fun _ w' => Confined r w₀ w')
      fun _ w' => Confined r w₀ w' := by
  obtain ⟨artifact, hartifact, hin⟩ := Request.liesIn_artifact houtput e.root several
  unfold write
  rw [hartifact]
  show Leads (if r.isPlain then writePlain e artifact
    else writeDrawing e artifact r (World.pathOf (workplace w₀))) w _ _
  cases hplain : r.isPlain with
  | true => exact leads_writePlain_confined h hartifact hin
  | false => exact leads_writeDrawing_confined h hdots hplain hartifact hin

end writing

/-! ## A request -/

/-- All that a request changes lies where it belongs: its calls draw beside the output, and each
    location but those of the working files and of the log is as it was, or that of a file in the
    directory of the output, or a directory that was missing on the way to it. -/
structure KeepsTo (r : Request) (w w' : World) : Prop where
  calls : ∃ calls, w'.calls = w.calls ++ calls
    ∧ ∀ c ∈ calls, DrawsBeside r (World.pathOf (workplace w)) c
  disk : ∀ l, ¬ Aside w l → (∀ p : Path, p.LiesIn r.output.parent → p.location w.base ≠ l) →
    Disk.Change (r.output.parent.Passes w.base l) (w.disk.find? l) (w'.disk.find? l) none

section request
variable {w w' : World}

theorem KeepsTo.refl (r : Request) (w : World) : KeepsTo r w w where
  calls := ⟨[], (List.append_nil _).symm, nofun⟩
  disk := fun _ _ _ => .same rfl

/-- In the end the directory of the working files is removed. -/
theorem Confined.keepsTo (h : Confined r w w') (kept : Location → Bool) :
    KeepsTo r w { w' with disk := w'.disk.removeTree (workplace w) kept } := by
  obtain ⟨tried, calls, journal, halong, hcalls, hjournal⟩ := h
  refine ⟨⟨calls, halong.calls, hcalls⟩, ?_⟩
  intro l hl hnone
  have hunwritten : Write.lastAt w.base l journal = none := by
    unfold Write.lastAt
    rw [List.findSome?_eq_none_iff]
    intro x hx
    exact if_neg (hnone x.path (hjournal x (List.mem_reverse.mp hx)))
  have hchange := halong.told l hl
  rw [hunwritten] at hchange
  have hstays : (w'.disk.removeTree (workplace w) kept).find? l = w'.disk.find? l := by
    rw [Disk.find?_removeTree _ (workplace_ne_nil w), if_neg]
    exact fun hbelow => hl (Or.inl hbelow.1)
  show Disk.Change _ _ ((w'.disk.removeTree (workplace w) kept).find? l) none
  rw [hstays]
  exact hchange.mono fun hneeded => hneeded.2.2

/-- A request changes nothing elsewhere, however it ends. -/
theorem leads_handle_keepsTo (g : Graph) (houtput : r.output.LiesIn r.output.parent) (s : Station)
    (hdots : ".." ∉ workplace s.world) :
    Leads (handle g r) s (fun _ s' => KeepsTo r s.world s'.world)
      fun _ s' => KeepsTo r s.world s'.world := by
  cases hasked : asked g r s.world.fits with
  | error failure =>
    unfold Leads
    rw [handle_of_refused hasked]
    exact .refl r s.world
  | ok passed =>
    -- the place is made, the roots are drawn in a row, and the place is removed in either case
    obtain ⟨filters, names⟩ := passed
    obtain ⟨-, -, -, hroots⟩ := asked_eq_ok_iff.mp hasked
    have hremoval : ∀ s' : Station, Confined r s.world s'.world →
        Leads (removal (workplace s.world)) s' (fun _ s'' => KeepsTo r s.world s''.world)
          fun _ s'' => KeepsTo r s.world s''.world := by
      intro s' hs'
      apply (leads_removal (workplace s.world) s').mono
      · rintro _ _ rfl
        exact hs'.keepsTo _
      · rintro _ _ ⟨remnant, -, -, rfl⟩
        exact hs'.keepsTo _
    unfold Leads
    rw [handle_of_asked hasked, withWorkplace_eq]
    apply leads_get.bind
    intro s₁ s₂ hs
    obtain ⟨rfl, rfl⟩ := hs
    apply ((leads_makePlace_along r s hdots).mono (fun _ _ h => h) fun e s' hs' => ?_).bind
    · intro _ s₁ hs₁
      have hbegun : Confined r s.world s₁.world := ⟨[], [], [], hs₁.1, nofun, nofun⟩
      have hwork : Leads (work g r (1 < names.length) (World.pathOf (workplace s.world)) { filters }
          names) s₁ (fun _ s' => Confined r s.world s'.world)
          fun _ s' => Confined r s.world s'.world :=
        leads_work_of (P := Confined r s.world) (F := fun _ w => Confined r s.world w)
          (fun w part level text hw => leads_note_confined hw part level text)
          (fun w e hw => leads_write_confined houtput hdots hw e) (contains_of_roots hroots) _ hbegun
      apply leads_clearing hwork
      · exact fun _ s' hs' => hremoval s' hs'
      · exact fun _ s' hs' => hremoval s' hs'
    · show KeepsTo r s.world s'.world
      rw [hs'.1]
      exact .refl r s.world

/-- Results tell of no other files than those of their roots. -/
theorem gives_handling_liesIn (g : Graph) (fits : String → Bool)
    (houtput : r.output.LiesIn r.output.parent) :
    Gives (handling g r fits) fun es => ∀ e ∈ es, ∀ p, e.artifact = some p ∨ e.kept = some p →
      p.LiesIn r.output.parent := by
  refine (gives_handling g r fits).mono fun es hes => ?_
  obtain ⟨names, -, hfiled⟩ := hes
  have hall : List.Forall₂ (fun e _ => (∀ p, e.artifact = some p ∨ e.kept = some p →
      p.LiesIn r.output.parent) ∧ True) es names := by
    apply List.Forall₂.flip
    apply hfiled.imp
    intro name e he
    refine ⟨fun p hp => ?_, trivial⟩
    obtain ⟨artifact, hartifact, hin⟩ :=
      Request.liesIn_artifact houtput name (1 < names.length)
    rcases hp with hp | hp
    · obtain rfl := Option.some.inj ((he.artifact p hp).symm.trans hartifact)
      exact hin
    · obtain ⟨kept, hkept, hin'⟩ := Request.liesIn_kept hin
      have hbeside := he.kept p hp
      rw [Request.kept?, hartifact, Option.bind_some, hkept] at hbeside
      obtain rfl := Option.some.inj hbeside
      exact hin'
  exact ((List.forall₂_and_left _ _).mp hall).1

/-- Names of roots do not steer where files are written. Let the output end in the name of a file,
    which is neither empty nor leads up. Then whatever a root is called, and whether it is the only
    one or one of several, its artifact and the description that is kept for it lie in the directory
    of the output, and the description that is not kept lies in that of the working files. Results
    tell of no other files than these, and no request changes anything elsewhere, whatever the graph
    calls its symbols and however the request ends. -/
theorem names_lead_nowhere (r : Request) (hnormal : r.output.Normal) (hempty : r.output.name ≠ "")
    (habove : r.output.name ≠ "..") :
    (∀ root several, ∃ artifact kept,
      Request.artifact? r.output root several = some artifact
        ∧ artifact.withSuffix? Request.descriptionSuffix = some kept
        ∧ artifact.LiesIn r.output.parent ∧ kept.LiesIn r.output.parent)
      ∧ (∀ place root, (Path.child place (Request.descriptionName root)).LiesIn place)
      ∧ ∀ g s, ".." ∉ workplace s.world →
        Leads (handle g r) s
          (fun es s' => (∀ e ∈ es, ∀ p, e.artifact = some p ∨ e.kept = some p →
              p.LiesIn r.output.parent) ∧ KeepsTo r s.world s'.world)
          fun _ s' => KeepsTo r s.world s'.world := by
  have houtput : r.output.LiesIn r.output.parent := hnormal.liesIn hempty habove
  refine ⟨?_, Request.liesIn_description, ?_⟩
  · intro root several
    obtain ⟨artifact, hartifact, hin⟩ := Request.liesIn_artifact houtput root several
    obtain ⟨kept, hkept, hin'⟩ := Request.liesIn_kept hin
    exact ⟨artifact, kept, hartifact, hkept, hin, hin'⟩
  · intro g s hdots
    have hkeeps := leads_handle_keepsTo g houtput s hdots
    unfold Leads at hkeeps ⊢
    cases hrun : handle g r s with
    | ok es s' =>
      rw [hrun] at hkeeps
      exact ⟨gives_handling_liesIn g s.world.fits houtput s es s' hrun, hkeeps⟩
    | error failure s' =>
      rw [hrun] at hkeeps
      exact hkeeps

end request

/-- A graph with names that would lead up and away. -/
def steeringGraph : Graph := ({} : Graph).connect "../../etc/passwd" ".." []

/-- A request for both of its symbols, with descriptions that are kept. -/
def steering : Request :=
  { roots := ["../../etc/passwd", ".."], output := Path.ofString "out/calls.svg", keep := true }

/-- Slashes are gone from the names of the files, and the dots that are left lead nowhere. -/
theorem steering_leads_nowhere :
    steering.output.Normal ∧ steering.output.name ≠ "" ∧ steering.output.name ≠ ".."
      ∧ ".." ∉ workplace ({} : World)
      ∧ roots steeringGraph steering = .ok ["../../etc/passwd", ".."]
      ∧ (∃ artifact kept,
        Request.artifact? steering.output "../../etc/passwd" true = some artifact
          ∧ artifact.withSuffix? Request.descriptionSuffix = some kept
          ∧ artifact.LiesIn steering.output.parent ∧ kept.LiesIn steering.output.parent
          ∧ artifact.toString = "out/calls-.._.._etc_passwd.svg"
          ∧ kept.toString = "out/calls-.._.._etc_passwd.gv")
      ∧ ((Path.ofString "/tmp").child (Request.descriptionName "..")).LiesIn (Path.ofString "/tmp")
      ∧ Leads (handle steeringGraph steering) {}
          (fun es s' => (∀ e ∈ es, ∀ p, e.artifact = some p ∨ e.kept = some p →
              p.LiesIn steering.output.parent) ∧ KeepsTo steering {} s'.world)
          fun _ s' => KeepsTo steering {} s'.world := by
  have hnormal : steering.output.Normal := Path.normal_ofString _
  have hempty : steering.output.name ≠ "" := by decide
  have habove : steering.output.name ≠ ".." := by decide
  have hdots : ".." ∉ workplace ({} : World) := by decide
  obtain ⟨hfiles, hdescription, hrun⟩ := names_lead_nowhere steering hnormal hempty habove
  obtain ⟨artifact, kept, hartifact, hkept, hin, hin'⟩ := hfiles "../../etc/passwd" true
  have hartifact' : Request.artifact? steering.output "../../etc/passwd" true
      = some (Path.ofString "out/calls-.._.._etc_passwd.svg") := by decide +kernel
  obtain rfl : artifact = Path.ofString "out/calls-.._.._etc_passwd.svg" :=
    Option.some.inj (hartifact.symm.trans hartifact')
  have hkept' : (Path.ofString "out/calls-.._.._etc_passwd.svg").withSuffix?
      Request.descriptionSuffix = some (Path.ofString "out/calls-.._.._etc_passwd.gv") := by
    decide +kernel
  obtain rfl : kept = Path.ofString "out/calls-.._.._etc_passwd.gv" :=
    Option.some.inj (hkept.symm.trans hkept')
  refine ⟨hnormal, hempty, habove, hdots, by rfl, ?_, hdescription _ _, hrun _ _ hdots⟩
  exact ⟨_, _, hartifact, hkept, hin, hin', by decide +kernel, by decide +kernel⟩

end Service

end CallExcerpt
