import CallExcerpt.Proofs.Files.Traces
import CallExcerpt.Proofs.Service.Failing

/-! # Worlds along the way

    While a request is worked on, the world is told by the calls of the layout
    engine and by a journal of the files that were written, both since its
    beginning. The journal says nothing of two places: the directory of the working
    files, and the log file. A write that breaks off stands in it with the beginning
    that it has left.

    * `Engine.Draws`, `EngineCall.DrawsInto`: what an engine may draw, and where.
    * `Aside`, `Needed`: the places of which nothing is told, and the directories
      that the output needs.
    * `Along`: a world on the way; kept by each operation (`leads_note_along`,
      `leads_writeText_along`, `leads_layout_along`), whether it succeeds or not.
    * `MakesWay`: the directories that an operation may make.
    * `Unopened`, `CutShort`, `Wrote`: a text that was not begun, one that breaks off,
      and what either leaves.
    * `Drew`: what a call of the engine may add.
-/

namespace CallExcerpt

open Success (Leads leads_get leads_of_ok)

/-! ## Drawings -/

namespace Engine

variable {e : Engine} {program : String} {octets : List UInt8}

/-- The engine may draw a file that begins with these octets. -/
def Draws (e : Engine) (octets : List UInt8) : Prop :=
  ∃ reply ∈ e.replies, ∃ drawn, reply.drawn? = some drawn ∧ octets <+: drawn

theorem draws_of_call {drawn : List UInt8} (h : (e.call program).1.drawn? = some drawn)
    (hpart : octets <+: drawn) : e.Draws octets := by
  obtain hreply | ⟨reason, hreply⟩ := e.reply_call program
  · exact ⟨_, hreply, drawn, h, hpart⟩
  · rw [hreply] at h
    cases h

theorem Draws.mono {e' : Engine} (h : e'.replies ⊆ e.replies) (hdraws : e'.Draws octets) :
    e.Draws octets := by
  obtain ⟨reply, hreply, hdrawn⟩ := hdraws
  exact ⟨reply, h hreply, hdrawn⟩

end Engine

/-- The call names a path for its drawing. -/
def EngineCall.DrawsInto (c : EngineCall) (p : Path) : Prop :=
  ∃ program format description, c.command = Layout.command program format description p

/-- Does a request write files at all? A text may go to standard output instead. -/
def Request.toFiles (r : Request) : Bool := !(r.isPlain && r.output = Path.dash)

namespace Service

variable {r : Request}

/-! ## Worlds along the way -/

/-- A location of which nothing is told: among the working files of a request, or that of the
    log. -/
def Aside (w : World) (l : Location) : Prop :=
  workplace w <+: l ∨ ∃ file ∈ w.logFile, file.path.location w.base = l

/-- A directory that the output of a request needs, once there is an excerpt to be written to a
    file. -/
def Needed (r : Request) (w : World) (tried : List Excerpt) (l : Location) : Prop :=
  tried ≠ [] ∧ r.toFiles = true ∧ r.output.parent.Passes w.base l

/-- A world on the way, with the calls of the layout engine and the journal since the first one. -/
structure Along (r : Request) (w₀ w : World) (tried : List Excerpt) (calls : List EngineCall)
    (journal : List Write) : Prop where
  base : w.base = w₀.base
  logFile : w.logFile = w₀.logFile
  engine : w.engine.replies ⊆ w₀.engine.replies
  calls : w.calls = w₀.calls ++ calls
  limits : w.disk.limits = w₀.disk.limits
  place : w.disk.isDirectory w₀.base (World.pathOf (workplace w₀)) = true
  told : Disk.Told w₀.base (Aside w₀) (Needed r w₀ tried) journal w₀.disk w.disk

section along
variable {w₀ w : World} {tried : List Excerpt} {calls : List EngineCall} {journal : List Write}

/-- The next excerpt may need directories. -/
theorem Along.tries (h : Along r w₀ w tried calls journal) (e : Excerpt) :
    Along r w₀ w (tried ++ [e]) calls journal where
  base := h.base
  logFile := h.logFile
  engine := h.engine
  calls := h.calls
  limits := h.limits
  place := h.place
  told := h.told.mono fun l hl => ⟨by simp, hl.2⟩

theorem Along.withDisk (h : Along r w₀ w tried calls journal) {d : Disk} {journal' : List Write}
    (hkeeps : w.disk.Keeps d)
    (htold : Disk.Told w₀.base (Aside w₀) (Needed r w₀ tried) journal' w₀.disk d) :
    Along r w₀ { w with disk := d } tried calls journal' where
  base := h.base
  logFile := h.logFile
  engine := h.engine
  calls := h.calls
  limits := hkeeps.limits.trans h.limits
  place := hkeeps.isDirectory h.place
  told := htold

/-- An operation on the disk changes nothing but the disk. -/
theorem leads_onDisk_keeping {α : Type} {x : OnDisk α} {P : α → Disk → Prop}
    {F : SystemFault → Disk → Prop} (failure : SystemFault → Failure)
    (hx : Leads x w.disk (fun a d => w.disk.Keeps d ∧ P a d) fun e d => w.disk.Keeps d ∧ F e d) :
    Leads (Action.onDisk failure x) w
      (fun a w' => w' = { w with disk := w'.disk } ∧ w.disk.Keeps w'.disk ∧ P a w'.disk)
      fun e w' => w' = { w with disk := w'.disk } ∧ w.disk.Keeps w'.disk
        ∧ ∃ cause, e = failure cause ∧ F cause w'.disk := by
  unfold Leads
  obtain ⟨a, d, hrun, hkeeps, ha⟩ | ⟨e, d, hrun, hkeeps, he⟩ := hx.cases
  · rw [Action.onDisk_of_ok failure hrun]
    exact ⟨rfl, hkeeps, ha⟩
  · rw [Action.onDisk_of_error failure hrun]
    exact ⟨rfl, hkeeps, e, rfl, he⟩

/-- The log lies aside. -/
theorem leads_log_along (h : Along r w₀ w tried calls journal) (n : Note)
    {F : Failure → World → Prop} :
    Leads (Action.log n) w (fun _ w' => Along r w₀ w' tried calls journal) F := by
  have hkept : ∀ file ∈ w.logFile, Leads
      (OnDisk.appendFile w.base file.path (Text.Utf8.encode n.lines)) w.disk
      (fun _ d => w.disk.Keeps d
        ∧ Disk.Told w₀.base (Aside w₀) (Needed r w₀ tried) journal w₀.disk d)
      fun _ d => w.disk.Keeps d
        ∧ Disk.Told w₀.base (Aside w₀) (Needed r w₀ tried) journal w₀.disk d := by
    intro file hfile
    rw [h.base]
    have haside : Aside w₀ (file.path.location w₀.base) :=
      Or.inr ⟨file, h.logFile ▸ hfile, rfl⟩
    have hkeeps := OnDisk.leads_appendFile_keeps w₀.base file.path (Text.Utf8.encode n.lines) w.disk
    exact hkeeps.and (OnDisk.leads_appendFile_told h.told haside _)
  obtain ⟨d, ⟨hkeeps, htold⟩, hrun⟩ := Action.log_of_disk n ⟨.refl w.disk, h.told⟩ hkept
  have hbefore := h.withDisk hkeeps htold
  apply leads_of_ok hrun
  exact ⟨hbefore.base, hbefore.logFile, hbefore.engine, hbefore.calls, hbefore.limits, hbefore.place,
    hbefore.told⟩

theorem leads_note_along (h : Along r w₀ w tried calls journal) (part : Part) (level : Level)
    (text : String) {F : Failure → World → Prop} :
    Leads (Action.note part level text) w (fun _ w' => Along r w₀ w' tried calls journal) F :=
  leads_log_along h _

/-- What goes to standard output is not on the disk. -/
theorem leads_print_along (h : Along r w₀ w tried calls journal) (text : String) :
    Leads (Action.print text) w (fun _ w' => Along r w₀ w' tried calls journal)
      fun e w' => Along r w₀ w' tried calls journal ∧ ∃ cause, e = .system cause := by
  unfold Action.print
  apply leads_get.bind
  rintro _ _ ⟨rfl, rfl⟩
  cases w.outlet w.printed text with
  | none => exact ⟨h.base, h.logFile, h.engine, h.calls, h.limits, h.place, h.told⟩
  | some refusal =>
    exact ⟨⟨h.base, h.logFile, h.engine, h.calls, h.limits, h.place, h.told⟩, refusal.2, rfl⟩

/-! ### Directories and texts -/

/-- The directories of a path are made, as far as that goes, and nothing else is. -/
def MakesWay (r : Request) (w₀ w : World) (tried : List Excerpt) (journal : List Write)
    (p : Path) : Prop :=
  Leads (OnDisk.ensureDirectories w.base p) w.disk
    (fun _ d => w.disk.Keeps d
      ∧ Disk.Told w₀.base (Aside w₀) (Needed r w₀ tried) journal w₀.disk d)
    fun e d => w.disk.Keeps d
      ∧ Disk.Told w₀.base (Aside w₀) (Needed r w₀ tried) journal w₀.disk d
      ∧ (OnDisk.Refusal p e ∨ e = .tooDeep)

/-- The directories above the output are needed once there is an excerpt. -/
theorem makesWay_of_output (h : Along r w₀ w tried calls journal) (htried : tried ≠ [])
    (hfiles : r.toFiles = true) : MakesWay r w₀ w tried journal r.output.parent := by
  have hneeded : ∀ l, r.output.parent.Passes w₀.base l → ¬ Aside w₀ l → Needed r w₀ tried l := by
    intro l hl _
    exact ⟨htried, hfiles, hl⟩
  have hkeeps := OnDisk.leads_ensureDirectories (.refl w.disk) w₀.base r.output.parent
  have htold := OnDisk.leads_ensureDirectories_told h.told hneeded
  unfold MakesWay
  rw [h.base]
  apply (hkeeps.and htold).mono
  · intro _ d hd
    exact ⟨hd.1.1, hd.2⟩
  · intro e d hd
    exact ⟨hd.1.1, hd.2, hd.1.2.imp_right (·.1)⟩

/-- The directory of the working files is there. -/
theorem makesWay_of_place (h : Along r w₀ w tried calls journal) :
    MakesWay r w₀ w tried journal (World.pathOf (workplace w₀)) := by
  have hthere : w.disk.isDirectory w.base (World.pathOf (workplace w₀)) = true := by
    rw [h.base]
    exact h.place
  exact leads_of_ok (OnDisk.ensureDirectories_of_isDirectory hthere) ⟨.refl w.disk, h.told⟩

theorem leads_directories_along (h : Along r w₀ w tried calls journal) {p : Path}
    (hway : MakesWay r w₀ w tried journal p) (failure : SystemFault → Failure) :
    Leads (Action.onDisk failure (OnDisk.ensureDirectories w.base p)) w
      (fun _ w' => Along r w₀ w' tried calls journal)
      fun e w' => Along r w₀ w' tried calls journal ∧ ∃ cause, e = failure cause := by
  apply (leads_onDisk_keeping failure hway).mono
  · rintro _ w' ⟨hsame, hkeeps, htold⟩
    rw [hsame]
    exact h.withDisk hkeeps htold
  · rintro e w' ⟨hsame, hkeeps, cause, he, htold, -⟩
    rw [hsame]
    exact ⟨h.withDisk hkeeps htold, cause, he⟩

/-- The failures of a text whose file is not opened. -/
inductive Unopened (path : Path) : Failure → Prop where
  /-- The system refuses to open it, or to make its directories. -/
  | refused (error : SystemError) (name : String) :
      Unopened path (.cannotWrite path (.refused error name))
  /-- The system does not take its path. -/
  | nullByte (hunclean : ¬ path.Clean) : Unopened path (.system .nullByte)
  /-- There are too many directories to be made. -/
  | tooDeep : Unopened path (.system .tooDeep)

/-- The failures of a text whose file was opened and so emptied: the rest of the text does not get
    into it. -/
inductive CutShort (path : Path) : Failure → Prop where
  /-- The system takes no more. -/
  | broken (reason : Reason) : CutShort path (.cannotWrite path (.broken reason))
  /-- The text cannot be put in octets. -/
  | notEncoded (words : String) : CutShort path (.system (.notEncoded words))

/-- What was written stands in the journal, unless it lies aside. -/
structure Wrote (r : Request) (w₀ w : World) (tried : List Excerpt) (calls : List EngineCall)
    (journal : List Write) (path : Path) (octets : List UInt8) : Prop where
  told : Along r w₀ w tried calls (journal ++ [.text path octets])
  aside : Aside w₀ (path.location w₀.base) → Along r w₀ w tried calls journal

theorem Along.wrote (h : Along r w₀ w tried calls journal) {path : Path} {octets : List UInt8}
    {d : Disk} (hkeeps : w.disk.Keeps d)
    (hadds : OnDisk.Adds w₀.base (Aside w₀) (Needed r w₀ tried) journal w₀.disk
      (.text path octets) d) :
    Wrote r w₀ { w with disk := d } tried calls journal path octets where
  told := h.withDisk hkeeps hadds.told
  aside haside := h.withDisk hkeeps (hadds.aside haside)

/-- A text that was written stands in the journal. One whose file is not opened does not; and if it
    breaks off after that, a beginning of it does. -/
theorem leads_writeText_along (h : Along r w₀ w tried calls journal) {path : Path}
    (hway : MakesWay r w₀ w tried journal path.parent) (text : String) :
    Leads (writeText path text) w
      (fun _ w' => path.Clean
        ∧ Wrote r w₀ w' tried calls journal path (Text.Utf8.encode text))
      fun e w' => (Along r w₀ w' tried calls journal ∧ Unopened path e)
        ∨ path.Clean ∧ CutShort path e ∧ ∃ taken, taken <+: Text.Utf8.encode text
          ∧ Wrote r w₀ w' tried calls journal path taken := by
  let adds (octets : List UInt8) (d : Disk) : Prop :=
    OnDisk.Adds w₀.base (Aside w₀) (Needed r w₀ tried) journal w₀.disk (.text path octets) d
  have hwriting : Leads (do
      OnDisk.ensureDirectories w.base path.parent
      OnDisk.writeFile w.base path (Text.Utf8.encode text)) w.disk
      (fun _ d => w.disk.Keeps d ∧ path.Clean ∧ adds (Text.Utf8.encode text) d)
      fun e d => w.disk.Keeps d
        ∧ ((Disk.Told w₀.base (Aside w₀) (Needed r w₀ tried) journal w₀.disk d
            ∧ (OnDisk.Refusal path e ∨ e = .tooDeep))
          ∨ path.Clean ∧ OnDisk.Stuck w.disk (Text.Utf8.encode text) e
            ∧ ∃ taken, taken <+: Text.Utf8.encode text ∧ adds taken d) := by
    apply (hway.mono (fun _ _ h => h) fun e d hd => ?_).bind
    · rintro _ d ⟨hkeeps, htold⟩
      have hfile := OnDisk.leads_writeFile_told htold (.text path (Text.Utf8.encode text))
      rw [← h.base] at hfile
      apply ((OnDisk.leads_writeFile_keeps w.base path (Text.Utf8.encode text) d).and hfile).mono
      · intro _ d' hd'
        obtain ⟨hkeeps', hclean, hadds⟩ := hd'
        rw [h.base] at hadds
        exact ⟨hkeeps.trans hkeeps', hclean, hadds⟩
      · intro e d' hd'
        obtain ⟨hkeeps', htold'⟩ := hd'
        rw [h.base] at htold'
        refine ⟨hkeeps.trans hkeeps', htold'.imp (fun hd => ⟨hd.1, .inl hd.2⟩) ?_⟩
        rintro ⟨hclean, hstuck, taken, hpart, hadds⟩
        exact ⟨hclean, hstuck.of_keeps hkeeps, taken, hpart, hadds⟩
    · obtain ⟨hkeeps, htold, hfault⟩ := hd
      refine ⟨hkeeps, .inl ⟨htold, hfault.imp_left fun hrefusal => ?_⟩⟩
      exact hrefusal.mono fun hclean => hclean.parent
  unfold writeText
  apply leads_get.bind
  rintro _ _ ⟨rfl, rfl⟩
  apply (leads_onDisk_keeping _ hwriting).mono
  · rintro _ w' ⟨hsame, hkeeps, hclean, hadds⟩
    rw [hsame]
    exact ⟨hclean, h.wrote hkeeps hadds⟩
  · rintro e w' ⟨hsame, hkeeps, cause, rfl, hfault⟩
    rw [hsame]
    obtain ⟨htold, hrefusal | rfl⟩ | ⟨hclean, hstuck, taken, hpart, hadds⟩ := hfault
    · refine .inl ⟨h.withDisk hkeeps htold, ?_⟩
      cases hrefusal with
      | refused error name => exact .refused error name
      | nullByte hunclean => exact .nullByte hunclean
    · exact .inl ⟨h.withDisk hkeeps htold, .tooDeep⟩
    · refine .inr ⟨hclean, ?_, taken, hpart, h.wrote hkeeps hadds⟩
      cases hstuck with
      | broken reason => exact .broken reason
      | notEncoded => exact .notEncoded _

/-! ### Drawings -/

/-- A world after a call of the engine, if there was one: it may have drawn a file. -/
def Drew (r : Request) (w₀ w : World) (tried : List Excerpt) (calls : List EngineCall)
    (journal : List Write) (output : Path) : Prop :=
  ∃ more drawn, Along r w₀ w tried (calls ++ more) (journal ++ drawn)
    ∧ ∀ x ∈ drawn, ∃ octets, x = .drawing output octets ∧ w₀.engine.Draws octets
        ∧ ∃ c ∈ more, c.DrawsInto output

theorem Along.drew (h : Along r w₀ w tried calls journal) (output : Path) :
    Drew r w₀ w tried calls journal output := by
  refine ⟨[], [], ?_, nofun⟩
  rw [List.append_nil, List.append_nil]
  exact h

/-- Whatever becomes of the drawing, the call is noted. -/
theorem Along.called (h : Along r w₀ w tried calls journal) {output : Path} {made : EngineCall}
    (hmade : made.DrawsInto output) (program : String) {d : Disk} {drawn : List Write}
    (hkeeps : w.disk.Keeps d)
    (htold : Disk.Told w₀.base (Aside w₀) (Needed r w₀ tried) (journal ++ drawn) w₀.disk d)
    (hdrawn : ∀ x ∈ drawn, ∃ octets, x = .drawing output octets ∧ w₀.engine.Draws octets) :
    Drew r w₀ { w with
      engine := (w.engine.call program).2
      calls := w.calls ++ [made]
      disk := d } tried calls journal output := by
  have hbefore := h.withDisk hkeeps htold
  refine ⟨[made], drawn, ⟨h.base, h.logFile, ?_, ?_, hbefore.limits, hbefore.place, htold⟩, ?_⟩
  · exact List.Subset.trans (Engine.replies_call w.engine program) h.engine
  · show w.calls ++ [made] = _
    rw [h.calls, List.append_assoc]
  · intro x hx
    obtain ⟨octets, hx, hdraws⟩ := hdrawn x hx
    exact ⟨octets, hx, hdraws, made, List.mem_singleton_self made, hmade⟩

theorem leads_call_along (h : Along r w₀ w tried calls journal) (program format : String)
    (description output : Path) :
    Leads (Layout.call program format description output) w
      (fun _ w' => Drew r w₀ w' tried calls journal output)
      fun e w' => Drew r w₀ w' tried calls journal output ∧ ∃ cause, e = .system cause := by
  unfold Layout.call Leads
  dsimp only
  cases htakes : w.engine.takes (Layout.command program format description output) with
  | false =>
    rw [if_neg (by simp)]
    exact ⟨h.drew output, .nullByte, rfl⟩
  | true =>
    rw [if_pos rfl]
    let made : EngineCall := {
      command := Layout.command program format description output
      description := (w.disk.file? w.base description).map Content.octets }
    have hmade : made.DrawsInto output := ⟨program, format, description, rfl⟩
    have hnothing : ∀ d, w.disk.Keeps d →
        Disk.Told w₀.base (Aside w₀) (Needed r w₀ tried) journal w₀.disk d →
        Drew r w₀ { w with
          engine := (w.engine.call program).2
          calls := w.calls ++ [made]
          disk := d } tried calls journal output := by
      intro d hkeeps htold
      have hnone : Disk.Told w₀.base (Aside w₀) (Needed r w₀ tried) (journal ++ []) w₀.disk d := by
        rw [List.append_nil]
        exact htold
      exact h.called hmade program hkeeps hnone nofun
    have hsomething : ∀ d octets, w₀.engine.Draws octets → w.disk.Keeps d →
        Disk.Told w₀.base (Aside w₀) (Needed r w₀ tried) (journal ++ [.drawing output octets])
          w₀.disk d →
        Drew r w₀ { w with
          engine := (w.engine.call program).2
          calls := w.calls ++ [made]
          disk := d } tried calls journal output := by
      intro d octets hdraws hkeeps htold
      apply h.called hmade program hkeeps htold
      intro x hx
      exact ⟨octets, List.mem_singleton.mp hx, hdraws⟩
    show Drew r w₀ { w with
      engine := (w.engine.call program).2
      calls := w.calls ++ [made]
      disk := _ } tried calls journal output
    split
    case h_1 octets hdrawn =>
      have hdraws : ∀ taken, taken <+: octets → w₀.engine.Draws taken :=
        fun taken hpart => (Engine.draws_of_call hdrawn hpart).mono h.engine
      have hkeeps := OnDisk.leads_writeFile_keeps w.base output octets w.disk
      have hfile := OnDisk.leads_writeFile_told h.told (.drawing output octets)
      rw [← h.base] at hfile
      obtain ⟨_, d, hrun, hkeeps, -, hadds⟩ | ⟨_, d, hrun, hkeeps, htold⟩ :=
        (hkeeps.and hfile).cases
      · rw [hrun]
        exact hsomething d octets (hdraws octets (List.prefix_refl _)) hkeeps (h.base ▸ hadds.told)
      · rw [hrun]
        rw [h.base] at htold
        obtain ⟨htold, -⟩ | ⟨-, -, taken, hpart, hadds⟩ := htold
        · exact hnothing d hkeeps htold
        · exact hsomething d taken (hdraws taken hpart) hkeeps hadds.told
    case h_2 => exact hnothing w.disk (.refl w.disk) h.told

theorem leads_layout_along (h : Along r w₀ w tried calls journal) (format : String)
    (description : Path) {output : Path} (hway : MakesWay r w₀ w tried journal output.parent) :
    Leads (Layout.run none format description output) w
      (fun _ w' => Drew r w₀ w' tried calls journal output)
      fun e w' => Drew r w₀ w' tried calls journal output
        ∧ (e.family = .render ∨ (∃ cause, e = .system cause) ∨ ∃ fault, e = .garbled fault) := by
  apply leads_layout_of (P := fun w' => Along r w₀ w' tried calls journal)
  · apply (leads_directories_along h hway .system).mono
    · exact fun _ _ h => h
    · exact fun e w' hw' => ⟨hw'.1.drew output, .inr (.inl hw'.2)⟩
  · intro w' text hw'
    exact leads_note_along hw' _ _ _
  · intro w' hw'
    apply (leads_call_along hw' _ format description output).mono
    · exact fun _ _ h => ⟨h, fun fault _ _ => ⟨h, .inr (.inr ⟨fault, rfl⟩)⟩⟩
    · exact fun e w'' hw'' => ⟨hw''.1, .inr (.inl hw''.2)⟩
  · exact fun failure w' hw' hfamily => ⟨hw', .inl hfamily⟩

end along

end Service

end CallExcerpt
