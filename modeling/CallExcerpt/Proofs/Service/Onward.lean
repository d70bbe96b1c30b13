import CallExcerpt.Proofs.Graph.Building
import CallExcerpt.Proofs.Service.Filing

/-! # On the way through a request

    While a request is worked on, the world keeps what the work rests on: no
    directory goes away, and what refuses something refuses the same later on.
    For each part of the work there is a rule that tells what it leaves of the
    world, and how it may fail.

    * `Engine.replies`: what a layout engine may say.
    * `World.Onward`: what is kept of a world.
    * `Unwritable`, `leads_writeText`: writing a text, and what may keep it from being
      written.
    * `Unlaid`, `leads_layout`: having it drawn, and what comes up of that as it is.
    * `leads_layout_of`, `leads_writeDrawing_of`, `leads_draw_of`, `leads_work_of`: how
      the engine is called, a drawing made, an excerpt drawn, and the roots worked on
      in a row, whatever is looked at on the way.
    * `leads_withWorkplace`: work in a directory of its own.
-/

namespace CallExcerpt

open Success (bind_of_ok bind_of_error Leads leads_pure leads_throw leads_throw_bind leads_get
  leads_of_ok)

/-! ## Replies -/

namespace Engine

variable {e : Engine} {program : String}

/-- What an engine may reply, unless it is missing. -/
def replies : Engine → List Reply
  | .installed programs => programs.map fun program => program.2.reply
  | .scripted first later => first :: later

theorem reply_call (e : Engine) (program : String) :
    (e.call program).1 ∈ e.replies ∨ ∃ reason, (e.call program).1 = .unavailable reason := by
  cases e with
  | installed programs =>
    cases hlookup : programs.lookup program with
    | none => exact .inr ⟨_, by simp only [call, hlookup]; rfl⟩
    | some run =>
      obtain ⟨before, after, rfl, -⟩ := List.lookup_eq_some_iff.mp hlookup
      left
      simp [call, hlookup, replies]
  | scripted first later =>
    cases later with
    | nil => exact .inl List.mem_cons_self
    | cons next later => exact .inl List.mem_cons_self

/-- A call adds nothing to what an engine may reply. -/
theorem replies_call (e : Engine) (program : String) : (e.call program).2.replies ⊆ e.replies := by
  cases e with
  | installed programs => exact List.Subset.refl _
  | scripted first later =>
    cases later with
    | nil => exact List.Subset.refl _
    | cons next later => exact List.subset_cons_self _ _

end Engine

/-! ## Worlds along the way -/

/-- A world some steps later: the working directory, the place of the working files, the settings
    and all directories are still what they were, standard output and the system refuse what they
    refused, and the engine replies nothing else. -/
structure World.Onward (w w' : World) : Prop where
  base : w'.base = w.base
  place : Service.workplace w' = Service.workplace w
  settings : w'.settings = w.settings
  outlet : w'.outlet = w.outlet
  replies : w'.engine.replies ⊆ w.engine.replies
  disk : w.disk.Keeps w'.disk

namespace World.Onward

variable {w w' : World}

theorem refl (w : World) : w.Onward w := ⟨rfl, rfl, rfl, rfl, List.Subset.refl _, .refl _⟩

theorem trans {w'' : World} (h : w.Onward w') (h' : w'.Onward w'') : w.Onward w'' where
  base := h'.base.trans h.base
  place := h'.place.trans h.place
  settings := h'.settings.trans h.settings
  outlet := h'.outlet.trans h.outlet
  replies := List.Subset.trans h'.replies h.replies
  disk := h.disk.trans h'.disk

theorem isDirectory (h : w.Onward w') {p : Path} (hp : w.disk.isDirectory w.base p = true) :
    w'.disk.isDirectory w'.base p = true := by
  rw [h.base]
  exact h.disk.isDirectory hp

/-- A directory that is missing was missing before. -/
theorem missing (h : w.Onward w') {p : Path} (hp : w'.disk.isDirectory w'.base p = false) :
    w.disk.isDirectory w.base p = false := by
  cases hbefore : w.disk.isDirectory w.base p with
  | false => rfl
  | true => simp [h.isDirectory hbefore] at hp

theorem engineProgram (h : w.Onward w') : w'.engineProgram = w.engineProgram := by
  rw [World.engineProgram, World.engineProgram, h.settings]

theorem withDisk (h : w.Onward w') {d : Disk} (hd : w.disk.Keeps d) :
    w.Onward { w' with disk := d } := ⟨h.base, h.place, h.settings, h.outlet, h.replies, hd⟩

end World.Onward

namespace Action

variable {w₀ w : World} {α : Type}

theorem leads_onDisk (hw : w₀.Onward w) {x : OnDisk α} {P : α → Disk → Prop}
    {F : SystemFault → Prop} (failure : SystemFault → Failure)
    (hx : Leads x w.disk (fun a d => w₀.disk.Keeps d ∧ P a d) fun e d => w₀.disk.Keeps d ∧ F e) :
    Leads (onDisk failure x) w (fun a w' => w₀.Onward w' ∧ w'.base = w.base ∧ P a w'.disk)
      fun e w' => w₀.Onward w' ∧ ∃ cause, e = failure cause ∧ F cause := by
  unfold Leads
  obtain ⟨a, d, hrun, hkeeps, ha⟩ | ⟨e, d, hrun, hkeeps, he⟩ := hx.cases
  · rw [onDisk_of_ok failure hrun]
    exact ⟨hw.withDisk hkeeps, rfl, ha⟩
  · rw [onDisk_of_error failure hrun]
    exact ⟨hw.withDisk hkeeps, e, rfl, he⟩

theorem leads_log (hw : w₀.Onward w) (n : Note) {F : Failure → World → Prop} :
    Leads (log n) w (fun _ w' => w₀.Onward w') F := by
  obtain ⟨d, hkeeps, hrun⟩ := log_of_keeps n w
  exact leads_of_ok hrun ⟨hw.base, hw.place, hw.settings, hw.outlet, hw.replies, hw.disk.trans hkeeps⟩

/-- Standard output takes a text, or a beginning of it. -/
theorem leads_print (hw : w₀.Onward w) (text : String) :
    Leads (print text) w (fun _ w' => w₀.Onward w') fun e w' => w₀.Onward w'
      ∧ ∃ before taken cause, e = .system cause ∧ w₀.outlet before text = some (taken, cause) := by
  unfold print
  apply leads_get.bind
  rintro w₁ w₂ ⟨rfl, rfl⟩
  cases hout : w.outlet w.printed text with
  | none => exact ⟨hw.base, hw.place, hw.settings, hw.outlet, hw.replies, hw.disk⟩
  | some refusal =>
    obtain ⟨taken, cause⟩ := refusal
    refine ⟨⟨hw.base, hw.place, hw.settings, hw.outlet, hw.replies, hw.disk⟩, w.printed, taken, cause,
      rfl, ?_⟩
    rw [← hw.outlet, hout]

theorem log_of_no_file (h : w.logFile = none) (n : Note) :
    log n w = .ok () { w with notes := w.notes ++ [n] } := by
  show EStateM.Result.ok () _ = _
  dsimp only
  rw [h]

theorem leads_note (hw : w₀.Onward w) (part : Part) (level : Level) (text : String)
    {F : Failure → World → Prop} : Leads (note part level text) w (fun _ w' => w₀.Onward w') F :=
  leads_log hw _

end Action

namespace Service

variable {g : Graph} {r : Request} {w₀ w : World}

/-! ## Writing -/

/-- A directory is made with those above it, unless it is there. -/
theorem leads_makeWay (hw : w₀.Onward w) (p : Path) :
    Leads (OnDisk.ensureDirectories w.base p) w.disk
      (fun _ d => w₀.disk.Keeps d ∧ d.isDirectory w.base p = true)
      fun e d => w₀.disk.Keeps d ∧ w.disk.isDirectory w.base p = false
        ∧ (OnDisk.Refusal p e ∨ OnDisk.TooDeep w.disk p e) := by
  cases hthere : w.disk.isDirectory w.base p with
  | true =>
    exact leads_of_ok (OnDisk.ensureDirectories_of_isDirectory hthere) ⟨hw.disk, hthere⟩
  | false =>
    exact (OnDisk.leads_ensureDirectories hw.disk w.base p).mono (fun _ _ h => h)
      fun _ _ h => ⟨h.1, rfl, h.2⟩

/-- What keeps a text from being written to a path. -/
inductive Unwritable (w : World) (path : Path) (text : String) : Failure → Prop where
  /-- It is a matter of storage. -/
  | storage {cause : SystemFault} (hcause : cause.isOfSystem = true) :
      Unwritable w path text (.cannotWrite path cause)
  /-- No system takes the path. -/
  | nullByte (hunclean : ¬ path.Clean) : Unwritable w path text (.system .nullByte)
  /-- More directories are missing above it than can be made at once. -/
  | tooDeep {most : Nat} (hmost : most ∈ w.disk.limits.climbing)
      (hdeep : most < path.parent.parts.length)
      (hmissing : w.disk.isDirectory w.base path.parent = false) :
      Unwritable w path text (.system .tooDeep)
  /-- The text cannot be put in octets. -/
  | notEncoded {words : String} {tree : Tree} {l : Location} {taken : Nat}
      (hfilling : w.disk.limits.filling tree l (Text.Utf8.encode text)
        = some ⟨taken, .notEncoded words⟩) :
      Unwritable w path text (.system (.notEncoded words))

/-- What the system refuses is a matter of storage; what arises before it is asked comes up as it
    is. -/
theorem unwritable_of_fault {path : Path} {text : String} {cause : SystemFault}
    (h : (w.disk.isDirectory w.base path.parent = false
          ∧ (OnDisk.Refusal path.parent cause ∨ OnDisk.TooDeep w.disk path.parent cause))
      ∨ OnDisk.Refusal path cause ∨ OnDisk.Stuck w.disk (Text.Utf8.encode text) cause) :
    Unwritable w path text
      (if cause.isOfSystem then .cannotWrite path cause else .system cause) := by
  have hrefusal : OnDisk.Refusal path cause → Unwritable w path text
      (if cause.isOfSystem then .cannotWrite path cause else .system cause) := by
    intro hrefusal
    cases hrefusal with
    | refused => exact .storage rfl
    | nullByte hunclean => exact .nullByte hunclean
  obtain ⟨hmissing, hparent | ⟨rfl, most, hmost, hdeep⟩⟩ | hpath | hstuck := h
  · exact hrefusal (hparent.mono fun hclean => hclean.parent)
  · exact .tooDeep hmost hdeep hmissing
  · exact hrefusal hpath
  · cases hstuck with
    | broken reason => exact .storage rfl
    | notEncoded hfilling => exact .notEncoded hfilling

theorem leads_writeText (hw : w₀.Onward w) (path : Path) (text : String) :
    Leads (writeText path text) w
      (fun _ w' => w₀.Onward w' ∧ w'.disk.isDirectory w'.base path.parent = true)
      fun e w' => w₀.Onward w' ∧ Unwritable w path text e := by
  have hwriting : Leads (do
      OnDisk.ensureDirectories w.base path.parent
      OnDisk.writeFile w.base path (Text.Utf8.encode text)) w.disk
      (fun _ d => w₀.disk.Keeps d ∧ d.isDirectory w.base path.parent = true)
      fun e d => w₀.disk.Keeps d
        ∧ ((w.disk.isDirectory w.base path.parent = false
            ∧ (OnDisk.Refusal path.parent e ∨ OnDisk.TooDeep w.disk path.parent e))
          ∨ OnDisk.Refusal path e ∨ OnDisk.Stuck w.disk (Text.Utf8.encode text) e) := by
    have hway := (leads_makeWay hw path.parent).and
      ((OnDisk.leads_ensureDirectories (.refl w.disk) w.base path.parent).mono
        (fun _ _ h => h) fun _ _ h => h)
    apply (hway.mono (fun _ _ h => h) fun e d h => ⟨h.1.1, .inl h.1.2⟩).bind
    rintro _ d ⟨⟨hkeeps, hthere⟩, hafter, -⟩
    apply (OnDisk.leads_writeFile w.base path _ d).mono
    · rintro _ d' ⟨-, l, -, hchanged, -⟩
      exact ⟨hkeeps.trans hchanged.keeps, hchanged.keeps.isDirectory hthere⟩
    · rintro e d' (⟨rfl, hrefusal⟩ | ⟨-, hstuck, l, taken, -, -, hchanged, -⟩)
      · exact ⟨hkeeps, .inr (.inl hrefusal)⟩
      · exact ⟨hkeeps.trans hchanged.keeps, .inr (.inr (hstuck.of_keeps hafter))⟩
  unfold writeText
  apply leads_get.bind
  rintro w' s' ⟨rfl, rfl⟩
  apply (Action.leads_onDisk hw _ hwriting).mono
  · exact fun _ w' h => ⟨h.1, h.2.1 ▸ h.2.2⟩
  · rintro e w' ⟨honward, cause, rfl, hcause⟩
    exact ⟨honward, unwritable_of_fault hcause⟩

/-- The directory of a drawing is made outside of all that turns a refusal into a matter of
    storage. -/
theorem leads_directory (hw : w₀.Onward w) (p : Path) :
    Leads (Action.onDisk .system (OnDisk.ensureDirectories w.base p)) w (fun _ w' => w₀.Onward w')
      fun e w' => w₀.Onward w' ∧ ∃ cause, e = .system cause
        ∧ w.disk.isDirectory w.base p = false
        ∧ (OnDisk.Refusal p cause ∨ OnDisk.TooDeep w.disk p cause) := by
  apply (Action.leads_onDisk hw .system (P := fun _ _ => True)
    ((leads_makeWay hw p).mono (fun _ _ h => ⟨h.1, trivial⟩) fun _ _ h => h)).mono
  · exact fun _ _ h => h.1
  · exact fun _ _ h => h

/-- The engine cannot be handed a word with the character that ends words inside the system. -/
theorem leads_call (hw : w₀.Onward w) (program format : String) (description output : Path) :
    Leads (Layout.call program format description output) w
      (fun reply w' => w₀.Onward w'
        ∧ ∀ fault drawn, reply = .garbled fault drawn → reply ∈ w₀.engine.replies)
      fun e w' => w₀.Onward w' ∧ e = .system .nullByte
        ∧ ∃ word ∈ Layout.command program format description output, '\x00' ∈ word.toList := by
  unfold Layout.call Leads
  dsimp only
  cases htakes : w.engine.takes (Layout.command program format description output) with
  | true =>
    rw [if_pos rfl]
    refine ⟨⟨hw.base, hw.place, hw.settings, hw.outlet, ?_, ?_⟩, ?_⟩
    · exact List.Subset.trans (Engine.replies_call w.engine program) hw.replies
    · dsimp only
      split
      case h_1 octets _ =>
        have hdrawing := OnDisk.leads_writeFile_keeps w.base output octets w.disk
        obtain ⟨_, d, hrun, hkeeps⟩ | ⟨_, d, hrun, hkeeps⟩ := hdrawing.cases
        · rw [hrun]
          exact hw.disk.trans hkeeps
        · rw [hrun]
          exact hw.disk.trans hkeeps
      case h_2 => exact hw.disk
    · intro fault drawn hgarbled
      obtain hreply | ⟨reason, hreply⟩ := w.engine.reply_call program
      · exact hw.replies hreply
      · rw [hreply] at hgarbled
        cases hgarbled
  | false =>
    rw [if_neg (by simp)]
    refine ⟨hw, rfl, ?_⟩
    unfold Engine.takes at htakes
    split at htakes
    · simpa using htakes
    · cases htakes

/-- How the engine is called, whatever is looked at on the way: its file gets a directory, and after
    a call a failure is one of rendering, unless the engine says what is no text. -/
theorem leads_layout_of {P Q : World → Prop} {F : Failure → World → Prop} {format : String}
    {description output : Path}
    (hmade : Leads (Action.onDisk .system (OnDisk.ensureDirectories w.base output.parent)) w
      (fun _ w' => P w') F)
    (hnote : ∀ w' text, P w' →
      Leads (Action.note .layout .debug text) w' (fun _ w'' => P w'') fun _ _ => False)
    (hcall : ∀ w', P w' → Leads (Layout.call w.engineProgram format description output) w'
      (fun reply w'' => Q w'' ∧ ∀ fault drawn, reply = .garbled fault drawn → F (.garbled fault) w'')
      F)
    (hrender : ∀ failure w', Q w' → failure.family = .render → F failure w') :
    Leads (Layout.run none format description output) w (fun _ w' => Q w') F := by
  unfold Layout.run
  apply leads_get.bind
  rintro w₁ w₂ ⟨rfl, rfl⟩
  simp only [Option.getD_none, if_true]
  apply hmade.bind
  intro _ w₁ hw₁
  apply ((hnote w₁ _ hw₁).mono (fun _ _ h => h) fun _ _ h => h.elim).bind
  intro _ w₂ hw₂
  apply (hcall w₂ hw₂).bind
  rintro reply w₃ ⟨hw₃, hgarbled⟩
  cases reply with
  | unavailable reason => exact leads_throw (hrender _ w₃ hw₃ rfl)
  | garbled fault drawn => exact leads_throw (hgarbled fault drawn rfl)
  | ended code complaints drawn =>
    show Leads (ite (code ≠ 0) _ _) w₃ _ _
    by_cases hcode : code ≠ 0
    · rw [if_pos hcode]
      exact leads_throw (hrender _ w₃ hw₃ rfl)
    · rw [if_neg hcode]
      exact leads_pure hw₃

/-- What comes up of a layout as it is, and not as a failure of rendering. -/
inductive Unlaid (w : World) (format : String) (description output : Path) : Failure → Prop where
  /-- The system does not take the words of the call. -/
  | words {word : String} (hnull : '\x00' ∈ word.toList)
      (hword : word ∈ Layout.command w.engineProgram format description output) :
      Unlaid w format description output (.system .nullByte)
  /-- The directory is missing and cannot be made. -/
  | directory {cause : SystemFault} (hmissing : w.disk.isDirectory w.base output.parent = false)
      (hcause : OnDisk.Refusal output.parent cause ∨ OnDisk.TooDeep w.disk output.parent cause) :
      Unlaid w format description output (.system cause)
  /-- What the engine says is no text. -/
  | garbled {fault : Text.Utf8.Fault} {drawn : Option (List UInt8)}
      (hreply : .garbled fault drawn ∈ w.engine.replies) :
      Unlaid w format description output (.garbled fault)

theorem leads_layout (w : World) (format : String) (description output : Path) :
    Leads (Layout.run none format description output) w (fun _ w' => w.Onward w')
      fun e w' => w.Onward w' ∧ (e.family = .render ∨ Unlaid w format description output e) := by
  apply leads_layout_of (P := w.Onward)
  · apply (leads_directory (.refl w) output.parent).mono
    · exact fun _ _ h => h
    · rintro e w' ⟨hw', cause, rfl, hmissing, hcause⟩
      exact ⟨hw', .inr (.directory hmissing hcause)⟩
  · intro w' text hw'
    exact Action.leads_note hw' _ _ _
  · intro w' hw'
    apply (leads_call hw' w.engineProgram format description output).mono
    · rintro reply w'' ⟨hw'', hreplies⟩
      refine ⟨hw'', fun fault drawn hgarbled => ⟨hw'', .inr ?_⟩⟩
      exact .garbled (hgarbled ▸ hreplies fault drawn hgarbled)
    · rintro e w'' ⟨hw'', rfl, word, hword, hnull⟩
      exact ⟨hw'', .inr (.words hnull hword)⟩
  · exact fun failure w' hw' hfamily => ⟨hw', .inl hfamily⟩

/-! ## Drawings -/

section drawings
variable {artifact place : Path} {e : Excerpt}

/-- Where the description of a drawing is kept: beside the artifact, or nowhere. -/
inductive KeptAt (r : Request) (artifact : Path) : Option Path → Prop where
  /-- It is kept. -/
  | beside {p : Path} (hkeep : r.keep = true)
      (hbeside : artifact.withSuffix? Request.descriptionSuffix = some p) :
      KeptAt r artifact (some p)
  /-- It goes with the working files. -/
  | nowhere (hkeep : r.keep = false) : KeptAt r artifact none

theorem KeptAt.eq_beside {kept : Option Path} (h : KeptAt r artifact kept) :
    ∀ p ∈ kept, artifact.withSuffix? Request.descriptionSuffix = some p := by
  cases h with
  | beside _ hbeside => exact fun q hq => hbeside.trans hq
  | nowhere => nofun

/-- How a drawing is made, whatever is looked at on the way. The description finds its place beside
    the artifact or among the working files and is written there; after that, what the engine fails
    at is told in the result. -/
theorem leads_writeDrawing_of {P : World → Prop} {F : Failure → World → Prop}
    (hnote : ∀ (w' : World) (level : Level) (text : String), P w' →
      Leads (Action.note .service level text) w' (fun _ w'' => P w'') fun _ _ => False)
    (hnameless : r.keep = true → artifact.withSuffix? Request.descriptionSuffix = none →
      F (.nameless artifact) w)
    (hdraws : ∀ kept, KeptAt r artifact kept →
        let description := kept.getD (place.child (Request.descriptionName e.root))
        Leads (writeText description e.description) w
          (fun _ w₁ => Leads (Layout.run none r.format description artifact) w₁ (fun _ w₂ => P w₂)
            fun failure w₂ => if failure.family = .render then P w₂ else F failure w₂) F) :
    Leads (writeDrawing e artifact r place) w (fun _ w' => P w') F := by
  have hnoted : ∀ (w' : World) (level : Level) (text : String) {F' : Failure → World → Prop},
      P w' → Leads (Action.note .service level text) w' (fun _ w'' => P w'') F' := by
    intro w' level text F' hw'
    apply (hnote w' level text hw').mono
    · exact fun _ _ h => h
    · exact fun _ _ h => h.elim
  unfold writeDrawing
  extract_lets drawn
  have hdrawn : ∀ kept, KeptAt r artifact kept → Leads (drawn kept) w (fun _ w' => P w') F := by
    intro kept hkept
    apply (hdraws kept hkept).bind
    intro _ w₁ hlayout
    refine (Leads.tryCatch (P := fun _ w' => P w') (hlayout.bind fun p w₂ hw₂ =>
      (hnoted w₂ _ _ hw₂).bind fun _ w₃ hw₃ => leads_pure hw₃)
      fun failure w₂ h => ?_).bind fun x w₃ hw₃ => ?_
    · -- failures of the engine are told in the result, others break off
      split
      case isTrue hrender =>
        rw [if_pos hrender] at h
        apply (hnoted w₂ _ _ h).bind
        intro _ w₃ hw₃
        cases kept with
        | none => exact leads_pure hw₃
        | some p =>
          apply (hnoted w₃ _ _ hw₃).bind
          intro _ w₄ hw₄
          exact leads_pure hw₄
      case isFalse hother =>
        rw [if_neg hother] at h
        exact leads_throw_bind h
    · cases x with
      | ok e' => exact leads_pure hw₃
      | error e' => exact leads_pure hw₃
  split
  case isTrue hkeep =>
    cases hbeside : artifact.withSuffix? Request.descriptionSuffix with
    | none => exact leads_throw_bind (hnameless hkeep hbeside)
    | some p => exact hdrawn (some p) (.beside hkeep hbeside)
  case isFalse hkeep => exact hdrawn none (.nowhere (Bool.eq_false_iff.mpr hkeep))

end drawings

/-! ## Roots in a row -/

/-- Nothing but a goal that is out of reach keeps a symbol of the graph from being drawn. -/
theorem noPath_of_walk {styling : Styling} {screen : Screen} {name : String} {fault : WalkFault}
    (hname : g.contains name = true)
    (h : (Excerpt.walk g r styling screen name).walk = .error fault) :
    ∃ origin goal takenBack, r.goal = some goal ∧ fault = .noPath origin goal takenBack := by
  have houtcome := Walk.outcome_extract g r.plan name { styling, screen }
  unfold Excerpt.walk at h
  generalize Walk.extract g r.plan name { styling, screen } = result at h houtcome
  cases houtcome with
  | unknown hnone => simp [Graph.contains, hnone] at hname
  | noPath _ _ hgoal =>
    cases h
    exact ⟨_, _, _, hgoal, rfl⟩
  | excerpt => cases h

/-- Drawing only notes something, whatever is looked at on the way. -/
theorem leads_draw_of {P : World → Prop} {s : Station}
    (hnote : ∀ w' text, P w' →
      Leads (Action.note .traversal .debug text) w' (fun _ w'' => P w'') fun _ _ => False)
    (h : P s.world) (screen : Screen) (name : String) {F : Failure → Station → Prop} :
    Leads (draw g r screen name) s
      (fun drawn s' => P s'.world
        ∧ drawn = ((Excerpt.walk g r s.styling screen name).walk.map (Excerpt.ofWalk r.drawing),
            (Excerpt.walk g r s.styling screen name).screen)
        ∧ s'.styling = (Excerpt.walk g r s.styling screen name).styling) F := by
  have hworld : Leads (draw g r screen name) s (fun _ s' => P s'.world) fun _ _ => False := by
    unfold draw
    apply leads_get.bind
    intro s₁ s₂ hs
    obtain ⟨rfl, rfl⟩ := hs
    have hset : ∀ styling, Leads (modify fun s : Station => { s with styling }) s
        (fun _ s' => P s'.world) fun (_ : Failure) _ => False := fun _ => h
    apply (hset _).bind
    intro _ s₁ hs₁
    cases (Excerpt.walk g r s.styling screen name).walk with
    | error fault => exact leads_pure hs₁
    | ok w => exact (leads_onWorld (hnote s₁.world _ hs₁)).bind fun _ s₂ hs₂ => leads_pure hs₂
  obtain ⟨world, hdraw⟩ := draw_eq g r screen name s
  unfold Leads at hworld ⊢
  rw [hdraw] at hworld ⊢
  exact ⟨hworld, rfl, rfl⟩

/-- Roots in a row, whatever is looked at on the way: it is kept by notes and by the writing of an
    excerpt, and only the writing of an excerpt may fail. -/
theorem leads_work_of {P : World → Prop} {F : Failure → World → Prop} {several : Bool}
    {place : Path}
    (hnote : ∀ w' part level text, P w' →
      Leads (Action.note part level text) w' (fun _ w'' => P w'') fun _ _ => False)
    (hwrite : ∀ w' e, P w' → Leads (write r several place e) w' (fun _ w'' => P w'') F)
    {names : List String} (hnames : ∀ n ∈ names, g.contains n = true) (screen : Screen)
    {s : Station} (h : P s.world) :
    Leads (work g r several place screen names) s (fun _ s' => P s'.world)
      fun failure s' => F failure s'.world := by
  induction names generalizing screen s with
  | nil => exact leads_pure h
  | cons name names ih =>
    obtain ⟨hname, hrest⟩ := List.forall_mem_cons.mp hnames
    have hothers : ∀ (first : Excerpt) (screen' : Screen) (s' : Station), P s'.world → Leads (do
        let others ← work g r several place screen' names
        return first :: others) s' (fun _ s'' => P s''.world)
          fun failure s'' => F failure s''.world := by
      intro first screen' s' hs'
      apply (ih hrest screen' hs').bind
      intro others s'' hs''
      exact leads_pure hs''
    unfold work
    apply (leads_draw_of (fun w' text => hnote w' _ _ text) h screen name).bind
    intro drawn s₁ hs₁
    obtain ⟨hs₁, rfl, -⟩ := hs₁
    cases hwalk : (Excerpt.walk g r s.styling screen name).walk with
    | ok w =>
      apply (leads_onWorld (hwrite s₁.world _ hs₁)).bind
      exact fun e' s₂ hs₂ => hothers e' _ s₂ hs₂
    | error fault =>
      -- all roots are symbols, so that only the goal can be missed, and that is told
      obtain ⟨origin, goal, takenBack, -, rfl⟩ := noPath_of_walk hname hwalk
      apply ((leads_onWorld (hnote s₁.world _ _ _ hs₁)).mono (fun _ _ h => h)
        fun _ _ h => h.elim).bind
      exact fun _ s₂ hs₂ => hothers _ _ s₂ hs₂

/-! ## Working files -/

theorem leads_ofExcept {ε α : Type} (failure : ε → Failure) (x : Except ε α) (s : Station) :
    Leads (Serving.ofExcept failure x) s (fun a s' => s = s' ∧ x = .ok a)
      fun e _ => ∃ fault, x = .error fault ∧ e = failure fault := by
  cases x with
  | ok a => exact ⟨rfl, rfl⟩
  | error fault => exact ⟨fault, rfl, rfl⟩

/-- A place for working files is made first. -/
theorem withWorkplace_of_made {α : Type} (x : Path → Serving α) {s : Station} {d : Disk}
    (h : OnDisk.makeDirectory [] (World.pathOf (workplace s.world)) s.world.disk = .ok () d) :
    withWorkplace x s = clearing (workplace s.world) (x (World.pathOf (workplace s.world)))
      { s with world := { s.world with disk := d } } := by
  have hplace := onWorld_of_ok (Action.onDisk_of_ok .noWorkingDirectory h)
  rw [withWorkplace_eq]
  exact (bind_of_ok rfl).trans (bind_of_ok hplace)

theorem withWorkplace_of_refused {α : Type} (x : Path → Serving α) {s : Station}
    {cause : SystemFault} {d : Disk}
    (h : OnDisk.makeDirectory [] (World.pathOf (workplace s.world)) s.world.disk = .error cause d) :
    withWorkplace x s
      = .error (.noWorkingDirectory cause) { s with world := { s.world with disk := d } } := by
  have hplace := onWorld_of_error (Action.onDisk_of_error .noWorkingDirectory h)
  rw [withWorkplace_eq]
  exact (bind_of_ok rfl).trans (bind_of_error hplace)

/-- Work in a directory of its own, which is there when it begins. What comes of it stays, unless a
    remnant of the directory is left. -/
theorem leads_withWorkplace {α : Type} {x : Path → Serving α} {s : Station} {P : α → Prop}
    {F : Failure → Prop} (hmaking : ∀ cause, F (.noWorkingDirectory cause))
    (hremoving : ∀ tree remnant,
      s.world.disk.limits.removing tree (workplace s.world) = some remnant →
        F (.system (.refused (.limited remnant.reason) remnant.path)))
    (hx : ∀ s', s.world.Onward s'.world →
      s'.world.disk.isDirectory s'.world.base (World.pathOf (workplace s.world)) = true →
      Leads (x (World.pathOf (workplace s.world))) s' (fun a s'' => s.world.Onward s''.world ∧ P a)
        fun e s'' => s.world.Onward s''.world ∧ F e) :
    Leads (withWorkplace x) s (fun a _ => P a) fun e _ => F e := by
  rw [withWorkplace_eq]
  apply leads_get.bind
  rintro s₁ s₂ ⟨rfl, rfl⟩
  have hmade := (OnDisk.leads_makeDirectory [] (World.pathOf (workplace s.world)) s.world.disk).mono
    (Q := fun _ d => s.world.disk.Keeps d
      ∧ d.isDirectory [] (World.pathOf (workplace s.world)) = true)
    (G := fun _ d => s.world.disk.Keeps d ∧ True) (fun _ d h => ⟨h.1, h.2.1⟩)
    fun _ d h => ⟨h.1 ▸ .refl d, trivial⟩
  apply ((leads_onWorld (Action.leads_onDisk (.refl s.world) .noWorkingDirectory hmade)).mono
    (fun _ _ h => h) fun e s' h => ?_).bind
  · rintro _ s₁ ⟨honward, -, hthere⟩
    have hremoval : ∀ s', s.world.Onward s'.world → Leads (removal (workplace s.world)) s'
        (fun _ _ => True) fun e _ => F e := by
      intro s' hs'
      apply (leads_removal (workplace s.world) s').mono
      · exact fun _ _ _ => trivial
      · rintro _ _ ⟨remnant, hremnant, rfl, -⟩
        rw [hs'.disk.limits] at hremnant
        exact hremoving _ _ hremnant
    apply leads_clearing (hx s₁ honward hthere)
    · exact fun a s' h => (hremoval s' h.1).mono (fun _ _ _ => h.2) fun _ _ h => h
    · exact fun e s' h => (hremoval s' h.1).mono (fun _ _ _ => h.2) fun _ _ h => h
  · obtain ⟨-, cause, rfl, -⟩ := h
    exact hmaking cause

end Service

end CallExcerpt
