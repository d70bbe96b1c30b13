import CallExcerpt.Proofs.Service.Along
import CallExcerpt.Proofs.Service.Refusing

/-! # What a request leaves on the disk

    The working files of a request are gone when it has ended, however it ends.
    Of the files beside them it has written just the texts of the excerpts that it
    came to: the artifact if that is the text itself, or the description that is
    kept beside a drawing. All else that it makes are directories for these. What
    the layout engine draws is told apart from that.

    * `Request.textPath?`, `Request.left?`: where the text of a root is written, and
      where it is left.
    * `Left`: a world after some excerpts; `BreaksOff`: the ways to end over one
      more, before its text was written, within it or after it.
    * `LeavesOne`, `leavesOne_write`: one excerpt is written, or it breaks off.
    * `excerpts`, `ComesTo`: what roots in a row are drawn as; `LeavesRow`,
      `leavesRow_work`: what they leave.
    * `Remains`, `Reaches`, `Ends`: what remains on the disk, how far the roots
      came, and how the request ended.
    * `leaves_just_texts`: what is left of a request.
    * `cut_text_empties`: a file that is opened and takes in nothing of its text.
    * `kept_text_remains`: a description beside a drawing that failed.
-/

namespace CallExcerpt

open Success (Leads leads_pure leads_throw_bind leads_get leads_of_ok bind_of_ok bind_of_error)

namespace Request

/-- Where the text of a root is written: it is the artifact itself, or the description beside the
    artifact, or one among the working files. -/
def textPath? (r : Request) (several : Bool) (place : Path) (root : String) : Option Path := do
  let artifact ← artifact? r.output root several
  if r.isPlain then return artifact
  else if r.keep then artifact.withSuffix? descriptionSuffix
  else return place.child (descriptionName root)

/-- Where the text of a root is left, if it is left in a file at all. -/
def left? (r : Request) (several : Bool) (root : String) : Option Path :=
  if r.isPlain then (artifact? r.output root several).filter (· ≠ Path.dash)
  else if r.keep then kept? r.output root several
  else none

end Request

namespace Service

variable {g : Graph} {r : Request}

/-! ## One excerpt -/

/-- The file that an excerpt leaves: where, and with which text. -/
def leftBy (r : Request) (several : Bool) (e : Excerpt) : Option (Path × List UInt8) :=
  (r.left? several e.root).map fun p => (p, Text.Utf8.encode e.description)

/-- A journal of texts and drawings: which texts were left, in order, and each drawing is one that
    the engine may give, or a beginning of it, at a call that named its file. -/
structure Records (engine : Engine) (calls : List EngineCall) (texts : List (Path × List UInt8))
    (journal : List Write) : Prop where
  texts : journal.filterMap Write.text? = texts
  drawings : ∀ p octets, .drawing p octets ∈ journal →
    engine.Draws octets ∧ ∃ c ∈ calls, c.DrawsInto p

/-- A world after some excerpts: those that it was tried to write, and the texts that were left. -/
def Left (r : Request) (w₀ w : World) (tried : List Excerpt) (texts : List (Path × List UInt8)) :
    Prop :=
  ∃ calls journal, Along r w₀ w tried calls journal ∧ Records w₀.engine calls texts journal

/-- How a request breaks off over an excerpt, and what is left of its text by then. -/
inductive BreaksOff (r : Request) (several : Bool) (place : Path) (e : Excerpt) :
    Failure → List (Path × List UInt8) → Prop where
  /-- The text has no place. -/
  | nameless (hpath : r.textPath? several place e.root = none) :
      BreaksOff r several place e (.nameless r.output) []
  /-- The file of the text is not opened. -/
  | unopened {p : Path} {failure : Failure} (hpath : r.textPath? several place e.root = some p)
      (hfailure : Unopened p failure) : BreaksOff r several place e failure []
  /-- Standard output does not take the text. -/
  | outlet (hplain : r.isPlain = true) (houtput : r.output = Path.dash) (cause : SystemFault) :
      BreaksOff r several place e (.system cause) []
  /-- The file of the text was opened, and holds a beginning of it. -/
  | cutShort {p : Path} {failure : Failure} {taken : List UInt8}
      (hpath : r.textPath? several place e.root = some p) (hclean : p.Clean)
      (hfailure : CutShort p failure) (htaken : taken <+: Text.Utf8.encode e.description) :
      BreaksOff r several place e failure
        ((r.left? several e.root).toList.map fun q => (q, taken))
  /-- The text was written, and its drawing is not begun. -/
  | undrawn {p : Path} {failure : Failure} (hpath : r.textPath? several place e.root = some p)
      (hclean : p.Clean) (hdrawn : r.isPlain = false)
      (hfailure : (∃ cause, failure = .system cause) ∨ ∃ fault, failure = .garbled fault) :
      BreaksOff r several place e failure (leftBy r several e).toList

section writing
variable {several : Bool} {w₀ w : World} {tried : List Excerpt} {texts : List (Path × List UInt8)}
  {e : Excerpt} {artifact : Path}

theorem Left.tries (h : Left r w₀ w tried texts) (e : Excerpt) :
    Left r w₀ w (tried ++ [e]) texts := by
  obtain ⟨calls, journal, halong, hrecords⟩ := h
  exact ⟨calls, journal, halong.tries e, hrecords⟩

theorem leads_note_left (h : Left r w₀ w tried texts) (part : Part) (level : Level)
    (text : String) {F : Failure → World → Prop} :
    Leads (Action.note part level text) w (fun _ w' => Left r w₀ w' tried texts) F := by
  obtain ⟨calls, journal, halong, hrecords⟩ := h
  apply (leads_note_along halong part level text (F := fun _ _ => False)).mono
  · intro _ w' hw'
    exact ⟨calls, journal, hw', hrecords⟩
  · intro _ _ hfalse
    exact hfalse.elim

/-- A text that is left comes after the others. -/
theorem Records.adds {engine : Engine} {calls : List EngineCall} {journal : List Write}
    (h : Records engine calls texts journal) (p : Path) (octets : List UInt8) :
    Records engine calls (texts ++ [(p, octets)]) (journal ++ [.text p octets]) where
  texts := by
    rw [List.filterMap_append, h.texts]
    rfl
  drawings := by
    intro q octets' hq
    rw [List.mem_append, List.mem_singleton] at hq
    rcases hq with hq | hq
    · exact h.drawings q octets' hq
    · cases hq

/-- What was written to the place of a text is left there, unless that is among the working
    files. -/
theorem left_of_wrote {calls : List EngineCall} {journal : List Write} {path : Path}
    {octets : List UInt8} (h : Wrote r w₀ w tried calls journal path octets)
    (hrecords : Records w₀.engine calls texts journal)
    (hleft : r.left? several e.root = some path
      ∨ r.left? several e.root = none ∧ Aside w₀ (path.location w₀.base)) :
    ∃ journal', Along r w₀ w tried calls journal' ∧ Records w₀.engine calls
      (texts ++ (r.left? several e.root).toList.map fun q => (q, octets)) journal' := by
  obtain hleft | ⟨hleft, haside⟩ := hleft
  · rw [hleft]
    exact ⟨_, h.told, hrecords.adds path octets⟩
  · rw [hleft]
    refine ⟨journal, h.aside haside, ?_⟩
    rw [Option.toList_none, List.map_nil, List.append_nil]
    exact hrecords

theorem leftBy_toList (r : Request) (several : Bool) (e : Excerpt) :
    (leftBy r several e).toList
      = (r.left? several e.root).toList.map fun q => (q, Text.Utf8.encode e.description) := by
  unfold leftBy
  cases r.left? several e.root <;> rfl

/-- The text of an excerpt is written to its place, or the request breaks off over it. -/
theorem leads_writeText_left {calls : List EngineCall} {journal : List Write} {path : Path}
    (halong : Along r w₀ w tried calls journal) (hrecords : Records w₀.engine calls texts journal)
    (htext : r.textPath? several (World.pathOf (workplace w₀)) e.root = some path)
    (hway : MakesWay r w₀ w tried journal path.parent)
    (hleft : r.left? several e.root = some path
      ∨ r.left? several e.root = none ∧ Aside w₀ (path.location w₀.base)) :
    Leads (writeText path e.description) w
      (fun _ w' => path.Clean ∧ ∃ journal', Along r w₀ w' tried calls journal'
        ∧ Records w₀.engine calls (texts ++ (leftBy r several e).toList) journal')
      fun failure w' => ∃ rest, BreaksOff r several (World.pathOf (workplace w₀)) e failure rest
        ∧ Left r w₀ w' tried (texts ++ rest) := by
  apply (leads_writeText_along halong hway e.description).mono
  · intro _ w' hw'
    obtain ⟨hclean, hwrote⟩ := hw'
    have hwritten := left_of_wrote hwrote hrecords hleft
    rw [← leftBy_toList] at hwritten
    exact ⟨hclean, hwritten⟩
  · intro failure w' hw'
    obtain ⟨hw', hfailure⟩ | ⟨hclean, hfailure, taken, htaken, hwrote⟩ := hw'
    · refine ⟨[], .unopened htext hfailure, calls, journal, hw', ?_⟩
      simpa using hrecords
    · -- the file was opened, so that what it took is left of it
      obtain ⟨journal', hwritten⟩ := left_of_wrote hwrote hrecords hleft
      exact ⟨_, .cutShort htext hclean hfailure htaken, calls, journal', hwritten⟩

/-- A call and what it has drawn change nothing about the texts. -/
theorem left_of_drew {calls : List EngineCall} {journal : List Write} {output : Path}
    (h : Drew r w₀ w tried calls journal output)
    (hrecords : Records w₀.engine calls texts journal) : Left r w₀ w tried texts := by
  obtain ⟨more, drawn, halong, hdrawn⟩ := h
  refine ⟨calls ++ more, journal ++ drawn, halong, ?_, ?_⟩
  · have hnone : drawn.filterMap Write.text? = [] := by
      rw [List.filterMap_eq_nil_iff]
      intro x hx
      obtain ⟨octets, rfl, -⟩ := hdrawn x hx
      rfl
    rw [List.filterMap_append, hnone, List.append_nil, hrecords.texts]
  · intro p octets hp
    rw [List.mem_append] at hp
    rcases hp with hp | hp
    · obtain ⟨hdraws, c, hc, hinto⟩ := hrecords.drawings p octets hp
      exact ⟨hdraws, c, List.mem_append_left _ hc, hinto⟩
    · obtain ⟨octets', heq, hdraws, c, hc, hinto⟩ := hdrawn _ hp
      cases heq
      exact ⟨hdraws, c, List.mem_append_right _ hc, hinto⟩

/-- What is left if all goes well with an excerpt, and if it does not. -/
def LeavesOne {α : Type} (r : Request) (several : Bool) (w₀ : World) (tried : List Excerpt)
    (texts : List (Path × List UInt8)) (e : Excerpt) (x : Action α) (w : World) : Prop :=
  Leads x w (fun _ w' => Left r w₀ w' tried (texts ++ (leftBy r several e).toList))
    fun failure w' => ∃ rest,
      BreaksOff r several (World.pathOf (workplace w₀)) e failure rest
        ∧ Left r w₀ w' tried (texts ++ rest)

theorem leavesOne_writePlain (h : Left r w₀ w tried texts) (htried : tried ≠ [])
    (hplain : r.isPlain = true)
    (hartifact : Request.artifact? r.output e.root several = some artifact) :
    LeavesOne r several w₀ tried texts e (writePlain e artifact) w := by
  obtain ⟨calls, journal, halong, hrecords⟩ := h
  have htext : r.textPath? several (World.pathOf (workplace w₀)) e.root = some artifact := by
    simp [Request.textPath?, hartifact, hplain]
  have hnoted : ∀ (e' : Excerpt) (text : String) (w' : World),
      Left r w₀ w' tried (texts ++ (leftBy r several e).toList) →
        LeavesOne r several w₀ tried texts e (do
          Action.note .service .info text
          return e') w' := by
    intro e' text w' hw'
    exact (leads_note_left hw' _ _ _).bind fun _ w'' hw'' => leads_pure hw''
  unfold LeavesOne at hnoted ⊢
  unfold writePlain
  split
  case isTrue hdash =>
    have houtput : r.output = Path.dash := Request.eq_dash_of_artifact (hdash ▸ hartifact)
    have hnone : leftBy r several e = none := by
      rw [leftBy, Request.left?, if_pos hplain, hartifact, hdash]
      rfl
    rw [hnone] at hnoted ⊢
    apply ((leads_print_along halong e.description).mono (fun _ _ h => h)
      fun failure w' hw' => ?_).bind
    · intro _ w₁ hw₁
      refine hnoted e _ w₁ ⟨calls, journal, hw₁, ?_⟩
      simpa using hrecords
    · obtain ⟨hw', cause, rfl⟩ := hw'
      refine ⟨[], .outlet hplain houtput cause, calls, journal, hw', ?_⟩
      simpa using hrecords
  case isFalse hdash =>
    have hleft : r.left? several e.root = some artifact := by
      rw [Request.left?, if_pos hplain, hartifact]
      simp [Option.filter, hdash]
    have hfiles : r.toFiles = true := by
      have houtput : r.output ≠ Path.dash := by
        rintro houtput
        rw [Request.artifact?, houtput] at hartifact
        exact hdash (by simpa using hartifact.symm)
      simp [Request.toFiles, houtput]
    have hway : MakesWay r w₀ w tried journal artifact.parent := by
      rw [Request.parent_artifact hartifact]
      exact makesWay_of_output halong htried hfiles
    apply (leads_writeText_left halong hrecords htext hway (.inl hleft)).bind
    intro _ w₁ hw₁
    obtain ⟨-, journal₁, hwritten⟩ := hw₁
    exact hnoted _ _ w₁ ⟨calls, journal₁, hwritten⟩

/-- The description of a root stands among the working files if it is not kept. -/
theorem aside_description (hdots : ".." ∉ workplace w₀) (name : String) :
    Aside w₀ (((World.pathOf (workplace w₀)).child (Request.descriptionName name)).location
      w₀.base) := by
  left
  have hname : Request.descriptionName name ≠ ".." := by
    intro hname
    have hlast := congrArg (fun s => s.toList.getLast?) hname
    simp [Request.descriptionName, Request.descriptionSuffix] at hlast
  have hdown : ".." ∉ workplace w₀ ++ [Request.descriptionName name] := by
    rw [List.mem_append, List.mem_singleton, not_or]
    exact ⟨hdots, Ne.symm hname⟩
  have hlocation := World.location_pathOf hdown w₀.base
  exact ⟨_, hlocation.symm⟩

/-- The description of a drawing has its place, and the directories of that are there, or may be
    made. It is left there if it is kept. -/
theorem place_of_keptAt {calls : List EngineCall} {journal : List Write}
    (halong : Along r w₀ w tried calls journal) (htried : tried ≠ [])
    (hdots : ".." ∉ workplace w₀) (hdrawn : r.isPlain = false)
    (hartifact : Request.artifact? r.output e.root several = some artifact) {kept : Option Path}
    (hkept : KeptAt r artifact kept) :
    let description := kept.getD
      ((World.pathOf (workplace w₀)).child (Request.descriptionName e.root))
    r.textPath? several (World.pathOf (workplace w₀)) e.root = some description
      ∧ MakesWay r w₀ w tried journal description.parent
      ∧ (r.left? several e.root = some description
        ∨ r.left? several e.root = none ∧ Aside w₀ (description.location w₀.base)) := by
  intro description
  have hfiles : r.toFiles = true := by simp [Request.toFiles, hdrawn]
  have hplain : ¬ r.isPlain = true := by simp [hdrawn]
  cases hkept with
  | @beside p hkeep hbeside =>
    refine ⟨?_, ?_, .inl ?_⟩
    · simp [Request.textPath?, hartifact, hdrawn, hkeep, hbeside, description]
    · show MakesWay r w₀ w tried journal p.parent
      rw [Path.parent_withName? hbeside, Request.parent_artifact hartifact]
      exact makesWay_of_output halong htried hfiles
    · rw [Request.left?, if_neg hplain, if_pos hkeep, Request.kept?, hartifact]
      simp [hbeside, description]
  | nowhere hkeep =>
    refine ⟨?_, ?_, .inr ⟨?_, aside_description hdots e.root⟩⟩
    · simp [Request.textPath?, hartifact, hdrawn, hkeep, description]
    · have hparent : description.parent = World.pathOf (workplace w₀) := by
        simp [description, Path.child, Path.parent]
      rw [hparent]
      exact makesWay_of_place halong
    · simp [Request.left?, hplain, hkeep]

/-- However the drawing goes, the text was written before it. -/
theorem leavesOne_writeDrawing (h : Left r w₀ w tried texts) (htried : tried ≠ [])
    (hdots : ".." ∉ workplace w₀) (hdrawn : r.isPlain = false)
    (hartifact : Request.artifact? r.output e.root several = some artifact) :
    LeavesOne r several w₀ tried texts e
      (writeDrawing e artifact r (World.pathOf (workplace w₀))) w := by
  have hfiles : r.toFiles = true := by simp [Request.toFiles, hdrawn]
  apply leads_writeDrawing_of
  · intro w' level text hw'
    exact leads_note_left hw' _ _ _
  · intro hkeep hbeside
    obtain ⟨rfl, -⟩ := Request.eq_output_of_no_kept hartifact hbeside
    have htext : r.textPath? several (World.pathOf (workplace w₀)) e.root = none := by
      simp [Request.textPath?, hartifact, hdrawn, hkeep, hbeside]
    refine ⟨[], .nameless htext, ?_⟩
    simpa using h
  · intro kept hkept description
    obtain ⟨calls, journal, halong, hrecords⟩ := h
    obtain ⟨htext, hway, hleft⟩ := place_of_keptAt halong htried hdots hdrawn hartifact hkept
    apply (leads_writeText_left halong hrecords htext hway hleft).mono
    · intro _ w₁ hw₁
      obtain ⟨hclean, journal₁, halong₁, hrecords₁⟩ := hw₁
      have hparent : MakesWay r w₀ w₁ tried journal₁ artifact.parent := by
        rw [Request.parent_artifact hartifact]
        exact makesWay_of_output halong₁ htried hfiles
      apply (leads_layout_along halong₁ r.format description hparent).mono
      · exact fun _ _ hw₂ => left_of_drew hw₂ hrecords₁
      · intro failure w₂ hw₂
        have hleft₂ := left_of_drew hw₂.1 hrecords₁
        by_cases hrender : failure.family = .render
        · rw [if_pos hrender]
          exact hleft₂
        · rw [if_neg hrender]
          exact ⟨_, .undrawn htext hclean hdrawn (hw₂.2.resolve_left hrender), hleft₂⟩
    · exact fun _ _ hw' => hw'

theorem leavesOne_write (h : Left r w₀ w tried texts) (htried : tried ≠ [])
    (hdots : ".." ∉ workplace w₀) (e : Excerpt) :
    LeavesOne r several w₀ tried texts e (write r several (World.pathOf (workplace w₀)) e) w := by
  unfold LeavesOne write
  cases hartifact : Request.artifact? r.output e.root several with
  | none =>
    have hpath : r.textPath? several (World.pathOf (workplace w₀)) e.root = none := by
      simp [Request.textPath?, hartifact]
    refine leads_throw_bind ⟨[], .nameless hpath, ?_⟩
    simpa using h
  | some artifact =>
    show LeavesOne r several w₀ tried texts e (if r.isPlain then writePlain e artifact
      else writeDrawing e artifact r (World.pathOf (workplace w₀))) w
    cases hplain : r.isPlain with
    | true => exact leavesOne_writePlain h htried hplain hartifact
    | false => exact leavesOne_writeDrawing h htried hdots hplain hartifact

end writing

/-! ## Roots in a row -/

/-- The excerpt of a root, if something is left of it. -/
def excerptOf (g : Graph) (r : Request) (styling : Styling) (screen : Screen) (name : String) :
    List Excerpt :=
  ((Excerpt.walk g r styling screen name).walk.map (Excerpt.ofWalk r.drawing)).toOption.toList

/-- The excerpts of roots in a row, without those of which nothing is left. Each is drawn with the
    attributes and the filters that the ones before it leave. -/
def excerpts (g : Graph) (r : Request) (styling : Styling) (screen : Screen) :
    List String → List Excerpt
  | [] => []
  | name :: names =>
    let outcome := Excerpt.walk g r styling screen name
    excerptOf g r styling screen name ++ excerpts g r outcome.styling outcome.screen names

/-- A row of roots comes to an excerpt, after those of the roots before it. -/
def ComesTo (g : Graph) (r : Request) (styling : Styling) (screen : Screen) (names : List String)
    (before : List Excerpt) (e : Excerpt) : Prop :=
  ∃ front after, names = front ++ e.root :: after ∧ excerpts g r styling screen front = before
    ∧ excerpts g r styling screen (front ++ [e.root]) = before ++ [e]

section row
variable {several : Bool} {w₀ : World} {tried : List Excerpt} {texts : List (Path × List UInt8)}
  {styling : Styling} {screen : Screen} {name : String} {names : List String}

theorem excerptOf_of_ok {w : Walk} (h : (Excerpt.walk g r styling screen name).walk = .ok w) :
    excerptOf g r styling screen name = [Excerpt.ofWalk r.drawing w] := by
  rw [excerptOf, h]
  rfl

theorem excerptOf_of_error {fault : WalkFault}
    (h : (Excerpt.walk g r styling screen name).walk = .error fault) :
    excerptOf g r styling screen name = [] := by
  rw [excerptOf, h]
  rfl

theorem ComesTo.head {e : Excerpt} (h : excerptOf g r styling screen e.root = [e])
    (names : List String) : ComesTo g r styling screen (e.root :: names) [] e := by
  refine ⟨[], names, rfl, rfl, ?_⟩
  show excerptOf g r styling screen e.root ++ [] = [e]
  rw [h]
  rfl

theorem ComesTo.cons {before : List Excerpt} {e : Excerpt}
    (h : ComesTo g r (Excerpt.walk g r styling screen name).styling
      (Excerpt.walk g r styling screen name).screen names before e) :
    ComesTo g r styling screen (name :: names) (excerptOf g r styling screen name ++ before) e := by
  obtain ⟨front, after, rfl, rfl, hlast⟩ := h
  refine ⟨name :: front, after, rfl, rfl, ?_⟩
  show excerptOf g r styling screen name ++ excerpts g r _ _ (front ++ [e.root]) = _
  rw [hlast, List.append_assoc]

/-- Working on the world leaves the attributes. -/
theorem leads_onWorld_styling {α : Type} (x : Action α) (s : Station) :
    Leads (Serving.onWorld x) s (fun _ s' => s'.styling = s.styling)
      fun _ s' => s'.styling = s.styling := by
  unfold Leads Serving.onWorld
  cases x s.world with
  | ok a w => rfl
  | error e w => rfl

theorem leads_onWorld_note_left {s : Station} (h : Left r w₀ s.world tried texts)
    (part : Part) (level : Level) (text : String) {F : Failure → Station → Prop} :
    Leads (Serving.onWorld (Action.note part level text)) s
      (fun _ s' => Left r w₀ s'.world tried texts ∧ s'.styling = s.styling) F := by
  have hnote := leads_onWorld (leads_note_left h part level text (F := fun _ _ => False))
  apply (hnote.and (leads_onWorld_styling _ s)).mono
  · exact fun _ _ h => h
  · exact fun _ _ h => h.1.elim

theorem leads_draw_left {s : Station} (h : Left r w₀ s.world tried texts)
    (screen : Screen) (name : String) {F : Failure → Station → Prop} :
    Leads (draw g r screen name) s
      (fun drawn s' => Left r w₀ s'.world tried texts
        ∧ drawn = ((Excerpt.walk g r s.styling screen name).walk.map (Excerpt.ofWalk r.drawing),
            (Excerpt.walk g r s.styling screen name).screen)
        ∧ s'.styling = (Excerpt.walk g r s.styling screen name).styling) F := by
  apply leads_draw_of (P := fun w' => Left r w₀ w' tried texts)
  · intro w' text hw'
    exact leads_note_left hw' _ _ _
  · exact h

/-- The texts that excerpts leave, in their order. -/
def textsOf (r : Request) (several : Bool) (es : List Excerpt) : List (Path × List UInt8) :=
  es.filterMap (leftBy r several)

theorem textsOf_concat (r : Request) (several : Bool) (es : List Excerpt) (e : Excerpt) :
    textsOf r several (es ++ [e]) = textsOf r several es ++ (leftBy r several e).toList := by
  rw [textsOf, List.filterMap_append]
  cases hleft : leftBy r several e with
  | none => simp [hleft, textsOf]
  | some text => simp [hleft, textsOf]

/-- A computation on roots in a row leaves what it should. If all goes well the excerpts of the
    roots are written, after some that were written before. If not, it breaks off over the excerpt of
    one of them, after those before it were written. -/
def LeavesRow {α : Type} (g : Graph) (r : Request) (several : Bool) (w₀ : World)
    (done : List Excerpt) (styling : Styling) (screen : Screen) (names : List String)
    (x : Serving α) (s : Station) : Prop :=
  Leads x s
    (fun _ s' => Left r w₀ s'.world (done ++ excerpts g r styling screen names)
      (textsOf r several (done ++ excerpts g r styling screen names)))
    fun failure s' => ∃ before e rest, ComesTo g r styling screen names before e
      ∧ BreaksOff r several (World.pathOf (workplace w₀)) e failure rest
      ∧ Left r w₀ s'.world (done ++ before ++ [e]) (textsOf r several (done ++ before) ++ rest)

/-- After the first root come the others, and their results after its own. -/
theorem LeavesRow.cons {done : List Excerpt} {s : Station} {x : Serving (List Excerpt)}
    (h : LeavesRow g r several w₀ (done ++ excerptOf g r styling screen name)
      (Excerpt.walk g r styling screen name).styling
      (Excerpt.walk g r styling screen name).screen names x s) (first : Excerpt) :
    LeavesRow g r several w₀ done styling screen (name :: names)
      (do
        let others ← x
        return first :: others) s := by
  have hall : done ++ excerpts g r styling screen (name :: names)
      = done ++ excerptOf g r styling screen name
        ++ excerpts g r (Excerpt.walk g r styling screen name).styling
          (Excerpt.walk g r styling screen name).screen names := by
    rw [List.append_assoc]
    rfl
  unfold LeavesRow at h ⊢
  rw [hall]
  apply (h.mono (fun _ _ h => h) fun failure s' hs' => ?_).bind
  · intro others s' hs'
    exact leads_pure hs'
  · obtain ⟨before, e, rest, hcomes, hbreaks, hs'⟩ := hs'
    refine ⟨excerptOf g r styling screen name ++ before, e, rest, hcomes.cons, hbreaks, ?_⟩
    rw [← List.append_assoc done]
    exact hs'

/-- Roots in a row. The induction carries what was written before them. -/
theorem leavesRow_work (hdots : ".." ∉ workplace w₀) (names : List String)
    (hnames : ∀ n ∈ names, g.contains n = true) (screen : Screen) {done : List Excerpt}
    {s : Station} (h : Left r w₀ s.world done (textsOf r several done)) :
    LeavesRow g r several w₀ done s.styling screen names
      (work g r several (World.pathOf (workplace w₀)) screen names) s := by
  induction names generalizing screen s done with
  | nil =>
    have hnil : done ++ excerpts g r s.styling screen [] = done := List.append_nil done
    unfold work LeavesRow
    rw [hnil]
    exact leads_pure h
  | cons name names ih =>
    obtain ⟨hname, hrest⟩ := List.forall_mem_cons.mp hnames
    -- each root leaves the attributes and the filters with which the next one is drawn
    have hothers : ∀ (first : Excerpt) (s' : Station),
        s'.styling = (Excerpt.walk g r s.styling screen name).styling →
        Left r w₀ s'.world (done ++ excerptOf g r s.styling screen name)
          (textsOf r several (done ++ excerptOf g r s.styling screen name)) →
        LeavesRow g r several w₀ done s.styling screen (name :: names) (do
          let others ← work g r several (World.pathOf (workplace w₀))
            (Excerpt.walk g r s.styling screen name).screen names
          return first :: others) s' := by
      intro first s' hstyling hs'
      have hrow := ih hrest (Excerpt.walk g r s.styling screen name).screen hs'
      rw [hstyling] at hrow
      exact hrow.cons first
    unfold work
    apply (leads_draw_left h screen name).bind
    intro drawn s₁ hs₁
    obtain ⟨hleft, rfl, hstyling⟩ := hs₁
    cases hwalk : (Excerpt.walk g r s.styling screen name).walk with
    | error fault =>
      -- the goal is out of reach, so that nothing is left of the root, and nothing is written
      obtain ⟨origin, goal, takenBack, -, rfl⟩ := noPath_of_walk hname hwalk
      have hnone : excerptOf g r s.styling screen name = [] := excerptOf_of_error hwalk
      rw [hnone, List.append_nil] at hothers
      refine (leads_onWorld_note_left hleft _ _ _).bind fun _ s₂ hs₂ => ?_
      exact hothers _ s₂ (hs₂.2.trans hstyling) hs₂.1
    | ok w =>
      have hone : excerptOf g r s.styling screen name = [Excerpt.ofWalk r.drawing w] :=
        excerptOf_of_ok hwalk
      have hroot : (Excerpt.ofWalk r.drawing w).root = name := root_of_ok hwalk
      rw [hone] at hothers
      have hwrite : LeavesOne r several w₀ (done ++ [Excerpt.ofWalk r.drawing w])
          (textsOf r several done) (Excerpt.ofWalk r.drawing w)
          (write r several (World.pathOf (workplace w₀)) (Excerpt.ofWalk r.drawing w)) s₁.world :=
        leavesOne_write (hleft.tries _) (by simp) hdots _
      unfold LeavesOne at hwrite
      rw [← textsOf_concat] at hwrite
      refine (((leads_onWorld hwrite).and (leads_onWorld_styling _ s₁)).mono (fun _ _ h => h)
        fun failure s₂ hs₂ => ?_).bind fun e s₂ hs₂ => ?_
      · obtain ⟨⟨rest, hbreaks, hs₂⟩, -⟩ := hs₂
        refine ⟨[], Excerpt.ofWalk r.drawing w, rest, ?_, hbreaks, ?_⟩
        · have hhead := ComesTo.head (hroot.symm ▸ hone) names
          rw [hroot] at hhead
          exact hhead
        · rw [List.append_nil]
          exact hs₂
      · exact hothers e s₂ (hs₂.2.trans hstyling) hs₂.1

end row

/-! ## A request -/

/-- What remains of a request that tried to write some excerpts and left some texts. The directory
    of the working files is gone, with all that was in it, but for what the system keeps of it.
    Everywhere else, but for the log file, the disk is told by a journal that holds just the texts
    that are left, in their order, and drawings of the engine. Where no call of the engine named a
    file for its drawing, the texts tell alone: there stands the last one that was written there;
    and where none was, all is as it was, or a directory above the output was missing. -/
structure Remains (r : Request) (w w' : World) (kept : Location → Bool) (tried : List Excerpt)
    (texts : List (Path × List UInt8)) : Prop where
  gone : ∀ l, workplace w <+: l → kept l = false → w'.disk.find? l = none
  journal : ∃ calls journal, w'.calls = w.calls ++ calls
    ∧ Records w.engine calls texts journal
    ∧ Disk.Told w.base (Aside w) (Needed r w tried) journal w.disk w'.disk
  undrawn : ∀ l, ¬ Aside w l →
    (∀ c ∈ w'.calls.drop w.calls.length, ∀ p, c.DrawsInto p → p.location w.base ≠ l) →
    Disk.Change (Needed r w tried l) (w.disk.find? l) (w'.disk.find? l)
      (Write.lastAt w.base l (texts.map fun t => .text t.1 t.2))

/-- How far a request comes with its roots: with what failure it breaks off, if it does, which
    excerpts it has tried to write by then, and which texts are left. -/
inductive Reaches (g : Graph) (r : Request) (several : Bool) (place : Path) (styling : Styling)
    (screen : Screen) (names : List String) :
    Option Failure → List Excerpt → List (Path × List UInt8) → Prop where
  /-- The excerpts of all roots are written. -/
  | all : Reaches g r several place styling screen names none (excerpts g r styling screen names)
      (textsOf r several (excerpts g r styling screen names))
  /-- It breaks off over the excerpt of a root. -/
  | brokenOff {before : List Excerpt} {e : Excerpt} {failure : Failure}
      {rest : List (Path × List UInt8)} (hcomes : ComesTo g r styling screen names before e)
      (hbreaks : BreaksOff r several place e failure rest) :
      Reaches g r several place styling screen names (some failure) (before ++ [e])
        (textsOf r several before ++ rest)

section request
variable {several : Bool} {w w' : World} {tried : List Excerpt} {texts : List (Path × List UInt8)}

theorem workplace_ne_nil (w : World) : workplace w ≠ [] := by simp [workplace]

/-- In the end the directory of the working files is removed. -/
theorem Left.remains (h : Left r w w' tried texts) (kept : Location → Bool) :
    Remains r w { w' with disk := w'.disk.removeTree (workplace w) kept } kept tried texts := by
  obtain ⟨calls, journal, halong, hrecords⟩ := h
  have htold : Disk.Told w.base (Aside w) (Needed r w tried) journal w.disk
      (w'.disk.removeTree (workplace w) kept) := by
    apply halong.told.aside
    intro l hl
    rw [Disk.find?_removeTree _ (workplace_ne_nil w), if_neg]
    exact fun hbelow => hl (Or.inl hbelow.1)
  refine ⟨?_, ⟨calls, journal, halong.calls, hrecords, htold⟩, ?_⟩
  · intro l hl hkept
    rw [Disk.find?_removeTree _ (workplace_ne_nil w), if_pos ⟨hl, hkept⟩]
  · intro l hl hcalls
    have hnamed : ∀ p octets, .drawing p octets ∈ journal → p.location w.base ≠ l := by
      intro p octets hp
      obtain ⟨-, c, hc, hinto⟩ := hrecords.drawings p octets hp
      refine hcalls c ?_ p hinto
      show c ∈ w'.calls.drop w.calls.length
      rw [halong.calls, List.drop_left]
      exact hc
    rw [← hrecords.texts, ← Write.lastAt_of_undrawn hnamed]
    exact htold l hl

/-- Where the engine has nothing to draw, the texts tell alone. -/
theorem Remains.change_of_idle {kept : Location → Bool} (h : Remains r w w' kept tried texts)
    (hidle : ∀ octets, ¬ w.engine.Draws octets) {l : Location} (hl : ¬ Aside w l) :
    Disk.Change (Needed r w tried l) (w.disk.find? l) (w'.disk.find? l)
      (Write.lastAt w.base l (texts.map fun t => .text t.1 t.2)) := by
  obtain ⟨calls, journal, -, hrecords, htold⟩ := h.journal
  have hundrawn : ∀ p octets, .drawing p octets ∈ journal → p.location w.base ≠ l := by
    intro p octets hp
    exact absurd (hrecords.drawings p octets hp).1 (hidle octets)
  rw [← hrecords.texts, ← Write.lastAt_of_undrawn hundrawn]
  exact htold l hl

/-- The working files of a request get a directory of their own. -/
theorem leads_makePlace_along (r : Request) (s : Station) (hdots : ".." ∉ workplace s.world) :
    Leads (Serving.onWorld (Action.onDisk .noWorkingDirectory
        (OnDisk.makeDirectory [] (World.pathOf (workplace s.world))))) s
      (fun _ s' => Along r s.world s'.world [] [] [] ∧ s'.styling = s.styling)
      fun e s' => s'.world = s.world ∧ ∃ cause, e = .noWorkingDirectory cause := by
  let path := World.pathOf (workplace s.world)
  have hlocation : ∀ base, path.location base = workplace s.world :=
    World.location_pathOf hdots
  have hmaking : Leads (Action.onDisk .noWorkingDirectory (OnDisk.makeDirectory [] path)) s.world
      (fun _ w => Along r s.world w [] [] [])
      fun e w => w = s.world ∧ ∃ cause, e = .noWorkingDirectory cause := by
    unfold Leads
    have hdirectory := OnDisk.leads_makeDirectory [] path s.world.disk
    have hput := OnDisk.leads_makeDirectory_put [] path s.world.disk
    rcases (hdirectory.and hput).cases with ⟨_, d, hrun, hthere, hd⟩ | ⟨cause, d, hrun, hd⟩
    · rw [Action.onDisk_of_ok _ hrun]
      refine ⟨rfl, rfl, List.Subset.refl _, ?_, hthere.1.limits, hthere.2.1, ?_⟩
      · exact (List.append_nil _).symm
      · -- the directory itself lies aside
        have haside : Aside s.world (workplace s.world) := Or.inl (List.prefix_refl _)
        show Disk.Told _ _ _ _ _ d
        rw [hd.2, hlocation]
        exact (Disk.Told.refl _).put_aside haside _
    · rw [Action.onDisk_of_error _ hrun]
      obtain rfl : d = s.world.disk := hd.2
      exact ⟨rfl, cause, rfl⟩
  have hworld := leads_onWorld hmaking
  apply (hworld.and (leads_onWorld_styling _ s)).mono
  · exact fun _ _ h => h
  · exact fun _ _ h => h.1

/-- How a request that was accepted ends, from the making of the directory for its working files to
    its removal. -/
inductive Ends (g : Graph) (r : Request) (several : Bool) (filters : Filters) (names : List String)
    (s : Station) : Option Failure → World → Prop where
  /-- There is no place for working files, and all is as it was. -/
  | noPlace (cause : SystemFault) :
      Ends g r several filters names s (some (.noWorkingDirectory cause)) s.world
  /-- The directory is removed, and what comes of the roots is what comes of the request. -/
  | removed {outcome : Option Failure} {tried : List Excerpt} {texts : List (Path × List UInt8)}
      {w' : World}
      (hreaches : Reaches g r several (World.pathOf (workplace s.world)) s.styling { filters } names
        outcome tried texts)
      (hremains : Remains r s.world w' (fun _ => false) tried texts) :
      Ends g r several filters names s outcome w'
  /-- A remnant of the directory is left, and that is the failure, whatever came of the roots. -/
  | remnant {outcome : Option Failure} {tried : List Excerpt} {texts : List (Path × List UInt8)}
      {w' : World} {tree : Tree} {remnant : Remnant}
      (hremoving : s.world.disk.limits.removing tree (workplace s.world) = some remnant)
      (hreaches : Reaches g r several (World.pathOf (workplace s.world)) s.styling { filters } names
        outcome tried texts)
      (hremains : Remains r s.world w' remnant.kept tried texts) :
      Ends g r several filters names s
        (some (.system (.refused (.limited remnant.reason) remnant.path))) w'

/-- The roots of a request, from the making of the directory for its working files to its end. -/
theorem leads_rooted_ends (several : Bool) (filters : Filters) {names : List String} (s : Station)
    (hdots : ".." ∉ workplace s.world) (hnames : ∀ n ∈ names, g.contains n = true) :
    Leads (withWorkplace fun place => work g r several place { filters } names) s
      (fun _ s' => Ends g r several filters names s none s'.world)
      fun failure s' => Ends g r several filters names s (some failure) s'.world := by
  -- the directory is removed after whatever comes of the roots
  let reached (outcome : Option Failure) (w : World) : Prop :=
    ∃ tried texts, Reaches g r several (World.pathOf (workplace s.world)) s.styling { filters } names
      outcome tried texts ∧ Left r s.world w tried texts
  have hremoval : ∀ outcome (s' : Station), reached outcome s'.world →
      Leads (removal (workplace s.world)) s'
        (fun _ s'' => Ends g r several filters names s outcome s''.world)
        fun failure s'' => Ends g r several filters names s (some failure) s''.world := by
    rintro outcome s' ⟨tried, texts, hreaches, hleft⟩
    apply (leads_removal (workplace s.world) s').mono
    · rintro _ _ rfl
      exact .removed hreaches (hleft.remains _)
    · rintro _ _ ⟨remnant, hremnant, rfl, rfl⟩
      obtain ⟨calls, journal, halong, -⟩ := id hleft
      rw [halong.limits] at hremnant
      exact .remnant hremnant hreaches (hleft.remains _)
  rw [withWorkplace_eq]
  apply leads_get.bind
  rintro _ _ ⟨rfl, rfl⟩
  apply ((leads_makePlace_along r s hdots).mono (fun _ _ h => h) fun e s' hs' => ?_).bind
  · rintro _ s₁ ⟨halong, hstyling⟩
    have hbegun : Left r s.world s₁.world [] (textsOf r several []) :=
      ⟨[], [], halong, rfl, nofun⟩
    have hrow := leavesRow_work hdots names hnames { filters } hbegun
    rw [hstyling] at hrow
    apply leads_clearing (P := fun _ s' => reached none s'.world)
      (F := fun failure s' => reached (some failure) s'.world)
    · apply hrow.mono
      · exact fun _ s' hs' => ⟨_, _, .all, hs'⟩
      · rintro failure s' ⟨before, e, rest, hcomes, hbreaks, hleft⟩
        exact ⟨_, _, .brokenOff hcomes hbreaks, hleft⟩
    · exact fun _ s' hs' => hremoval none s' hs'
    · exact fun failure s' hs' => hremoval (some failure) s' hs'
  · obtain ⟨hsame, cause, rfl⟩ := hs'
    rw [hsame]
    exact .noPlace cause

/-- What a request leaves on the disk, however it ends. If it is refused, all is as it was. If not,
    there may be no place for its working files, and all is as it was. Or the directory of its
    working files is removed in the end, or what the system lets go of it, and the texts that are
    left are those of the excerpts of its roots, up to the one over which it broke off. Of that one
    there is nothing, or what the file took of its text after it was opened. The place of the
    working files is a location, which leads down by names and never up. -/
theorem leaves_just_texts (g : Graph) (r : Request) (s : Station)
    (hdots : ".." ∉ workplace s.world) :
    match handle g r s with
    | .ok _ s' => ∃ filters names, asked g r s.world.fits = .ok (filters, names)
      ∧ Ends g r (1 < names.length) filters names s none s'.world
    | .error failure s' => (asked g r s.world.fits = .error failure ∧ s'.world = s.world)
      ∨ ∃ filters names, asked g r s.world.fits = .ok (filters, names)
        ∧ Ends g r (1 < names.length) filters names s (some failure) s'.world := by
  cases hasked : asked g r s.world.fits with
  | error failure =>
    rw [handle_of_refused hasked]
    exact Or.inl ⟨rfl, rfl⟩
  | ok passed =>
    obtain ⟨filters, names⟩ := passed
    obtain ⟨-, -, -, hroots⟩ := asked_eq_ok_iff.mp hasked
    have hleads := leads_rooted_ends (r := r) (1 < names.length) filters s hdots
      (contains_of_roots hroots)
    rw [handle_of_asked hasked]
    rcases hleads.cases with ⟨es, s', hrun, hends⟩ | ⟨failure, s', hrun, hends⟩
    · rw [hrun]
      exact ⟨filters, names, rfl, hends⟩
    · rw [hrun]
      exact Or.inr ⟨filters, names, rfl, hends⟩

end request

/-! ## A text that is cut short -/

/-- A text that is to stand in one file. -/
def overFile : Request := { roots := ["main"], output := Path.ofString "out.txt", format := "plain" }

/-- A station with some files on its disk, which takes in nothing. -/
def fullStation (files : Tree) (trouble : Trouble) : Station :=
  { world := { disk := {
    entries := files
    limits := { filling := fun _ _ _ => some ⟨0, trouble⟩ } } } }

/-- The failure of a text of which nothing is taken in. -/
def cutFailure (trouble : Trouble) : Failure :=
  if trouble.fault.isOfSystem then .cannotWrite overFile.output trouble.fault
  else .system trouble.fault

section cut
variable {files : Tree} {trouble : Trouble}

/-- The file is opened, and takes nothing in. -/
theorem write_overFile (e : Excerpt) {w : World} (hbase : w.base = [])
    (hlimits : w.disk.limits = (fullStation files trouble).world.disk.limits)
    (hfree : w.disk.find? ["out.txt"] = none
      ∨ ∃ content, w.disk.find? ["out.txt"] = some (.file content)) (place : Path) :
    ∃ d, write overFile false place e w = .error (cutFailure trouble) { w with disk := d }
      ∧ d.find? ["out.txt"] = some (.file (.plain [])) ∧ d.limits = w.disk.limits := by
  have hhere : w.disk.isDirectory w.base overFile.output.parent = true := by
    rw [hbase]
    exact Disk.isDirectory_iff.mpr ⟨by decide, [], by rfl, rfl⟩
  have hlocate : w.disk.locate w.base overFile.output = .ok ["out.txt"] := by
    rw [hbase, Disk.locate, if_neg (by decide)]
    exact Disk.follow_name rfl (by rw [hlimits]; rfl) (by decide) (by decide)
  have hopening : w.disk.limits.opening w.disk.entries ["out.txt"] = none := by
    rw [hlimits]
    rfl
  have hfilling : ∀ tree,
      w.disk.limits.filling tree ["out.txt"] (Text.Utf8.encode e.description)
        = some ⟨0, trouble⟩ := by
    intro tree
    rw [hlimits]
    rfl
  obtain ⟨d, hchanged, hfound, hcut⟩ :=
    OnDisk.writeFile_of_free (by decide) hlocate hfree hopening hfilling
  refine ⟨d, ?_, hfound, hchanged.limits⟩
  have hwriting : (do
      OnDisk.ensureDirectories w.base overFile.output.parent
      OnDisk.writeFile w.base overFile.output (Text.Utf8.encode e.description)) w.disk
      = .error trouble.fault d :=
    (bind_of_ok (OnDisk.ensureDirectories_of_isDirectory hhere)).trans hcut
  have htext : writeText overFile.output e.description w
      = .error (cutFailure trouble) { w with disk := d } := by
    unfold writeText
    exact (bind_of_ok rfl).trans (Action.onDisk_of_error _ hwriting)
  have hplain : writePlain e overFile.output w
      = .error (cutFailure trouble) { w with disk := d } := by
    unfold writePlain
    rw [if_neg (by decide)]
    exact bind_of_error htext
  exact hplain

/-- The text does not get into its file, and what was there before is gone. -/
theorem handle_overFile (hplace : files.lookup ["callslice-XXXXXXXX"] = none)
    (hfree : files.lookup ["out.txt"] = none
      ∨ ∃ content, files.lookup ["out.txt"] = some (.file content)) :
    ∃ s', handle loneGraph overFile (fullStation files trouble)
        = .error (cutFailure trouble) s'
      ∧ s'.world.disk.find? ["out.txt"] = some (.file (.plain [])) := by
  let w := (fullStation files trouble).world
  have hclean : (World.pathOf ["callslice-XXXXXXXX"]).Clean := by decide
  have hlocate : w.disk.locate [] (World.pathOf ["callslice-XXXXXXXX"])
      = .ok ["callslice-XXXXXXXX"] := by
    rw [Disk.locate, if_neg (by decide)]
    exact Disk.follow_name rfl rfl (by decide) (by decide)
  have hmade : OnDisk.makeDirectory [] (World.pathOf (workplace w)) w.disk
      = .ok () (w.disk.put ["callslice-XXXXXXXX"] .directory) :=
    OnDisk.makeDirectory_of_missing hclean hlocate hplace rfl
  let begun : World := { w with disk := w.disk.put ["callslice-XXXXXXXX"] .directory }
  have helsewhere : begun.disk.find? ["out.txt"] = w.disk.find? ["out.txt"] :=
    Disk.find?_put_of_ne (by decide) _
  have hmain : loneGraph.contains "main" = true := by rfl
  obtain ⟨e, screen, notes, styling, -, hdraw⟩ :=
    draw_of_no_log (r := overFile) (s := { world := begun }) hmain rfl {} rfl
  have hsame : ({ begun with notes } : World).disk.limits
      = (fullStation files trouble).world.disk.limits := rfl
  obtain ⟨d, hwrite, hfound, hlimits⟩ :=
    write_overFile e rfl hsame (helsewhere ▸ hfree) (World.pathOf (workplace w))
  have hwork : work loneGraph overFile false (World.pathOf (workplace w)) {} ["main"]
      { world := begun } = .error (cutFailure trouble) ⟨{ begun with notes, disk := d }, styling⟩ := by
    unfold work
    exact (bind_of_ok hdraw).trans (bind_of_error (onWorld_of_error hwrite))
  have hplaced := withWorkplace_of_error (s := fullStation files trouble)
    (x := fun place => work loneGraph overFile false place {} ["main"]) hmade hwork
    fun _ _ => by rw [hlimits]; rfl
  have hasked : asked loneGraph overFile w.fits = .ok ({}, ["main"]) := by rfl
  refine ⟨_, (handle_of_asked hasked).trans hplaced, ?_⟩
  -- the file does not lie among the working files
  show (d.removeTree (workplace w)).find? _ = _
  have haside : ¬ ["callslice-XXXXXXXX"] <+: ["out.txt"] := by decide
  rw [Disk.find?_removeTree _ (workplace_ne_nil w), if_neg fun h => haside h.1, hfound]

end cut

/-- A text that does not get into its file leaves it empty all the same: where there was none, and
    where there was an earlier one. -/
theorem cut_text_empties :
    (∃ s', handle loneGraph overFile
        (fullStation [] (.notEncoded "surrogates not allowed"))
        = .error (.system (.notEncoded "surrogates not allowed")) s'
      ∧ s'.world.disk.find? ["out.txt"] = some (.file (.plain [])))
    ∧ ∃ s', handle loneGraph overFile
        (fullStation [(["out.txt"], .file (.plain [104, 105]))] (.refused .noSpace))
        = .error (.cannotWrite overFile.output (.broken .noSpace)) s'
      ∧ s'.world.disk.find? ["out.txt"] = some (.file (.plain [])) := by
  constructor
  · exact handle_overFile (by decide) (.inl (by decide))
  · exact handle_overFile (by decide) (.inr ⟨.plain [104, 105], by decide⟩)

/-! ## A drawing that fails -/

/-- Whatever fails of a drawing is told in the result once its description is kept, provided that
    the system takes the words that the engine is handed, and that what the engine says is text. -/
theorem leads_writeDrawing_kept {r : Request} {e : Excerpt} {artifact description : Path}
    {w w₁ : World} (place : Path) (hkeep : r.keep = true)
    (hwritten : writeText description e.description w = .ok () w₁)
    (hformat : r.format ∈ Request.drawnFormats) (hprogram : '\x00' ∉ w₁.engineProgram.toList)
    (hclean : artifact.Clean) (hthere : w₁.disk.isDirectory w₁.base artifact.parent = true)
    (hbeside : artifact.withSuffix? Request.descriptionSuffix = some description)
    (hwords : ∀ fault drawn, .garbled fault drawn ∉ w₁.engine.replies) :
    Leads (writeDrawing e artifact r place) w (fun _ w' => w₁.Onward w') fun _ _ => False := by
  have hlayout : Leads (Layout.run none r.format description artifact) w₁
      (fun _ w' => w₁.Onward w') fun failure w' => w₁.Onward w' ∧ failure.family = .render := by
    apply (leads_layout w₁ r.format description artifact).mono
    · exact fun _ _ h => h
    · rintro failure w' ⟨hw', hrender | hunlaid⟩
      · exact ⟨hw', hrender⟩
      · cases hunlaid with
        | words hnull hword =>
          have hdescription : description.Clean := Request.clean_kept hclean hbeside
          exact absurd hnull (clean_command hformat hprogram hdescription hclean _ hword)
        | directory hmissing => simp [hthere] at hmissing
        | garbled hreply => exact absurd hreply (hwords _ _)
  apply leads_writeDrawing_of (P := w₁.Onward)
  · intro w' level text hw'
    exact Action.leads_note hw' _ _ _
  · intro _ hnone
    rw [hnone] at hbeside
    cases hbeside
  · intro kept hkept description'
    obtain rfl : description' = description := by
      cases hkept with
      | beside _ hbeside' => exact Option.some.inj (hbeside'.symm.trans hbeside)
      | nowhere hnot => simp [hnot] at hkeep
    apply leads_of_ok hwritten
    apply hlayout.mono
    · exact fun _ _ h => h
    · intro failure w₂ h
      rw [if_pos h.2]
      exact h.1

/-- A layout engine that fails and draws nothing. -/
def failingEngine : Station := { world := { engine := .scripted (.ended 1 none none) [] } }

/-- A drawing whose description is kept. -/
def keptText : Request := { roots := ["main"], output := Path.ofString "out.svg", keep := true }

/-- The disk with the directory for working files. -/
def placeDisk : Disk := { entries := [(["callslice-XXXXXXXX"], .directory)] }

/-- The description is written, and what the engine says is told in the result. -/
theorem leads_write_keptText (e : Excerpt) (notes : List Note) :
    Leads (write keptText false (World.pathOf (workplace failingEngine.world)) e)
      { failingEngine.world with disk := placeDisk, notes } (fun _ w' => w'.disk.limits = {})
      fun _ _ => False := by
  have hbeside : keptText.output.withSuffix? Request.descriptionSuffix
      = some { parts := ["out.gv"] } := by decide
  have hhere : ∀ d : Disk, d.isDirectory [] keptText.output.parent = true := by
    intro d
    exact Disk.isDirectory_iff.mpr ⟨by decide, [], by rfl, rfl⟩
  have hprogram : '\x00' ∉ failingEngine.world.engineProgram.toList := by decide
  have hmissing : placeDisk.find? ["out.gv"] = none := by decide
  have hwords : ∀ fault drawn,
      Reply.garbled fault drawn ∉ failingEngine.world.engine.replies := by
    intro fault drawn
    simp [failingEngine, Engine.replies]
  have hclean : ({ parts := ["out.gv"] } : Path).Clean := by decide
  have hthere : placeDisk.isDirectory [] ({ parts := ["out.gv"] } : Path).parent = true := hhere _
  obtain ⟨d, hwritten, hchanged, -⟩ := writeText_of_missing
    (w := { failingEngine.world with disk := placeDisk, notes }) hthere hclean rfl hmissing rfl
    e.description
  have hdrawing := leads_writeDrawing_kept (r := keptText) (e := e)
    (World.pathOf (workplace failingEngine.world)) rfl hwritten (by decide) hprogram (by decide)
    (hhere _) hbeside hwords
  apply hdrawing.mono
  · exact fun _ w' hw' => hw'.disk.limits.trans hchanged.limits
  · exact fun _ _ h => h

/-- The request has a result. -/
theorem leads_keptText :
    Leads (withWorkplace fun place => work loneGraph keptText false place {} ["main"]) failingEngine
      (fun _ _ => True) fun _ _ => False := by
  have hmain : loneGraph.contains "main" = true := by rfl
  have hclean : (World.pathOf (workplace failingEngine.world)).Clean := by decide
  have hlocate : failingEngine.world.disk.locate []
      (World.pathOf (workplace failingEngine.world)) = .ok ["callslice-XXXXXXXX"] := by rfl
  have hmade : OnDisk.makeDirectory [] (World.pathOf (workplace failingEngine.world))
      failingEngine.world.disk = .ok () placeDisk :=
    OnDisk.makeDirectory_of_missing hclean hlocate (by decide) rfl
  let begun : Station := { world := { failingEngine.world with disk := placeDisk } }
  obtain ⟨e, screen, notes, styling, -, hdraw⟩ :=
    draw_of_no_log (r := keptText) (s := begun) hmain rfl {} rfl
  have hwork : Leads (work loneGraph keptText false
      (World.pathOf (workplace failingEngine.world)) {} ["main"]) begun
      (fun _ s => s.world.disk.limits = {}) fun _ _ => False := by
    unfold work
    refine (leads_of_ok (P := fun a s => (.ok e, screen) = a
      ∧ ⟨{ begun.world with notes }, styling⟩ = s) hdraw ⟨rfl, rfl⟩).bind fun a s h => ?_
    obtain ⟨rfl, rfl⟩ := h
    have hwrite := leads_onWorld (s := ⟨{ begun.world with notes }, styling⟩)
      (leads_write_keptText e notes)
    exact hwrite.bind fun _ _ h => leads_pure h
  unfold Leads
  rw [withWorkplace_of_made _ hmade]
  apply leads_clearing hwork
  · intro _ s hlimits
    apply (leads_removal _ s).mono
    · exact fun _ _ _ => trivial
    · rintro _ _ ⟨remnant, hremnant, -⟩
      simp [hlimits] at hremnant
  · exact fun _ _ h => h.elim

/-- The only symbol is drawn. -/
theorem excerpts_keptText :
    ∃ e, e.root = "main" ∧ excerpts loneGraph keptText {} {} ["main"] = [e] := by
  have hmain : loneGraph.contains "main" = true := by rfl
  cases hwalk : (Excerpt.walk loneGraph keptText {} {} "main").walk with
  | error fault =>
    obtain ⟨_, goal, _, hgoal, -⟩ := noPath_of_walk hmain hwalk
    cases hgoal
  | ok w =>
    refine ⟨Excerpt.ofWalk keptText.drawing w, root_of_ok hwalk, ?_⟩
    rw [excerpts, excerptOf_of_ok hwalk]
    rfl

theorem idle_failingEngine (octets : List UInt8) : ¬ failingEngine.world.engine.Draws octets := by
  intro hdraws
  obtain ⟨reply, hreply, drawn, hdrawn, -⟩ := hdraws
  obtain rfl : reply = .ended 1 none none := by
    simpa [failingEngine, Engine.replies] using hreply
  cases hdrawn

/-- The description stands beside the place of the drawing, and the working files are gone. -/
theorem kept_text_remains :
    ".." ∉ workplace failingEngine.world
      ∧ ∃ es s' e, handle loneGraph keptText failingEngine = .ok es s'
        ∧ excerpts loneGraph keptText {} {} ["main"] = [e]
        ∧ s'.world.disk.find? (workplace failingEngine.world) = none
        ∧ s'.world.disk.find? ["out.gv"]
          = some (.file (.plain (Text.Utf8.encode e.description))) := by
  have hdots : ".." ∉ workplace failingEngine.world := by decide
  have hasked : asked loneGraph keptText failingEngine.world.fits = .ok ({}, ["main"]) := by rfl
  obtain ⟨es, s', hrun⟩ : ∃ es s', handle loneGraph keptText failingEngine = .ok es s' := by
    rw [handle_of_asked hasked]
    obtain ⟨es, s', hrun, -⟩ | ⟨_, _, -, hnever⟩ := leads_keptText.cases
    · exact ⟨es, s', hrun⟩
    · exact hnever.elim
  obtain ⟨e, hroot, hone⟩ := excerpts_keptText
  have hleaves := leaves_just_texts loneGraph keptText failingEngine hdots
  rw [hrun] at hleaves
  obtain ⟨filters, names, hasked', hends⟩ := hleaves
  rw [hasked, Except.ok.injEq, Prod.mk.injEq] at hasked'
  obtain ⟨rfl, rfl⟩ := hasked'
  generalize hworld : s'.world = w' at hends
  cases hends with
  | removed hreaches hremains =>
  cases hreaches with
  | all =>
  subst hworld
  refine ⟨hdots, es, s', e, hrun, hone, hremains.gone _ (List.prefix_refl _) rfl, ?_⟩
  have hleft : Request.left? keptText false "main" = some { parts := ["out.gv"] } := by decide
  have htexts : textsOf keptText false (excerpts loneGraph keptText {} {} ["main"])
      = [({ parts := ["out.gv"] }, Text.Utf8.encode e.description)] := by
    rw [hone]
    simp [textsOf, leftBy, hroot, hleft]
  have haside : ¬ Aside failingEngine.world ["out.gv"] := by
    rintro (hplace | ⟨file, hfile, -⟩)
    · revert hplace
      decide
    · cases hfile
  have hchange := hremains.change_of_idle idle_failingEngine haside
  change Disk.Change _ _ _ (Write.lastAt [] _
    (List.map _ (textsOf keptText false (excerpts loneGraph keptText {} {} ["main"])))) at hchange
  rw [htexts, List.map_singleton, Write.lastAt_singleton, if_pos (by rfl)] at hchange
  cases hchange with
  | written _ hafter => exact hafter
  | queued hbefore => cases hbefore

end Service

end CallExcerpt
