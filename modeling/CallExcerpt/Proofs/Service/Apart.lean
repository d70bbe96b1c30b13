import CallExcerpt.Proofs.Command.Sending
import CallExcerpt.Proofs.Service.Serve
import CallExcerpt.Proofs.Success
import CallExcerpt.Proofs.Walk.Screens

/-! # Roots of one request

    The roots of a request share their filters, the attributes of the symbols
    and the directory of working files, and are worked on in a row. None of
    them learns of the others: each gives what it gives on its own.

    * `gives_write`: writing an excerpt changes nothing of what was drawn.
    * `draw_eq`, `extract_eq`: what is drawn does not depend on the world.
    * `forall₂_work`: roots in a row. The styling rests on the lasting
      attributes before each root, and the filters agree with unused ones.
    * `roots_of_ok`, `matching_sorted`: which roots, and in which order.
    * `roots_apart`: all of that for a request.
-/

namespace CallExcerpt

open Styling (Rests)
open Success (Gives gives_pure gives_throw)

/-! ## Writing -/

namespace Excerpt

/-- An excerpt as it was before it was written, and after that. -/
structure Written (e e' : Excerpt) : Prop where
  root : e'.root = e.root
  description : e'.description = e.description
  arrows : e'.arrows = e.arrows
  members : e'.members = e.members
  files : e'.files = e.files
  status : e'.status = e.status ∨ e'.status = .notRendered

/-- What becomes of an excerpt that is written: it is printed, written, or drawn, or the layout
    engine fails. The description of one that is drawn may be kept beside the artifact. -/
inductive WrittenTo (artifact : Path) (e : Excerpt) : Excerpt → Prop where
  /-- It is printed. -/
  | printed : e.WrittenTo artifact e
  /-- It is written as it is. -/
  | plain : e.WrittenTo artifact { e with artifact := some artifact }
  /-- It is drawn. -/
  | drawn (kept : Option Path)
      (hkept : ∀ p ∈ kept, artifact.withSuffix? Request.descriptionSuffix = some p) :
      e.WrittenTo artifact { e with kept, artifact := some artifact }
  /-- It cannot be drawn. -/
  | notRendered (kept : Option Path)
      (hkept : ∀ p ∈ kept, artifact.withSuffix? Request.descriptionSuffix = some p)
      (message : String) :
      e.WrittenTo artifact { e with kept, status := .notRendered, error := some message }

theorem WrittenTo.written {artifact : Path} {e e' : Excerpt} (h : e.WrittenTo artifact e') :
    e.Written e' := by
  cases h with
  | printed => exact ⟨rfl, rfl, rfl, rfl, rfl, .inl rfl⟩
  | plain => exact ⟨rfl, rfl, rfl, rfl, rfl, .inl rfl⟩
  | drawn => exact ⟨rfl, rfl, rfl, rfl, rfl, .inl rfl⟩
  | notRendered => exact ⟨rfl, rfl, rfl, rfl, rfl, .inr rfl⟩

end Excerpt

namespace Service

variable {g : Graph} {r : Request}

theorem gives_action_ofExcept {ε α : Type} (failure : ε → Failure) (x : Except ε α) :
    Gives (Action.ofExcept failure x) (x = .ok ·) := by
  cases x with
  | error e => exact gives_throw _
  | ok a => exact gives_pure rfl

theorem of_named {path : Path} {p? : Option Path} {p : Path} (h : named path p? = .ok p) :
    p? = some p := by
  cases p? with
  | none => cases h
  | some q =>
    cases h
    rfl

theorem gives_writePlain (e : Excerpt) (artifact : Path) :
    Gives (writePlain e artifact) (e.WrittenTo artifact) := by
  unfold writePlain
  split
  · refine Gives.after fun _ => (gives_pure (P := e.WrittenTo artifact) .printed).bind fun a ha => ?_
    exact Gives.after fun _ => gives_pure ha
  · refine Gives.after fun _ => (gives_pure (P := e.WrittenTo artifact) .plain).bind fun a ha => ?_
    exact Gives.after fun _ => gives_pure ha

theorem gives_layout (engine : Option String) (format : String) (description output : Path) :
    Gives (Layout.run engine format description output) (· = output) := by
  unfold Layout.run
  refine Gives.after fun w => Gives.after fun _ => Gives.after fun _ => Gives.after fun reply => ?_
  cases reply with
  | unavailable reason => exact gives_throw _
  | garbled fault drawn => exact gives_throw _
  | ended code complaints drawn =>
    show Gives (ite (code ≠ 0) _ _) _
    by_cases hcode : code ≠ 0
    · rw [if_pos hcode]
      exact gives_throw _
    · rw [if_neg hcode]
      exact gives_pure rfl

theorem gives_writeDrawing (e : Excerpt) (artifact : Path) (workplace : Path) :
    Gives (writeDrawing e artifact r workplace) (e.WrittenTo artifact) := by
  unfold writeDrawing
  -- once it is settled where the description is kept
  extract_lets drawn
  have hdrawn : ∀ kept : Option Path,
      (∀ p ∈ kept, artifact.withSuffix? Request.descriptionSuffix = some p) →
        Gives (drawn kept) (e.WrittenTo artifact) := by
    intro kept hkept
    -- both the layout and what is done about its failure leave the block at once
    let leaves (x : Except Excerpt Excerpt) : Prop :=
      match x with
      | .ok e' | .error e' => e.WrittenTo artifact e'
    refine Gives.after fun _ => (Gives.tryCatch (P := leaves) ?_ fun failure => ?_).bind ?_
    · refine (gives_layout _ _ _ _).bind fun p hp => Gives.after fun _ => gives_pure ?_
      rw [hp]
      exact .drawn kept hkept
    · have hfailed : Gives (pure (.error { e with
          kept, status := .notRendered, error := some failure.message }) :
            Action (Except Excerpt Excerpt)) leaves :=
        gives_pure (.notRendered kept hkept failure.message)
      split
      · refine Gives.after fun _ => ?_
        split
        · exact Gives.after fun _ => hfailed
        · exact hfailed
      · exact (gives_throw (P := fun _ => False) failure).bind fun _ h => h.elim
    · intro x hx
      cases x with
      | ok e' => exact gives_pure hx
      | error e' => exact gives_pure hx
  split
  · refine (gives_action_ofExcept id _).bind fun p hp => ?_
    refine (gives_pure (P := (· = some p)) rfl).bind fun kept hkept => hdrawn kept fun q hq => ?_
    obtain rfl : p = q := by simpa [hkept] using hq
    exact of_named hp
  · refine (gives_pure (P := (· = none)) rfl).bind fun kept hkept => hdrawn kept fun q hq => ?_
    simp [hkept] at hq

/-- Writing changes nothing of what was drawn, and may tell that it was not rendered. -/
theorem gives_write (several : Bool) (workplace : Path) (e : Excerpt) :
    Gives (write r several workplace e) fun e' =>
      ∃ artifact, Request.artifact? r.output e.root several = some artifact
        ∧ e.WrittenTo artifact e' := by
  unfold write
  refine (gives_action_ofExcept id _).bind fun artifact hartifact => ?_
  have hartifact := of_named hartifact
  split
  · exact (gives_writePlain e artifact).mono fun e' h => ⟨artifact, hartifact, h⟩
  · exact (gives_writeDrawing e artifact workplace).mono fun e' h => ⟨artifact, hartifact, h⟩

theorem gives_onWorld {α : Type} {x : Action α} {P : α → Prop} (h : Gives x P) :
    Gives (Serving.onWorld x) P := by
  intro s a s' hrun
  unfold Serving.onWorld at hrun
  cases hx : x s.world with
  | error e world =>
    rw [hx] at hrun
    cases hrun
  | ok a' world =>
    rw [hx] at hrun
    cases hrun
    exact h s.world a world hx

theorem styling_of_onWorld {α : Type} {x : Action α} {s s' : Station} {a : α}
    (h : Serving.onWorld x s = .ok a s') : s'.styling = s.styling := by
  unfold Serving.onWorld at h
  cases hx : x s.world with
  | error e world =>
    rw [hx] at h
    cases h
  | ok a' world =>
    rw [hx] at h
    cases h
    rfl

/-! ## Drawing -/

/-- What is drawn is the excerpt of its root, and not empty. -/
theorem root_of_walk {s : Styling} {screen : Screen} {root : String} {e : Excerpt}
    (h : (Excerpt.walk g r s screen root).walk.map (Excerpt.ofWalk r.drawing) = .ok e) :
    e.root = root ∧ e.status = .ok := by
  have houtcome := Walk.outcome_extract g r.plan root { styling := s, screen }
  unfold Excerpt.walk at h
  generalize Walk.extract g r.plan root { styling := s, screen } = result at h houtcome
  cases houtcome with
  | unknown => cases h
  | noPath => cases h
  | excerpt hw _ _ =>
    cases h
    exact ⟨hw.balanced.root, rfl⟩

/-- The excerpt of a root is named for it. -/
theorem root_of_ok {s : Styling} {screen : Screen} {root : String} {w : Walk}
    (h : (Excerpt.walk g r s screen root).walk = .ok w) :
    (Excerpt.ofWalk r.drawing w).root = root := by
  have hexcerpt : (Excerpt.walk g r s screen root).walk.map (Excerpt.ofWalk r.drawing)
      = .ok (Excerpt.ofWalk r.drawing w) := by
    rw [h]
    rfl
  exact (root_of_walk hexcerpt).1

/-- A root is drawn in any world, and the world has no part in it. -/
theorem draw_eq (g : Graph) (r : Request) (screen : Screen) (root : String) (s : Station) :
    ∃ world, draw g r screen root s
      = .ok ((Excerpt.walk g r s.styling screen root).walk.map (Excerpt.ofWalk r.drawing),
          (Excerpt.walk g r s.styling screen root).screen)
        ⟨world, (Excerpt.walk g r s.styling screen root).styling⟩ := by
  show ∃ world, (draw g r screen root).run s = _
  simp only [draw, EStateM.run_bind, EStateM.run_get, EStateM.run_modify]
  cases (Excerpt.walk g r s.styling screen root).walk with
  | error fault => exact ⟨_, rfl⟩
  | ok w => exact ⟨_, rfl⟩

/-- The excerpt of a root on its own, with filters that nobody has used. -/
theorem extract_eq {filters : Filters} {s : Station}
    (hfilters : Filters.compile r.filters s.world.fits = .ok filters) (g : Graph) (root : String) :
    ∃ s', extract g root r s
      = match (Excerpt.walk g r s.styling { filters } root).walk.map (Excerpt.ofWalk r.drawing) with
        | .ok e => .ok e s'
        | .error fault => .error (.walk fault) s' := by
  obtain ⟨world, hdraw⟩ := draw_eq g r { filters } root s
  change (draw g r { filters } root).run s = _ at hdraw
  show ∃ s', (extract g root r).run s = _
  simp only [extract, EStateM.run_bind, EStateM.run_get, hfilters, run_ofExcept_ok, hdraw]
  cases (Excerpt.walk g r s.styling { filters } root).walk.map (Excerpt.ofWalk r.drawing) with
  | ok e => exact ⟨_, rfl⟩
  | error fault => exact ⟨_, rfl⟩

/-! ## Roots in a row -/

/-- An excerpt among others is what its root gives on its own, from the graph as it was loaded: the
    same content, or empty with the words of the same failure. The world around makes no difference,
    as long as the same patterns can be read in it. -/
def AsAlone (g : Graph) (r : Request) (fits : String → Bool) (fresh : Styling) (root : String)
    (e : Excerpt) : Prop :=
  e.root = root ∧ ∀ world : World, world.fits = fits →
    match extract g root r ⟨world, fresh⟩ with
    | .ok alone _ => e.status ≠ .empty ∧ e.description = alone.description
        ∧ e.arrows = alone.arrows ∧ e.members = alone.members ∧ e.files = alone.files
    | .error failure _ => failure.family = .emptyResult ∧ e = Excerpt.nothing root failure.message

section alone
variable {fits : String → Bool} {fresh : Styling} {root : String}

theorem asAlone_of_written {e e' : Excerpt} (hroot : e.root = root) (hstatus : e.status = .ok)
    (hwritten : e.Written e')
    (h : ∀ world : World, world.fits = fits → ∃ s', extract g root r ⟨world, fresh⟩ = .ok e s') :
    AsAlone g r fits fresh root e' := by
  refine ⟨hwritten.root.trans hroot, fun world hfits => ?_⟩
  obtain ⟨s', hs'⟩ := h world hfits
  rw [hs']
  refine ⟨?_, hwritten.description, hwritten.arrows, hwritten.members, hwritten.files⟩
  rcases hwritten.status with hsame | hfailed
  · rw [hsame, hstatus]
    exact nofun
  · rw [hfailed]
    exact nofun

theorem asAlone_of_noPath {origin goal : String} {takenBack : Nat}
    (h : ∀ world : World, world.fits = fits → ∃ s', extract g root r ⟨world, fresh⟩
      = .error (.walk (.noPath origin goal takenBack)) s') :
    AsAlone g r fits fresh root
      (Excerpt.nothing root (WalkFault.noPath origin goal takenBack).message) := by
  refine ⟨rfl, fun world hfits => ?_⟩
  obtain ⟨s', hs'⟩ := h world hfits
  rw [hs']
  exact ⟨rfl, rfl⟩

end alone

/-- Roots in a row: each is drawn on a styling and with filters on which those before it have left
    nothing that matters. -/
theorem forall₂_work {fits : String → Bool} {fresh : Styling} {filters : Filters}
    (hfilters : Filters.compile r.filters fits = .ok filters) (hfresh : Rests fresh fresh)
    (several : Bool) (place : Path) (names : List String) :
    ∀ (screen : Screen) (s s' : Station) (es : List Excerpt),
      Screen.Agrees g { filters } screen → Rests fresh s.styling →
      work g r several place screen names s = .ok es s' →
      List.Forall₂ (AsAlone g r fits fresh) names es := by
  induction names with
  | nil =>
    intro screen s s' es _ _ hwork
    cases hwork
    exact .nil
  | cons name names ih =>
    intro screen s s' es ha hrests hwork
    obtain ⟨world, hdraw⟩ := draw_eq g r screen name s
    obtain ⟨halone, hrests', ha'⟩ := Excerpt.walk_alone hfresh hrests ha r name
    generalize hresult : (Excerpt.walk g r s.styling screen name).walk.map
      (Excerpt.ofWalk r.drawing) = result at hdraw halone
    generalize (Excerpt.walk g r s.styling screen name).screen = screen' at hdraw ha'
    generalize (Excerpt.walk g r s.styling screen name).styling = styling' at hdraw hrests'
    rw [work] at hwork
    obtain ⟨drawn, s₁, hdrawn, hwork⟩ := Success.of_run_bind hwork
    rw [hdraw, EStateM.Result.ok.injEq] at hdrawn
    obtain ⟨rfl, rfl⟩ := hdrawn
    have hown : ∀ world : World, world.fits = fits → ∃ s', extract g name r ⟨world, fresh⟩
        = match result with
          | .ok e => .ok e s'
          | .error fault => .error (.walk fault) s' := by
      intro world hfits
      rw [halone]
      exact extract_eq (s := ⟨world, fresh⟩) (hfits ▸ hfilters) g name
    cases result with
    | ok e =>
      obtain ⟨hroot, hstatus⟩ := root_of_walk hresult
      obtain ⟨e', s₂, hwrite, hwork⟩ := Success.of_run_bind hwork
      obtain ⟨artifact, -, hwritten⟩ := gives_onWorld (gives_write several place e) _ _ _ hwrite
      obtain ⟨others, s₃, hothers, hwork⟩ := Success.of_run_bind hwork
      cases hwork
      refine .cons (asAlone_of_written hroot hstatus hwritten.written hown) ?_
      refine ih screen' s₂ s' others ha' ?_ hothers
      rw [styling_of_onWorld hwrite]
      exact hrests'
    | error fault =>
      cases fault with
      | noPath root goal takenBack =>
        obtain ⟨_, s₂, hnote, hwork⟩ := Success.of_run_bind hwork
        obtain ⟨first, s₃, hfirst, hwork⟩ := Success.of_run_bind hwork
        cases hfirst
        obtain ⟨others, s₄, hothers, hwork⟩ := Success.of_run_bind hwork
        cases hwork
        refine .cons (asAlone_of_noPath hown) ?_
        refine ih screen' s₂ s' others ha' ?_ hothers
        rw [styling_of_onWorld hnote]
        exact hrests'
      | unknownSymbol unknown =>
        obtain ⟨first, s₂, hfirst, -⟩ := Success.of_run_bind hwork
        cases hfirst
      | nothingDrawn =>
        obtain ⟨first, s₂, hfirst, -⟩ := Success.of_run_bind hwork
        cases hfirst

/-! ## Which roots -/

theorem name_of_resolve {name : String} {symbol : Symbol} (h : resolve g name = .ok symbol) :
    symbol.name = name := by
  unfold resolve at h
  split at h
  · next hfound =>
    cases h
    exact Graph.name_of_find? hfound
  · cases h

theorem selection_of_ok {p : Pattern} {names : List String} (h : selection g p = .ok names) :
    names = (g.matching p.isFoundIn).map (·.name) := by
  unfold selection at h
  split at h
  · cases h
  · next heq =>
    cases h
    rfl

/-- The roots of a request: those that it names, then what each of its patterns selects, each once,
    where it comes first. -/
theorem roots_of_ok {fits : String → Bool} {names : List String} (h : roots g r fits = .ok names) :
    ∃ patterns, Filters.compileAll r.rootPatterns fits = .ok patterns
      ∧ names = (r.roots
          ++ patterns.flatMap fun p => (g.matching p.isFoundIn).map (·.name)).eraseDups := by
  unfold roots at h
  obtain ⟨named, hnamed, h⟩ := Success.of_bind h
  obtain ⟨patterns, hpatterns, h⟩ := Success.of_bind h
  obtain ⟨selected, hselected, h⟩ := Success.of_bind h
  cases h
  refine ⟨patterns, Success.of_mapError hpatterns, ?_⟩
  have hnames : named.map (·.name) = r.roots := by
    have hall : List.Forall₂ (fun name symbol => name = symbol.name) r.roots named :=
      (Success.of_mapM hnamed).imp fun name symbol h => (name_of_resolve h).symm
    rw [← List.forall₂_map_right_iff, List.forall₂_eq_eq_eq] at hall
    exact hall.symm
  have hselections : selected = patterns.map fun p => (g.matching p.isFoundIn).map (·.name) := by
    have hall : List.Forall₂ (fun p names => (g.matching p.isFoundIn).map (·.name) = names)
        patterns selected :=
      (Success.of_mapM hselected).imp fun p names h => (selection_of_ok h).symm
    rw [← List.forall₂_map_left_iff, List.forall₂_eq_eq_eq] at hall
    exact hall.symm
  rw [hnames, hselections, List.flatMap_def]

/-- What a pattern selects comes in the order of code points. -/
theorem matching_sorted (g : Graph) (p : String → Bool) :
    ((g.matching p).map (·.name)).Pairwise (· ≤ ·) := by
  have hsorted : (g.matching p).Pairwise fun a b => Graph.nameLE a.name b.name = true := by
    apply List.pairwise_mergeSort
    · exact fun a b c => Graph.nameLE_trans a.name b.name c.name
    · exact fun a b => Graph.nameLE_total a.name b.name
  rw [List.pairwise_map]
  exact hsorted.imp of_decide_eq_true

theorem mem_matching_iff {p : String → Bool} {symbol : Symbol} :
    symbol ∈ g.matching p ↔ symbol ∈ g.symbols ∧ p symbol.name = true := by
  simp [Graph.matching]

/-! ## A request -/

theorem of_ofExcept {ε α : Type} {failure : ε → Failure} {x : Except ε α} {s s' : Station} {a : α}
    (h : Serving.ofExcept failure x s = .ok a s') : x = .ok a ∧ s' = s := by
  cases x with
  | error e => cases h
  | ok a' =>
    cases h
    exact ⟨rfl, rfl⟩

theorem of_clearing {α : Type} {place : Location} {x : Serving α} {s s' : Station} {a : α}
    (h : clearing place x s = .ok a s') : ∃ s'', x s = .ok a s'' := by
  rw [clearing_apply] at h
  cases hx : x s with
  | error e s₁ =>
    rw [hx] at h
    obtain ⟨_, s₂, -, hthrown⟩ := Success.of_run_bind h
    cases hthrown
  | ok a' s₁ =>
    rw [hx] at h
    obtain ⟨_, s₂, -, hreturned⟩ := Success.of_run_bind h
    cases hreturned
    exact ⟨s₁, rfl⟩

/-- From the roots on, a request is the work on them in a row. -/
theorem of_rooted {fits : String → Bool} {fresh : Styling} {filters : Filters} {s s' : Station}
    {es : List Excerpt} (hfilters : Filters.compile r.filters fits = .ok filters)
    (hfresh : Rests fresh fresh) (hrests : Rests fresh s.styling)
    (h : (do
      let roots ← Serving.ofExcept id (roots g r fits)
      withWorkplace fun place => work g r (1 < roots.length) place { filters } roots) s
        = .ok es s') :
    ∃ names, roots g r fits = .ok names ∧ List.Forall₂ (AsAlone g r fits fresh) names es := by
  obtain ⟨names, s₁, hlooked, hinside⟩ := Success.of_run_bind h
  obtain ⟨hnames, rfl⟩ := of_ofExcept hlooked
  refine ⟨names, hnames, ?_⟩
  rw [withWorkplace_eq] at hinside
  obtain ⟨here, s₂, hhere, hmaking⟩ := Success.of_run_bind hinside
  cases hhere
  obtain ⟨_, s₃, hmade, hcleared⟩ := Success.of_run_bind hmaking
  obtain ⟨s₄, hwork⟩ := of_clearing hcleared
  have hrests₃ : Rests fresh s₃.styling := styling_of_onWorld hmade ▸ hrests
  exact forall₂_work hfilters hfresh _ _ names { filters } s₃ s₄ es (.refl g _) hrests₃ hwork

/-- Roots of one request do not know of each other. Its results are those of its roots, one for each
    and in their order, and each is what its root gives on its own, by a service that has just
    loaded its graph, whatever became of the other roots. -/
theorem roots_apart (g : Graph) (r : Request) (fresh : Styling) (s s' : Station)
    (es : List Excerpt) (hsaved : fresh.saved = []) (hrests : Rests fresh s.styling)
    (hhandle : handle g r s = .ok es s') :
    ∃ names patterns, roots g r s.world.fits = .ok names
      ∧ Filters.compileAll r.rootPatterns s.world.fits = .ok patterns
      ∧ names = (r.roots
          ++ patterns.flatMap fun p => (g.matching p.isFoundIn).map (·.name)).eraseDups
      ∧ (∀ p ∈ patterns, ((g.matching p.isFoundIn).map (·.name)).Pairwise (· ≤ ·)
          ∧ ∀ symbol, symbol ∈ g.matching p.isFoundIn
            ↔ symbol ∈ g.symbols ∧ p.isFoundIn symbol.name = true)
      ∧ List.Forall₂ (AsAlone g r s.world.fits fresh) names es := by
  rw [handle_apply] at hhandle
  obtain ⟨_, s₁, hvalid, hcompiling⟩ := Success.of_run_bind hhandle
  obtain ⟨-, rfl⟩ := of_ofExcept hvalid
  obtain ⟨filters, s₂, hcompiled, hgoing⟩ := Success.of_run_bind hcompiling
  obtain ⟨hfilters, rfl⟩ := of_ofExcept hcompiled
  have hfresh : Rests fresh fresh := ⟨hsaved, Styling.Alike.refl fresh⟩
  have hnames : ∃ names, roots g r s₂.world.fits = .ok names
      ∧ List.Forall₂ (AsAlone g r s₂.world.fits fresh) names es := by
    cases hgoal : r.goal with
    | none =>
      rw [hgoal] at hgoing
      exact of_rooted hfilters hfresh hrests hgoing
    | some goal =>
      rw [hgoal] at hgoing
      obtain ⟨_, s₃, hresolved, hrooted⟩ := Success.of_run_bind hgoing
      obtain ⟨-, rfl⟩ := of_ofExcept hresolved
      exact of_rooted hfilters hfresh hrests hrooted
  obtain ⟨names, hnames, hentries⟩ := hnames
  obtain ⟨patterns, hpatterns, heq⟩ := roots_of_ok hnames
  refine ⟨names, patterns, hnames, hpatterns, heq, ?_, hentries⟩
  intro p _
  exact ⟨matching_sorted g p.isFoundIn, fun symbol => mem_matching_iff⟩

/-- A graph of one call. -/
def pairGraph : Graph := ({} : Graph).connect "main" "work" []

/-- A request for both of its symbols, written to standard output. -/
def pairRequest : Request :=
  { roots := ["work", "main", "work"], output := Path.dash, format := "plain" }

theorem pair_apart :
    ∃ es s', handle pairGraph pairRequest {} = .ok es s'
      ∧ List.Forall₂ (AsAlone pairGraph pairRequest (fun _ => true) {}) ["work", "main"] es := by
  have hroots : roots pairGraph pairRequest (fun _ => true) = .ok ["work", "main"] := by rfl
  have hnames : ∀ n ∈ ["work", "main"], pairGraph.contains n = true := by decide
  obtain ⟨es, s', hhandle⟩ : ∃ es s', handle pairGraph pairRequest {} = .ok es s' :=
    handle_dash rfl rfl rfl (by decide) rfl hroots hnames
  obtain ⟨names, patterns, hnames', -, -, -, hentries⟩ :=
    roots_apart pairGraph pairRequest {} {} s' es rfl ⟨rfl, Styling.Alike.refl _⟩ hhandle
  rw [hroots, Except.ok.injEq] at hnames'
  exact ⟨es, s', hhandle, hnames' ▸ hentries⟩

end Service

end CallExcerpt
