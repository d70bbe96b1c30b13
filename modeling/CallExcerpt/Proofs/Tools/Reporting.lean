import CallExcerpt.Proofs.Service.Refusing
import CallExcerpt.Proofs.Service.Resident
import CallExcerpt.Proofs.Tools.Reading
import CallExcerpt.Proofs.Walk.Labels

/-! # What a tool reports

    The tool that draws excerpts reads its arguments, keeps its graph from call
    to call, and tells the excerpt as JSON. The service reads a request, draws
    with filters of its own and writes a text. Both come to the same excerpt.

    * `leads_handle_lone`, `handle_lone_root`: a request for one root, with its text
      to standard output.
    * `Drawn`, `leads_extract`: what a call with conforming arguments comes to.
    * `Drawn.walk`, `Drawn.asked`: the same request, handled.
    * `excerptReport_eq`, `linesOf_labelOf`: what is told of the places of a call
      when they went through the text beside its arrow.
    * `report_of_handled`: all of that for a call after others.
    * `place_of_two_lines`: what comes back of a place that is not one line.
-/

namespace CallExcerpt

open Success (bind_of_ok Leads leads_get leads_of_ok leads_pure leads_run)
open Styling (Rests)

/-! ## One root -/

namespace Service

variable {g : Graph} {r : Request} {fresh : Styling} {root : String} {e : Excerpt}

/-- The excerpt of one root goes to standard output, whatever is looked at on the way. -/
theorem leads_work_lone {P : World → Prop} {F : Failure → World → Prop}
    (hlog : ∀ w n, P w → Leads (Action.log n) w (fun _ w' => P w') fun _ _ => False)
    (hprint : ∀ w text, P w → Leads (Action.print text) w (fun _ w' => P w') F)
    (houtput : r.output = Path.dash) (hplain : r.isPlain = true) (several : Bool) (place : Path)
    (screen : Screen) {s : Station} (hs : P s.world)
    (hwalk : (Excerpt.walk g r s.styling screen root).walk.map (Excerpt.ofWalk r.drawing) = .ok e) :
    Leads (work g r several place screen [root]) s (fun es s' => es = [e] ∧ P s'.world)
      fun failure s' => F failure s'.world := by
  unfold work
  apply (leads_draw_of (fun w text hw => hlog w _ hw) hs screen root).bind
  rintro ⟨_, screen'⟩ s₁ ⟨hs₁, hdrawn, -⟩
  obtain ⟨rfl, -⟩ := Prod.mk.inj (hwalk ▸ hdrawn)
  apply (leads_onWorld (leads_write_dash hlog hprint houtput hplain several place e hs₁)).bind
  rintro e' s₂ ⟨rfl, hs₂⟩
  unfold work
  exact leads_pure ⟨rfl, hs₂⟩

section lone
variable (houtput : r.output = Path.dash) (hplain : r.isPlain = true) {filters : Filters}
  {s : Station} (hasked : asked g r s.world.fits = .ok (filters, [root]))
  (hfresh : Rests fresh fresh) (hs : Rests fresh s.styling)
  (hwalk : (Excerpt.walk g r fresh { filters } root).walk.map (Excerpt.ofWalk r.drawing) = .ok e)
include houtput hplain hasked hfresh hs hwalk

/-- A request for one root, with its text to standard output, has that excerpt for its result,
    whatever is looked at on the way. Only the lasting attributes have part in it. -/
theorem leads_handle_lone {P : World → Prop} {failing : Prop}
    (hlog : ∀ w n, P w → Leads (Action.log n) w (fun _ w' => P w') fun _ _ => False)
    (hprint : ∀ w text, P w → Leads (Action.print text) w (fun _ w' => P w') fun _ _ => failing)
    (hmade : ∀ d, OnDisk.makeDirectory [] (World.pathOf (workplace s.world)) s.world.disk
      = .ok () d → P { s.world with disk := d })
    (hrefused : ∀ cause d, OnDisk.makeDirectory [] (World.pathOf (workplace s.world)) s.world.disk
      = .error cause d → failing)
    (hremoval : ∀ s', P s'.world →
      Leads (removal (workplace s.world)) s' (fun _ _ => True) fun _ _ => failing) :
    Leads (handle g r) s (fun es _ => es = [e]) fun _ _ => failing := by
  have hwalk' := (Excerpt.walk_alone hfresh hs (.refl g _) r root).1.trans hwalk
  unfold Leads
  rw [handle_of_asked hasked]
  cases hmaking : OnDisk.makeDirectory [] (World.pathOf (workplace s.world)) s.world.disk with
  | error cause d =>
    rw [withWorkplace_of_refused _ hmaking]
    exact hrefused cause d hmaking
  | ok made d =>
    rw [withWorkplace_of_made _ hmaking]
    let begun : Station := { s with world := { s.world with disk := d } }
    have hwork := leads_work_lone (s := begun) hlog hprint houtput hplain (1 < [root].length)
      (World.pathOf (workplace s.world)) { filters } (hmade d hmaking) hwalk'
    apply leads_clearing hwork
    · rintro es s' ⟨rfl, hs'⟩
      exact (hremoval s' hs').mono (fun _ _ _ => rfl) fun _ _ h => h
    · exact fun _ s' h => (leads_run _ s').mono (fun _ _ _ => h) fun _ _ _ => h

/-- That is its only result. -/
theorem eq_of_handle_lone {es : List Excerpt} {s' : Station} (hrun : handle g r s = .ok es s') :
    es = [e] := by
  have hany : ∀ {α : Type} (x : Action α) w, Leads x w (fun _ _ => True) fun _ _ => True :=
    fun x w => (leads_run x w).mono (fun _ _ _ => trivial) fun _ _ _ => trivial
  have hlog : ∀ w n, True → Leads (Action.log n) w (fun _ _ => True) fun _ _ => False :=
    fun _ _ _ => trivial
  have hleads := leads_handle_lone houtput hplain hasked hfresh hs hwalk hlog
    (fun w text _ => hany (Action.print text) w) (fun _ _ => trivial) (fun _ _ _ => trivial)
    fun s' _ => (leads_run _ s').mono (fun _ _ _ => trivial) fun _ _ _ => trivial
  unfold Leads at hleads
  rw [hrun] at hleads
  exact hleads

/-- It has that result, provided that there is a place for working files, which can be removed, and
    that standard output takes the text. -/
theorem handle_lone_root (hunhindered : Unhindered s.world) {d : Disk}
    (hmade : OnDisk.makeDirectory [] (World.pathOf (workplace s.world)) s.world.disk = .ok () d) :
    ∃ s', handle g r s = .ok [e] s' := by
  have hkept : ∀ d', OnDisk.makeDirectory [] (World.pathOf (workplace s.world)) s.world.disk
      = .ok () d' → Unhindered { s.world with disk := d' } := by
    intro d' hd'
    have hthere := OnDisk.leads_makeDirectory [] (World.pathOf (workplace s.world)) s.world.disk
    unfold Leads at hthere
    rw [hd'] at hthere
    refine ⟨hunhindered.outlet, fun tree l => ?_⟩
    rw [hthere.1.limits]
    exact hunhindered.removing tree l
  have hremoval : ∀ s' : Station, Unhindered s'.world →
      Leads (removal (workplace s.world)) s' (fun _ _ => True) fun _ _ => False := by
    intro s' hs'
    apply (leads_removal _ s').mono
    · exact fun _ _ _ => trivial
    · rintro _ _ ⟨remnant, hremnant, -⟩
      simp [hs'.removing] at hremnant
  have hmaking : ∀ cause d', OnDisk.makeDirectory [] (World.pathOf (workplace s.world))
      s.world.disk = .error cause d' → False := by
    intro cause d' hd'
    rw [hmade] at hd'
    cases hd'
  have hleads := leads_handle_lone houtput hplain hasked hfresh hs hwalk
    (fun _ n hw => leads_log_unhindered hw n) (fun _ text hw => leads_print_unhindered hw text)
    hkept hmaking hremoval
  obtain ⟨es, s', hrun, rfl⟩ | ⟨_, _, -, hfalse⟩ := hleads.cases
  · exact ⟨s', hrun⟩
  · exact hfalse.elim

end lone

end Service

namespace Tools

open Json (lookup Accepts)

variable {members : List (String × Json)} {g : Graph} {fresh : Styling} {w w' : Workshop}

/-! ## A call that succeeds -/

/-- A step without a state either fails or gives what it gives. -/
theorem leads_calling {α β : Type} {x : Except Fault α} {f : α → Calling β}
    {P : β → Workshop → Prop} (h : ∀ a, x = .ok a → Leads (f a) w P fun _ _ => True) :
    Leads (Calling.ofExcept x >>= f) w P fun _ _ => True := by
  cases x with
  | error fault => trivial
  | ok a => exact h a rfl

theorem find?_of_symbolOf {s : String} {symbol : Symbol}
    (h : symbolOf g (.text s) = .ok symbol) : g.find? s = some symbol := by
  unfold symbolOf at h
  rw [if_neg (by simp [isKey])] at h
  dsimp only at h
  cases hfind : g.find? s with
  | none =>
    rw [hfind] at h
    cases h
  | some found =>
    rw [hfind] at h
    cases h
    rfl

/-- Where an excerpt is written has no part in drawing it. -/
theorem extract_elsewhere (g : Graph) (root : String) (r : Request) (output : Path)
    (format : String) :
    Service.extract g root { r with output, format } = Service.extract g root r := rfl

/-- What a call comes to: the excerpt of the request that its arguments stand for, which makes sense
    for the graph. -/
structure Drawn (g : Graph) (members : List (String × Json)) (w : Workshop) (root : String)
    (e : Excerpt) (w' : Workshop) : Prop where
  roots : (directRequest members).roots = [root]
  excerpt : Calling.onStation (Service.extract g root (directRequest members)) w = .ok e w'
  root : ∃ symbol, g.find? root = some symbol
  maxDepth : ∀ n ∈ (directRequest members).maxDepth, 0 ≤ n
  goal : ∀ goal ∈ (directRequest members).goal, ∃ symbol, g.find? goal = some symbol

theorem leads_extract (hconforms : Conforms members) (hresident : Resident g fresh w) :
    Leads (extract (.object members)) w
      (fun report w' => ∃ root e, report = excerptReport e ∧ Drawn g members w root e w')
      fun _ _ => True := by
  unfold extract
  -- the arguments are looked at before the graph is, and each of them may end the call
  apply leads_calling
  intro ms hmembers
  obtain rfl : members = ms := Except.ok.inj hmembers
  apply leads_calling
  intro direction hdirection
  apply leads_calling
  intro root hroot
  apply leads_calling
  intro ignore hignore
  apply leads_calling
  intro patterns hpatterns
  apply leads_calling
  intro shown hshown
  apply leads_calling
  intro maxDepth hdepth
  apply (leads_of_ok (P := fun g' w' => g = g' ∧ w = w') (theGraph_of_resident hresident)
    ⟨rfl, rfl⟩).bind
  intro g' w' hsame
  obtain ⟨rfl, rfl⟩ := hsame
  extract_lets +lift flag drawn
  -- each reader gives what the request has
  obtain ⟨name, hname⟩ := hconforms.root
  obtain rfl : .text name = root := by
    rw [required, hname] at hroot
    exact Except.ok.inj hroot
  rw [directionOf_given hconforms.direction] at hdirection
  rw [itemsOf_given (hconforms.texts _ (by simp))] at hignore hpatterns hshown
  obtain ⟨rfl, hbound⟩ := depthOf_given hconforms.maxDepth hdepth
  cases hdirection
  cases hignore
  cases hpatterns
  cases hshown
  have hroots : (directRequest members).roots = [name] := by
    simp [directRequest, textAt, hname]
  have hdrawn : ∀ goal, goal = textAt "end_function" members →
      (∀ s ∈ goal, ∃ symbol, g.find? s = some symbol) →
      Leads (drawn goal) w
        (fun report w' => ∃ root e, report = excerptReport e ∧ Drawn g members w root e w')
        fun _ _ => True := by
    intro goal hgoal hfound
    apply leads_calling
    intro ignore hignore
    apply leads_get.bind
    rintro w₁ w₂ ⟨rfl, rfl⟩
    apply leads_calling
    intro patterns hpatterns
    apply leads_calling
    intro shown hshown
    apply leads_calling
    intro symbol hsymbol
    have hfind := find?_of_symbolOf hsymbol
    obtain rfl : symbol.name = name := Graph.name_of_find? hfind
    rw [namesOf_texts] at hignore hshown
    cases hignore
    cases hshown
    extract_lets r
    have hrequest : r = { directRequest members with
        output := Path.ofString "callgraph.svg", format := "svg" } := by
      have htrim := isTruthy_given (hconforms.flags "trim" (by simp))
      have hextern := isTruthy_given (hconforms.flags "no_extern" (by simp))
      have hall := isTruthy_given (hconforms.flags "all_locations" (by simp))
      have hroot : [symbol.name] = (textAt "root" members).toList := hroots.symm
      simp only [r, flag, directRequest, htrim, hextern, hall, patternsOf_texts hpatterns, hgoal,
        hroot]
    rw [hrequest, extract_elsewhere]
    apply ((leads_run _ w).mono (fun _ _ h => h) fun _ _ _ => trivial).bind
    intro e w' hextract
    refine leads_pure ⟨symbol.name, e, rfl, hroots, hextract, ⟨symbol, hfind⟩, hbound, ?_⟩
    intro goal' hgoal'
    exact hfound goal' (hgoal.symm ▸ hgoal')
  -- a goal that is given must be a symbol of the graph
  have hgoal := hconforms.goal
  cases hend : lookup "end_function" members with
  | none =>
    have hnull : given "end_function" .null members = .null := by rw [given, hend]; rfl
    simp only [hnull]
    exact hdrawn none (by rw [textAt, hend]) nofun
  | some v =>
    obtain ⟨s, rfl⟩ := hgoal v hend
    have htext : given "end_function" .null members = .text s := by rw [given, hend]; rfl
    simp only [htext]
    apply leads_calling
    intro found hfound
    have hfind := find?_of_symbolOf hfound
    obtain rfl : found.name = s := Graph.name_of_find? hfind
    apply hdrawn (some found.name) (by rw [textAt, hend])
    intro s hs
    obtain rfl := Option.some.inj hs
    exact ⟨found, hfind⟩

/-! ## The same request, handled -/

variable {root : String} {e : Excerpt} {r : Request}

theorem resolve_of_find? {symbol : Symbol} (h : g.find? root = some symbol) :
    Service.resolve g root = .ok symbol := by
  rw [Service.resolve, h]

/-- A plain request with a root makes sense, unless its bound is below zero. -/
theorem validate_of_plain (hroots : r.roots = [root]) (hrankdir : r.rankdir ∈ Request.rankdirs)
    (hplain : r.isPlain = true) (hdepth : ∀ n ∈ r.maxDepth, 0 ≤ n) : r.validate = .ok () := by
  unfold Request.validate
  rw [if_neg (by simp [hroots]), if_neg (by simpa using hrankdir), if_neg (by simp [hplain]),
    if_neg (by simp [hplain]), if_neg (by simp [hplain])]
  cases hbound : r.maxDepth with
  | none => rfl
  | some n =>
    have hn : ¬ n < 0 := Int.not_lt.mpr (hdepth n hbound)
    show (if n < 0 then _ else _) = _
    rw [if_neg hn]

theorem plain_directRequest (members : List (String × Json)) :
    (directRequest members).isPlain = true := by
  simp [directRequest, Request.isPlain]

/-- What a call draws, by a walk that has part neither in the world nor in what was drawn before. -/
theorem Drawn.walk (h : Drawn g members w root e w') :
    ∃ filters, Filters.compile (directRequest members).filters = .ok filters
      ∧ (Excerpt.walk g (directRequest members) w.styling { filters } root).walk.map
          (Excerpt.ofWalk (directRequest members).drawing) = .ok e := by
  have hrun := h.excerpt
  unfold Calling.onStation at hrun
  -- an excerpt was drawn, so that neither the filters nor the walk can have failed
  cases hfilters : Filters.compile (directRequest members).filters w.world.fits with
  | error fault =>
    have hfails : Service.extract g root (directRequest members) w.toStation
        = .error (.pattern fault) w.toStation := by
      unfold Service.extract
      refine (bind_of_ok rfl).trans ?_
      rw [hfilters]
      rfl
    rw [hfails] at hrun
    cases hrun
  | ok filters =>
    obtain ⟨s', hextract⟩ := Service.extract_eq (s := w.toStation) hfilters g root
    rw [hextract] at hrun
    refine ⟨filters, Filters.compile_of_fits hfilters, ?_⟩
    generalize (Excerpt.walk g (directRequest members) w.styling { filters } root).walk.map
      (Excerpt.ofWalk (directRequest members).drawing) = result at hrun ⊢
    cases result with
    | error fault => cases hrun
    | ok e' =>
      cases hrun
      rfl

/-- The service takes the request. -/
theorem Drawn.asked (h : Drawn g members w root e w') {filters : Filters} {fits : String → Bool}
    (hfilters : Filters.compile (directRequest members).filters fits = .ok filters) :
    Service.asked g (directRequest members) fits = .ok (filters, [root]) := by
  obtain ⟨symbol, hroot⟩ := h.root
  apply Service.asked_eq_ok_iff.mpr
  refine ⟨?_, hfilters, ?_, ?_⟩
  · exact validate_of_plain h.roots (by simp [directRequest, Request.rankdirs])
      (plain_directRequest members) h.maxDepth
  · intro goal hgoal
    obtain ⟨found, hfind⟩ := h.goal goal hgoal
    exact ⟨found, resolve_of_find? hfind⟩
  · have hnone : (directRequest members).rootPatterns = [] := rfl
    have hname : symbol.name = root := Graph.name_of_find? hroot
    unfold Service.roots
    rw [h.roots, hnone, List.mapM_cons, resolve_of_find? hroot]
    show Except.ok ([symbol.name] ++ []).eraseDups = _
    rw [hname]
    rfl

/-! ## What is reported -/

/-- An edge of a report. -/
def edgeOf (a : Arrow) (places : List String) : Json :=
  .object [
    ("from", .text a.source),
    ("to", .text a.target),
    ("locations", .list (places.map .text))]

/-- The lines of what is written beside an arrow. -/
def linesOf : Option String → List String
  | none => []
  | some label => if label = "" then [] else Text.splitAt '\n' label

/-- A report has an edge for each arrow, in their order. -/
theorem excerptReport_eq (e : Excerpt) :
    excerptReport e = .object [
      ("root", .text e.root),
      ("edges", .list (e.arrows.map fun a => edgeOf a (linesOf a.label))),
      ("nodes", .list (e.members.map .text)),
      ("files", .list (e.files.map .text)),
      ("description", .text e.description)] := by
  refine congrArg (fun edges => Json.object [
      ("root", .text e.root),
      ("edges", .list edges),
      ("nodes", .list (e.members.map .text)),
      ("files", .list (e.files.map .text)),
      ("description", .text e.description)]) (List.map_congr_left fun a _ => ?_)
  obtain ⟨source, target, caller, callee, label⟩ := a
  unfold edgeOf linesOf
  cases label with
  | none => rfl
  | some label =>
    by_cases hempty : label = ""
    · simp [hempty]
    · simp [hempty]

/-- What a report tells of the places of a call: each line of each place. -/
theorem linesOf_labelOf {places : List String} (h : ∀ p ∈ places, p ≠ "") :
    linesOf (Arrow.labelOf places) = places.flatMap (Text.splitAt '\n') := by
  cases places with
  | nil => rfl
  | cons p places =>
    have hp : p ≠ "" := h p List.mem_cons_self
    show linesOf (some (Text.joinWith '\n' (p :: places))) = _
    rw [linesOf, if_neg (Text.joinWith_ne_empty hp places),
      Text.splitAt_joinWith_of_ne_nil (List.cons_ne_nil p places)]

/-- Each arrow of an excerpt follows a call. -/
theorem follows_of_walk {styling : Styling} {screen : Screen}
    (h : (Excerpt.walk g r styling screen root).walk.map (Excerpt.ofWalk r.drawing) = .ok e) :
    ∀ a ∈ e.arrows, ∃ call ∈ g.calls, Walk.Follows r.plan call a := by
  unfold Excerpt.walk at h
  cases hextract : Walk.extract g r.plan root { styling, screen } with
  | error fault desk =>
    rw [hextract] at h
    cases h
  | ok walk desk =>
    rw [hextract] at h
    cases h
    obtain ⟨-, own, hsheet, hfollows⟩ := Walk.follows_of_extract hextract
    have harrows : (Excerpt.ofWalk r.drawing walk).arrows = own := hsheet
    rw [harrows]
    exact hfollows

/-- An edge of a report tells of an arrow and of the call for which that is drawn: its ends, as they
    are drawn, and if places are asked for, the lines of the places of the call. These are the
    places themselves just if each of them is one line. -/
def TellsOf (g : Graph) (r : Request) (a : Arrow) (edge : Json) : Prop :=
  ∃ call ∈ g.calls, Walk.Follows r.plan call a ∧ ∃ places, edge = edgeOf a places
    ∧ (r.allLocations = false → places = [])
    ∧ (r.allLocations = true →
        places = (call.locations call.callee).flatMap (Text.splitAt '\n')
          ∧ (places = call.locations call.callee
              ↔ ∀ p ∈ call.locations call.callee, '\n' ∉ p.toList))

theorem tellsOf_edgeOf {a : Arrow} {call : Call} (hcall : call ∈ g.calls)
    (hfollows : Walk.Follows r.plan call a) : TellsOf g r a (edgeOf a (linesOf a.label)) := by
  refine ⟨call, hcall, hfollows, linesOf a.label, rfl, ?_, ?_⟩
  · intro hall
    have hplan : r.plan.allLocations = false := hall
    rw [hfollows.label, hplan]
    rfl
  · intro hall
    have hplan : r.plan.allLocations = true := hall
    have hlines : linesOf a.label = (call.locations call.callee).flatMap (Text.splitAt '\n') := by
      rw [hfollows.label, hplan, if_pos rfl]
      exact linesOf_labelOf fun p hp => Call.ne_empty_of_mem_locations hp
    rw [hlines]
    exact ⟨rfl, Text.flatMap_splitAt_eq_iff⟩

/-- The tool that draws excerpts reports what the service gives for the same request. Let the graph
    be there, whatever tools were called since it was loaded, and in whatever worlds, and let the
    arguments conform to the schema of the tool. If the call comes to a report, then for the request
    that the arguments stand for, with its text to standard output, the service has one result,
    whatever it handled before, provided that there is room to read its patterns, that it finds a
    place for its working files and can remove it, and that standard output takes the text. The
    report has an edge for each arrow of this result, in their order, and the same symbols, source
    files and description. But the places of a call went through the text beside its arrow, one in
    each line, so that a place of several lines comes back in pieces. -/
theorem report_of_handled (g : Graph) (w : Workshop) (hgraph : w.graph = some g)
    (hsaved : w.styling.saved = []) (visits : List (World × String × Json)) (world : World)
    (members : List (String × Json)) (hconforms : Accepts extractOffer.schema (.object members))
    (report : Json) (w' : Workshop)
    (h : extract (.object members) { visits.foldl Workshop.afterCall w with world }
      = .ok report w') :
    ∃ root e edges, (directRequest members).roots = [root]
      ∧ report = .object [
          ("root", .text root),
          ("edges", .list edges),
          ("nodes", .list (e.members.map .text)),
          ("files", .list (e.files.map .text)),
          ("description", .text e.description)]
      ∧ List.Forall₂ (TellsOf g (directRequest members)) e.arrows edges
      ∧ e.root = root ∧ e.status = .ok
      ∧ ∀ s : Station, Rests w.styling s.styling →
          ((∀ p ∈ (directRequest members).ignorePatterns, s.world.fits p = true) →
            Service.Unhindered s.world →
            ∀ d, OnDisk.makeDirectory [] (World.pathOf (Service.workplace s.world)) s.world.disk
              = .ok () d → ∃ s', Service.handle g (directRequest members) s = .ok [e] s')
            ∧ ∀ es s', Service.handle g (directRequest members) s = .ok es s' → es = [e] := by
  have hlasting : Rests w.styling w.styling := ⟨hsaved, Styling.Alike.refl _⟩
  have hbegun : Resident g w.styling w := ⟨hgraph, hlasting⟩
  have hafter := hbegun.afterCalls visits
  let now : Workshop := { visits.foldl Workshop.afterCall w with world }
  have hresident : Resident g w.styling now := ⟨hafter.graph, hafter.rests⟩
  have hleads := leads_extract (conforms_of_accepts hconforms) hresident
  unfold Leads at hleads
  rw [h] at hleads
  obtain ⟨root, e, rfl, hdrawn⟩ := hleads
  obtain ⟨filters, hfilters, hnow⟩ := hdrawn.walk
  -- what was drawn before has no part in it
  have hwalk : (Excerpt.walk g (directRequest members) w.styling { filters } root).walk.map
      (Excerpt.ofWalk (directRequest members).drawing) = .ok e :=
    (Excerpt.walk_alone hlasting hresident.rests (.refl g _) _ root).1.symm.trans hnow
  obtain ⟨hroot, hstatus⟩ := Service.root_of_walk hwalk
  refine ⟨root, e, e.arrows.map fun a => edgeOf a (linesOf a.label), hdrawn.roots, ?_, ?_, hroot,
    hstatus, ?_⟩
  · rw [excerptReport_eq, hroot]
  · apply List.forall₂_map_right_iff.mpr
    apply List.forall₂_same.mpr
    intro a ha
    obtain ⟨call, hcall, hfollows⟩ := follows_of_walk hwalk a ha
    exact tellsOf_edgeOf hcall hfollows
  · intro s hs
    constructor
    · intro hroom hunhindered d hmade
      have hcompiled : Filters.compile (directRequest members).filters s.world.fits = .ok filters := by
        rw [Filters.compile_eq_of_room, hfilters]
        exact List.forall_mem_append.mpr ⟨hroom, nofun⟩
      exact Service.handle_lone_root rfl (plain_directRequest members) (hdrawn.asked hcompiled)
        hlasting hs hwalk hunhindered hmade
    · intro es s' hrun
      cases hasked : Service.asked g (directRequest members) s.world.fits with
      | error failure =>
        rw [Service.handle_of_refused hasked] at hrun
        cases hrun
      | ok passed =>
        -- the filters that were made here are those that the tool had
        obtain ⟨filters', names⟩ := passed
        obtain ⟨-, hcompiled, -, -⟩ := Service.asked_eq_ok_iff.mp hasked
        obtain rfl : filters' = filters :=
          Except.ok.inj ((Filters.compile_of_fits hcompiled).symm.trans hfilters)
        exact Service.eq_of_handle_lone rfl (plain_directRequest members) (hdrawn.asked hcompiled)
          hlasting hs hwalk hrun

/-- The places that a report tells, edge by edge. -/
def placesTold : EStateM.Result Fault Workshop Json → List (List String)
  | .ok (.object members) _ =>
    match lookup "edges" members with
    | some (.list edges) => edges.map fun
      | .object edge => textsAt "locations" edge
      | _ => []
    | _ => []
  | _ => []

/-- A graph of one call, at two places. -/
def placesGraph : Graph := ({} : Graph).connect "a" "b" ["b~a.c:3", "b~a.c:9"]

/-- Arguments for all its places, with a bound that is written with a point. -/
def placesArguments : List (String × Json) :=
  [("root", .text "a"), ("max_depth", .float (Number.Binary64.ofInt 2)), ("all_locations", .bool true)]

/-- Calls of two tools before that, one of which fails. -/
def placesVisits : List (World × String × Json) :=
  [({}, "callslice_stats", .null), ({}, "callslice_extract", .object [("root", .text "c")])]

/-- The graph, just loaded, after those calls. -/
def placesWorkshop : Workshop :=
  placesVisits.foldl Workshop.afterCall { graph := some placesGraph }

/-- The places are reported, and the service has the same excerpt. -/
theorem report_of_placesArguments :
    ({ graph := some placesGraph } : Workshop).styling.saved = []
      ∧ Accepts extractOffer.schema (.object placesArguments)
      ∧ ∃ report w' e edges s',
        extract (.object placesArguments) { placesWorkshop with world := {} } = .ok report w'
        ∧ report = .object [
            ("root", .text "a"),
            ("edges", .list edges),
            ("nodes", .list (e.members.map .text)),
            ("files", .list (e.files.map .text)),
            ("description", .text e.description)]
        ∧ List.Forall₂ (TellsOf placesGraph (directRequest placesArguments)) e.arrows edges
        ∧ placesTold (.ok report w') = [["a.c:3", "a.c:9"]]
        ∧ Service.handle placesGraph (directRequest placesArguments) {} = .ok [e] s' := by
  have haccepts : Accepts extractOffer.schema (.object placesArguments) := by
    have hwhole : (Number.Binary64.ofInt 2).whole? = some 2 := by decide +kernel
    apply Json.accepts_schemaOf.mpr
    constructor
    · simp only [List.forall_mem_cons, Json.accepts_argument, Json.accepts_textsArgument,
        Json.hasType_string, Json.hasType_boolean, Json.hasType_integer]
      simp [placesArguments, lookup, hwhole]
    · simp [placesArguments, lookup]
  have hplaces : placesTold (extract (.object placesArguments)
      { placesWorkshop with world := {} }) = [["a.c:3", "a.c:9"]] := by decide +kernel
  obtain ⟨d, hmade⟩ : ∃ d, OnDisk.makeDirectory [] (World.pathOf (Service.workplace {})) {}
      = .ok () d :=
    ⟨_, OnDisk.makeDirectory_of_missing (by decide) (by rfl) (by decide) rfl⟩
  refine ⟨rfl, haccepts, ?_⟩
  cases hrun : extract (.object placesArguments) { placesWorkshop with world := {} } with
  | error fault w' =>
    rw [hrun] at hplaces
    cases hplaces
  | ok report w' =>
    obtain ⟨root, e, edges, hroots, hreport, hedges, -, -, hhandled⟩ :=
      report_of_handled placesGraph { graph := some placesGraph } rfl rfl placesVisits {}
        placesArguments haccepts report w' hrun
    obtain rfl : "a" = root := by simpa [directRequest, placesArguments, textAt, lookup] using hroots
    have hunhindered : Service.Unhindered ({} : World) := ⟨fun _ _ => rfl, fun _ _ => rfl⟩
    obtain ⟨s', hhandle⟩ :=
      (hhandled {} ⟨rfl, Styling.Alike.refl _⟩).1 (fun _ _ => rfl) hunhindered d hmade
    rw [hrun] at hplaces
    exact ⟨report, w', e, edges, s', rfl, hreport, hedges, hplaces, hhandle⟩

/-- A place with a remark in a second line. -/
def remarkGraph : Graph := ({} : Graph).connect "a" "b" ["b~a.c:3\nvia macro"]

/-- The remark is told as a place of its own. -/
theorem place_of_two_lines :
    remarkGraph.calls.map (fun call => call.locations call.callee) = [["a.c:3\nvia macro"]]
      ∧ placesTold (extract (.object [("root", .text "a"), ("all_locations", .bool true)])
          { graph := some remarkGraph }) = [["a.c:3", "via macro"]] := by
  constructor
  · decide +kernel
  · decide +kernel

end Tools

end CallExcerpt
