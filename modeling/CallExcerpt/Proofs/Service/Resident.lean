import CallExcerpt.Proofs.Service.Serve
import CallExcerpt.Proofs.Success
import CallExcerpt.Tools.Call

/-! # A graph that stays

    The service and the tools beside it keep one graph for all that they are
    asked. Whatever that is, and whether it succeeds or fails, the graph is the
    same afterwards, and its symbols have the attributes that they had.

    * `steady_extract`, `steady_handleRecord`: what a service does is steady,
      failures that it catches included.
    * `Resident`: a workshop with its graph and nothing laid over the lasting
      attributes; `Leaves`: work that leaves it so, however it ends.
    * `leaves_call`, `Resident.afterCalls`: one call of a tool, and many of them.
    * `Ask`, `Ask.leaves`: one thing that is asked.
    * `carries_nothing_over`: many things that are asked, in any worlds.
-/

namespace CallExcerpt

open Serving (Same Steady)
open Styling (Rests)

/-! ## The service -/

namespace Serving

variable {fresh : Styling} {α : Type}

/-- What a failure is made of does not depend on the attributes either. -/
theorem Steady.tryCatch {x : Serving α} {h : Failure → Serving α} (hx : Steady fresh x)
    (hh : ∀ failure, Steady fresh (h failure)) : Steady fresh (tryCatch x h) := by
  intro world s s' hs hs'
  have hfirst := hx world s s' hs hs'
  show Same fresh ((MonadExcept.tryCatch x h : Serving α).run ⟨world, s⟩)
    ((MonadExcept.tryCatch x h : Serving α).run ⟨world, s'⟩)
  rw [Service.run_tryCatch, Service.run_tryCatch]
  generalize hr : EStateM.run x ⟨world, s⟩ = result
  generalize hr' : EStateM.run x ⟨world, s'⟩ = result'
  change x ⟨world, s⟩ = _ at hr
  change x ⟨world, s'⟩ = _ at hr'
  rw [hr, hr'] at hfirst
  cases hfirst with
  | ok h h' => exact .ok h h'
  | error h h' => exact hh _ _ _ _ h h'

end Serving

namespace Service

open Serving

variable {fresh : Styling}

theorem steady_extract (g : Graph) (root : String) (r : Request) :
    Steady fresh (extract g root r) := by
  let extracting (world : World) : Serving Excerpt := do
    let filters ← Serving.ofExcept .pattern (Filters.compile r.filters world.fits)
    let drawn ← draw g r { filters } root
    Serving.ofExcept .walk drawn.1
  have hextracting : ∀ world, Steady fresh (extracting world) := ?_
  · exact steady_world hextracting
  intro world
  refine (steady_ofExcept _ _).bind fun filters => ?_
  refine (steady_draw g r { filters } root).bind fun drawn => ?_
  exact steady_ofExcept _ _

theorem steady_handleRecord (g : Graph) (record : String) :
    Steady fresh (handleRecord g record) := by
  unfold handleRecord
  refine (Steady.tryCatch ?_ fun failure => ?_).bind fun result => ?_
  · refine (steady_ofExcept _ _).bind fun r => (steady_note _ _).bind fun _ => ?_
    exact (steady_handle g r).bind fun es => steady_pure _
  · have hlogged :
        Steady fresh (pure (.error []) : Serving (Except (List Excerpt) (List Excerpt))) :=
      steady_pure _
    split
    · exact (steady_note _ _).bind fun _ => hlogged
    · exact (steady_onWorld _).bind fun _ => hlogged
  · cases result with
    | ok es => exact steady_pure es
    | error es => exact steady_pure es

end Service

/-! ## The workshop -/

namespace Tools

/-- The workshop after some work, whether it succeeded or failed. -/
def Workshop.after {α : Type} (w : Workshop) (x : Calling α) : Workshop :=
  match x w with
  | .ok _ w' | .error _ w' => w'

/-- The workshop keeps a graph, and nothing is laid over the lasting attributes. -/
structure Resident (g : Graph) (fresh : Styling) (w : Workshop) : Prop where
  graph : w.graph = some g
  rests : Rests fresh w.styling

/-- Work that leaves the graph and the attributes as they were, however it ends. -/
def Leaves (g : Graph) (fresh : Styling) {α : Type} (x : Calling α) : Prop :=
  ∀ w, Resident g fresh w → Resident g fresh (w.after x)

variable {g : Graph} {fresh : Styling} {α β : Type}

theorem leaves_pure (a : α) : Leaves g fresh (pure a) := fun _ h => h

theorem leaves_ofExcept (x : Except Fault α) : Leaves g fresh (Calling.ofExcept x) := by
  intro w h
  cases x with
  | ok a => exact h
  | error fault => exact h

theorem Leaves.bind {x : Calling α} {f : α → Calling β} (hx : Leaves g fresh x)
    (hf : ∀ a, Leaves g fresh (f a)) : Leaves g fresh (x >>= f) := by
  intro w h
  have hfirst := hx w h
  have hrun : (x >>= f) w = (x >>= f).run w := rfl
  rw [Workshop.after, hrun, EStateM.run_bind]
  generalize hr : EStateM.run x w = result
  change x w = _ at hr
  rw [Workshop.after, hr] at hfirst
  cases result with
  | ok a w' => exact hf a w' hfirst
  | error fault w' => exact hfirst

/-- Work that begins with a look at the workshop. -/
theorem leaves_get : Leaves g fresh (get : Calling Workshop) := fun _ h => h

/-- Steady work at the station leaves the attributes as they were. -/
theorem leaves_onStation {x : Serving α} (hx : Steady fresh x) :
    Leaves g fresh (Calling.onStation x) := by
  intro w h
  have hsame := hx w.world w.styling w.styling h.rests h.rests
  rw [Workshop.after, Calling.onStation]
  change Same fresh (x w.toStation) (x w.toStation) at hsame
  generalize x w.toStation = result at hsame
  cases hsame with
  | ok hrests _ => exact ⟨h.graph, hrests⟩
  | error hrests _ => exact ⟨h.graph, hrests⟩

/-- The graph is there, so that it is not loaded again. -/
theorem theGraph_of_resident {w : Workshop} (h : Resident g fresh w) : theGraph w = .ok g w := by
  show theGraph.run w = .ok g w
  rw [theGraph, EStateM.run_bind, EStateM.run_get]
  simp only [h.graph, EStateM.run_pure]

theorem leaves_theGraph : Leaves g fresh theGraph := by
  intro w h
  rw [Workshop.after, theGraph_of_resident h]
  exact h

/-- A call of the tool that draws excerpts: its arguments are read before the graph is there and
    after that, and each of them may end it. -/
theorem leaves_extract (arguments : Json) : Leaves g fresh (extract arguments) := by
  unfold extract
  refine (leaves_ofExcept _).bind fun ms => (leaves_ofExcept _).bind fun direction => ?_
  refine (leaves_ofExcept _).bind fun root => (leaves_ofExcept _).bind fun ignore => ?_
  refine (leaves_ofExcept _).bind fun ignorePatterns => (leaves_ofExcept _).bind fun shown => ?_
  refine (leaves_ofExcept _).bind fun maxDepth => leaves_theGraph.bind fun graph => ?_
  -- what is done once it is settled where the walk is to end
  extract_lets +lift flag drawn
  have hdrawn : ∀ goal, Leaves g fresh (drawn goal) := by
    intro goal
    refine (leaves_ofExcept _).bind fun ignore => leaves_get.bind fun w => ?_
    refine (leaves_ofExcept _).bind fun patterns => ?_
    refine (leaves_ofExcept _).bind fun shown => (leaves_ofExcept _).bind fun symbol => ?_
    exact (leaves_onStation (Service.steady_extract _ _ _)).bind fun e => leaves_pure _
  split
  · exact (leaves_pure _).bind hdrawn
  · exact (leaves_ofExcept _).bind fun symbol => (leaves_pure _).bind hdrawn

theorem Leaves.tryCatch {x : Calling α} {handler : Fault → Calling α} (hx : Leaves g fresh x)
    (hh : ∀ fault, Leaves g fresh (handler fault)) : Leaves g fresh (tryCatch x handler) := by
  intro w h
  have hfirst := hx w h
  unfold Workshop.after at hfirst ⊢
  cases hrun : x w with
  | ok a w' =>
    rw [hrun] at hfirst
    rw [Success.tryCatch_of_ok hrun]
    exact hfirst
  | error fault w' =>
    rw [hrun] at hfirst
    rw [Success.tryCatch_of_error hrun]
    exact hh fault w' hfirst

theorem leaves_throw (fault : Fault) : Leaves g fresh (throw fault : Calling α) := fun _ h => h

theorem leaves_find (arguments : Json) : Leaves g fresh (find arguments) := by
  unfold find
  extract_lets +lift found
  have hfound : ∀ ms, Leaves g fresh (found ms) := by
    intro ms
    refine (leaves_ofExcept _).bind fun v => leaves_get.bind fun w => ?_
    refine (leaves_ofExcept _).bind fun patterns => ?_
    exact leaves_theGraph.bind fun graph => (leaves_ofExcept _).bind fun limit => leaves_pure _
  split
  · exact (leaves_pure _).bind hfound
  · exact (leaves_throw _).bind hfound

theorem leaves_stats : Leaves g fresh stats := leaves_theGraph.bind fun _ => leaves_pure _

/-- Whichever tool is called, and whatever becomes of the call. -/
theorem leaves_call (tool : String) (arguments : Json) : Leaves g fresh (call tool arguments) := by
  have hresult : Leaves g fresh (result tool arguments) := by
    unfold result
    split
    · exact leaves_extract arguments
    · split
      · exact leaves_find arguments
      · split
        · exact leaves_stats
        · exact leaves_pure _
  -- both the result and what is told of a fault leave the block at once
  have hanswered : ∀ text, Leaves g fresh (pure (.error text) : Calling (Except String String)) :=
    fun _ => leaves_pure _
  refine (Leaves.tryCatch (hresult.bind fun v => hanswered _) fun fault => ?_).bind fun answer => ?_
  · split
    · exact hanswered _
    · exact (leaves_throw fault).bind fun r => leaves_pure _
  · cases answer with
    | ok text => exact leaves_pure text
    | error text => exact leaves_pure text

/-- Whatever leaves the workshop as it was may come many times. -/
theorem Resident.foldl {step : Workshop → β → Workshop} {w : Workshop} (h : Resident g fresh w)
    (hstep : ∀ w b, Resident g fresh w → Resident g fresh (step w b)) (visits : List β) :
    Resident g fresh (visits.foldl step w) := by
  induction visits generalizing w with
  | nil => exact h
  | cons visit visits ih => exact ih (hstep w visit h)

/-- The workshop after a tool was called in some world. -/
def Workshop.afterCall (w : Workshop) (visit : World × String × Json) : Workshop :=
  Workshop.after { w with world := visit.1 } (call visit.2.1 visit.2.2)

theorem Resident.afterCalls {w : Workshop} (h : Resident g fresh w)
    (visits : List (World × String × Json)) :
    Resident g fresh (visits.foldl Workshop.afterCall w) :=
  h.foldl (fun w visit hw =>
    leaves_call visit.2.1 visit.2.2 { w with world := visit.1 } ⟨hw.graph, hw.rests⟩) visits

/-! ## What is asked -/

/-- What somebody asks of the service and the tools beside it. -/
inductive Ask where
  /-- The excerpt of a root. -/
  | excerpt (root : String) (r : Request)
  /-- The excerpt of a root, with filters that have been in use. -/
  | screened (root : String) (r : Request) (screen : Screen)
  /-- The excerpts of a request, written as it says. -/
  | request (r : Request)
  /-- The request of a record. -/
  | record (text : String)
  /-- The tool that draws excerpts. -/
  | tool (arguments : Json)

/-- The work that is done for it. -/
def Ask.work (g : Graph) : Ask → Calling Unit
  | .excerpt root r => do let _ ← Calling.onStation (Service.extract g root r)
  | .screened root r screen => do let _ ← Calling.onStation (Service.draw g r screen root)
  | .request r => do let _ ← Calling.onStation (Service.handle g r)
  | .record text => do let _ ← Calling.onStation (Service.handleRecord g text)
  | .tool arguments => do let _ ← extract arguments

theorem Ask.leaves (ask : Ask) : Leaves g fresh (ask.work g) := by
  cases ask with
  | excerpt root r =>
    exact (leaves_onStation (Service.steady_extract g root r)).bind fun _ => leaves_pure _
  | screened root r screen =>
    exact (leaves_onStation (Service.steady_draw g r screen root)).bind fun _ => leaves_pure _
  | request r => exact (leaves_onStation (Service.steady_handle g r)).bind fun _ => leaves_pure _
  | record text =>
    exact (leaves_onStation (Service.steady_handleRecord g text)).bind fun _ => leaves_pure _
  | tool arguments => exact (leaves_extract arguments).bind fun _ => leaves_pure _

/-- The workshop after something was asked in some world. -/
def Workshop.afterAsk (g : Graph) (w : Workshop) (visit : World × Ask) : Workshop :=
  Workshop.after { w with world := visit.1 } (visit.2.work g)

theorem Resident.afterAsk {w : Workshop} (h : Resident g fresh w) (visit : World × Ask) :
    Resident g fresh (w.afterAsk g visit) :=
  visit.2.leaves { w with world := visit.1 } ⟨h.graph, h.rests⟩

theorem Resident.afterAsks {w : Workshop} (h : Resident g fresh w) (visits : List (World × Ask)) :
    Resident g fresh (visits.foldl (Workshop.afterAsk g) w) :=
  h.foldl (fun _ visit hw => hw.afterAsk visit) visits

/-- Nothing is carried over from what was asked before. Whatever that was, in whatever worlds, and
    whether it succeeded or failed: the graph is the same as when it was loaded, all symbols have
    the attributes that they had then, with nothing laid over them, and the excerpt of a root comes
    out as it would from the graph when it was loaded. -/
theorem carries_nothing_over (g : Graph) (w : Workshop) (hgraph : w.graph = some g)
    (hsaved : w.styling.saved = []) (visits : List (World × Ask)) :
    (visits.foldl (Workshop.afterAsk g) w).graph = some g
    ∧ (visits.foldl (Workshop.afterAsk g) w).styling.saved = []
    ∧ (∀ name, (visits.foldl (Workshop.afterAsk g) w).styling.of name = w.styling.of name)
    ∧ ∀ root r world, Same w.styling
        (Service.extract g root r ⟨world, (visits.foldl (Workshop.afterAsk g) w).styling⟩)
        (Service.extract g root r ⟨world, w.styling⟩) := by
  have hrests : Rests w.styling w.styling := ⟨hsaved, Styling.Alike.refl _⟩
  have hbegun : Resident g w.styling w := ⟨hgraph, hrests⟩
  have hafter := hbegun.afterAsks visits
  refine ⟨hafter.graph, hafter.rests.saved, hafter.rests.alike, ?_⟩
  intro root r world
  exact Service.steady_extract g root r world _ _ hafter.rests hrests

/-- A graph of one call. -/
def callGraph : Graph := ({} : Graph).connect "a" "b" []

/-- The graph, just loaded. -/
def loaded : Workshop := { graph := some callGraph }

/-- An excerpt that marks both symbols, one of a symbol that is not there, a text that is no record,
    and a call without arguments. -/
def variousAsks : List (World × Ask) := [
  ({}, .excerpt "a" {}),
  ({}, .request { roots := ["c"] }),
  ({}, .record "callslice"),
  ({}, .tool .null)]

theorem various_asks_leave_nothing :
    loaded.graph = some callGraph ∧ loaded.styling.saved = []
    ∧ (variousAsks.foldl (Workshop.afterAsk callGraph) loaded).styling.of "b" = [] := by
  obtain ⟨-, -, hattributes, -⟩ := carries_nothing_over callGraph loaded rfl rfl variousAsks
  exact ⟨rfl, rfl, hattributes "b"⟩

end Tools

end CallExcerpt
