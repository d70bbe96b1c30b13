import CallExcerpt.Proofs.Walk.Screens
import CallExcerpt.Proofs.Walk.TakingBack

/-! # Each symbol is expanded once

    The frames of a walk grow and shrink, and its moves look at calls, put up
    frames, settle children and take frames away in no fixed order. A journal
    kept beside the walk tells what it has done up to then; `Kept` says what
    such a journal and the walk know of each other.

    * `Journal.next`: what one move adds, read off the walks before and after.
    * `Kept.move`: one move keeps what the journal says.
    * `Journaled.moves_le`: the symbols and their calls bound the moves.
    * `expands_once`: a walk ends, expands each symbol once and looks at each
      call of an expanded symbol once.
-/

namespace CallExcerpt.Walk

variable {g : Graph} {plan : Plan}

/-! ## Journals -/

/-- Does a walk ask the graph for the calls of a symbol that it expands at a depth? -/
def asks (plan : Plan) (depth : Nat) : Bool :=
  match plan.maxDepth with
  | some bound => !decide (bound ≤ depth)
  | none => true

theorem asks_of_unbounded (hdepth : plan.maxDepth = none) (depth : Nat) :
    asks plan depth = true := by
  simp [asks, hdepth]

theorem relationsAt_eq (name : String) (depth : Nat) :
    relationsAt g plan name depth
      = if asks plan depth then g.relations plan.direction name else [] := by
  unfold relationsAt asks
  cases plan.maxDepth with
  | none => rfl
  | some bound => by_cases h : bound ≤ (depth : Int) <;> simp [h]

/-- What a walk has done. -/
structure Journal where
  /-- The number of moves. -/
  moves : Nat := 0
  /-- The symbols for which a frame was put up, in order. -/
  expanded : List String := []
  /-- The symbols whose calls the graph was asked for, in order. -/
  asked : List String := []
  /-- The calls that were looked at, in order, each with the symbol of its frame. -/
  looks : List (String × Call) := []
  deriving Repr, DecidableEq

/-- The frames that a later walk has above those of an earlier one. -/
def putUp (w w' : Walk) : List Frame := w'.frames.take (w'.frames.length - w.frames.length)

/-- The call that a walk is about to look at, with the symbol of its frame. -/
def nextLook (w : Walk) : Option (String × Call) :=
  match w.frames with
  | [] => none
  | frame :: _ =>
    match frame.child, frame.pending with
    | none, call :: _ => some (frame.name, call)
    | _, _ => none

/-- The calls that are left in the frames of a symbol. -/
def leftOf (frames : List Frame) (name : String) : List Call :=
  (frames.filter fun f => f.name == name).flatMap Frame.pending

namespace Journal

/-- The journal of a walk that stands at its root: its frame was put up, and the graph was asked for
    its calls unless it is shown. -/
def start (plan : Plan) (root : Symbol) (screen : Screen) : Journal where
  expanded := [root.name]
  asked := if screen.isShown root.name || !asks plan 0 then [] else [root.name]

/-- The journal after a move from one walk to another. -/
def next (plan : Plan) (j : Journal) (w w' : Walk) : Journal where
  moves := j.moves + 1
  expanded := j.expanded ++ (putUp w w').map Frame.name
  asked := j.asked ++ ((putUp w w').filter fun f => asks plan f.depth).map Frame.name
  looks := j.looks ++ (nextLook w).toList

/-- The calls that were looked at in frames of a symbol. -/
def looksFrom (j : Journal) (name : String) : List Call :=
  (j.looks.filter fun look => look.1 == name).map Prod.snd

end Journal

/-- The walks that an extraction passes through, with the journal of its moves. -/
inductive Journaled (g : Graph) (plan : Plan) (root : Symbol) (desk : Desk) :
    Journal → Walk → Prop where
  /-- The walk stands at its root. -/
  | start :
      Journaled g plan root desk (Journal.start plan root desk.screen) (Walk.start g plan root desk)
  /-- It makes one more move. -/
  | move {j w w'} (h : Journaled g plan root desk j w) (hm : w.step? g plan = some (.ok w')) :
      Journaled g plan root desk (j.next plan w w') w'

section runs
variable {root : Symbol} {desk : Desk} {j : Journal} {w w' : Walk}

theorem Journaled.onWay (h : Journaled g plan root desk j w)
    (hroot : g.find? root.name = some root) : OnWay g plan root.name desk w := by
  refine ⟨root, hroot, ?_⟩
  induction h with
  | start => exact .refl _
  | move _ hm ih => exact ih.trans (step?_eq_ok_iff.mp hm).passes

/-- Each walk that an extraction passes through has its journal. -/
theorem exists_journaled (h : Passes g plan (start g plan root desk) w) :
    ∃ j, Journaled g plan root desk j w := by
  induction h with
  | refl => exact ⟨_, .start⟩
  | tail _ hm ih =>
    obtain ⟨j, hj⟩ := ih
    exact ⟨_, hj.move (step?_eq_ok_iff.mpr hm)⟩

end runs

/-! ## What a move adds -/

section moves
variable {w w' : Walk} {frame frame' : Frame} {rest : List Frame} (j : Journal)

/-- A move that looks at no call and puts up no frame is counted, and no more. -/
theorem Journal.next_of_quiet (hf : w.frames = frame :: rest)
    (hlen : w'.frames.length ≤ (frame :: rest).length)
    (hquiet : frame.child ≠ none ∨ frame.pending = []) :
    j.next plan w w' = { j with moves := j.moves + 1 } := by
  have hnone : putUp w w' = [] := by
    have hzero : w'.frames.length - w.frames.length = 0 := by
      rw [hf]
      omega
    rw [putUp, hzero, List.take_zero]
  have hlook : nextLook w = none := by
    unfold nextLook
    rcases hquiet with hchild | hpending
    · obtain ⟨child, hc⟩ := Option.ne_none_iff_exists'.mp hchild
      simp [hf, hc]
    · cases hc : frame.child <;> simp [hf, hc, hpending]
  simp [Journal.next, hnone, hlook]

/-- A move that looks at a call notes it, with the frames that it puts up. -/
theorem Journal.next_of_look {call : Call} {pending : List Call} (above : List Frame)
    (hf : w.frames = frame :: rest) (hc : frame.child = none)
    (hp : frame.pending = call :: pending) (hf' : w'.frames = above ++ frame' :: rest) :
    j.next plan w w'
      = { moves := j.moves + 1
          expanded := j.expanded ++ above.map Frame.name
          asked := j.asked ++ (above.filter fun f => asks plan f.depth).map Frame.name
          looks := j.looks ++ [(frame.name, call)] } := by
  have habove : putUp w w' = above := by
    have hlen : w'.frames.length - w.frames.length = above.length := by
      simp [hf, hf']
    rw [putUp, hlen, hf', List.take_left']
    rfl
  have hlook : nextLook w = some (frame.name, call) := by
    simp [nextLook, hf, hc, hp]
  simp [Journal.next, habove, hlook]

end moves

/-! ## Looks and what is left -/

theorem leftOf_cons (frame : Frame) (rest : List Frame) (name : String) :
    leftOf (frame :: rest) name
      = (if frame.name = name then frame.pending else []) ++ leftOf rest name := by
  by_cases h : frame.name = name <;> simp [leftOf, h]

/-- To look at the next call of the first frame takes it from what is left to its symbol. -/
theorem looksFrom_append_leftOf {j : Journal} {frame : Frame} (frame' : Frame) {rest : List Frame}
    {call : Call} {pending : List Call} (hp : frame.pending = call :: pending)
    (hname : frame'.name = frame.name) (hpending : frame'.pending = pending) (name : String) :
    Journal.looksFrom { j with looks := j.looks ++ [(frame.name, call)] } name
        ++ leftOf (frame' :: rest) name
      = j.looksFrom name ++ leftOf (frame :: rest) name := by
  rw [leftOf_cons, leftOf_cons, hname, hp, hpending]
  by_cases h : frame.name = name <;> simp [Journal.looksFrom, h]

/-! ## What a journal says -/

/-- What a walk and its journal know of each other. -/
structure Kept (g : Graph) (plan : Plan) (root : String) (screen : Screen) (j : Journal)
    (w : Walk) : Prop where
  /-- The filters are as good as those at the beginning. -/
  agrees : screen.Agrees g w.screen
  /-- A frame was put up for each expanded symbol. -/
  expanded : j.expanded = w.visited
  /-- No symbol was expanded twice. -/
  once : w.visited.Nodup
  /-- No two frames that stand have the same symbol. -/
  apart : (w.frames.map Frame.name).Nodup
  /-- The frames that stand are of expanded symbols. -/
  standing : ∀ n ∈ w.frames.map Frame.name, n ∈ w.visited
  /-- The graph was asked for the calls of a symbol when its frame was put up. -/
  asked : j.asked.Sublist j.expanded
  /-- It was not asked for those of a symbol that is shown, and of the goal only at the root. -/
  askable : ∀ n ∈ j.asked, screen.isShown n = false ∧ (plan.goal = some n → n = root)
  /-- Only a bound on the depth keeps it from asking for those of another symbol. -/
  asksAll : plan.maxDepth = none → ∀ n ∈ w.visited, screen.isShown n = false → n ∈ j.asked
  /-- The calls that were looked at and those that are left are all that the graph has told. -/
  looked : ∀ n, j.looksFrom n ++ leftOf w.frames n
    = if n ∈ j.asked then g.relations plan.direction n else []

section kept
variable {root : String} {screen : Screen} {j : Journal} {w w' : Walk}

theorem kept_start (g : Graph) (plan : Plan) (root : Symbol) (desk : Desk) :
    Kept g plan root.name desk.screen (Journal.start plan root desk.screen)
      (start g plan root desk) := by
  refine ⟨.refl g _, rfl, ?_, ?_, ?_, ?_, ?_, ?_, ?_⟩
  · simp [start]
  · simp [start]
  · simp [start]
  · unfold Journal.start
    split <;> simp
  · intro n hn
    unfold Journal.start at hn
    cases hs : desk.screen.isShown root.name with
    | true => simp [hs] at hn
    | false =>
      simp only [hs, Bool.false_or] at hn
      split at hn
      · cases hn
      · obtain rfl := List.mem_singleton.mp hn
        exact ⟨hs, fun _ => rfl⟩
  · intro hdepth n hn hs
    obtain rfl := List.mem_singleton.mp hn
    simp [Journal.start, hs, asks_of_unbounded hdepth]
  · -- nothing was looked at, and the frame of the root has what the graph was asked for
    intro n
    have hleft : leftOf (start g plan root desk).frames n
        = if root.name = n then rootCalls g plan desk.screen root.name else [] := by
      have hframes : (start g plan root desk).frames = [{
          name := root.name
          depth := 0
          pending := rootCalls g plan desk.screen root.name }] := rfl
      rw [hframes, leftOf_cons]
      simp [leftOf]
    have hlooks : (Journal.start plan root desk.screen).looksFrom n = [] := rfl
    rw [hlooks, hleft, List.nil_append, rootCalls, relationsAt_eq, Journal.start]
    by_cases hn : root.name = n
    · subst hn
      cases desk.screen.isShown root.name <;> cases asks plan 0 <;> simp
    · have hn' : n ≠ root.name := fun h => hn h.symm
      simp only [hn, if_false]
      split <;> simp [hn']

/-- A move that puts up no frame, if what was looked at and what is left stay the same together. -/
private theorem Kept.stay {j' : Journal} (h : Kept g plan root screen j w)
    (hexpanded : j'.expanded = j.expanded) (hasked : j'.asked = j.asked)
    (hagrees : screen.Agrees g w'.screen) (hvisited : w'.visited = w.visited)
    (hnames : (w'.frames.map Frame.name).Sublist (w.frames.map Frame.name))
    (hlooks : ∀ n, j'.looksFrom n ++ leftOf w'.frames n = j.looksFrom n ++ leftOf w.frames n) :
    Kept g plan root screen j' w' := by
  refine ⟨hagrees, ?_, ?_, hnames.nodup h.apart, ?_, ?_, ?_, ?_, ?_⟩
  · rw [hexpanded, hvisited]
    exact h.expanded
  · rw [hvisited]
    exact h.once
  · intro n hn
    rw [hvisited]
    exact h.standing n (hnames.subset hn)
  · rw [hasked, hexpanded]
    exact h.asked
  · rw [hasked]
    exact h.askable
  · rw [hasked, hvisited]
    exact h.asksAll
  · intro n
    rw [hasked, hlooks]
    exact h.looked n

/-- A frame is put up for a symbol that was not expanded. -/
private theorem Kept.raise {frame : Frame} (h : Kept g plan root screen j w)
    (hfresh : frame.name ∉ w.visited) (hgoes : goesOn g plan screen frame.name = true)
    (hpending : frame.pending = relationsAt g plan frame.name frame.depth)
    (hagrees : screen.Agrees g w'.screen) (hvisited : w'.visited = w.visited ++ [frame.name])
    (hf' : w'.frames = frame :: w.frames) :
    Kept g plan root screen
      { j with
        expanded := j.expanded ++ [frame.name]
        asked := j.asked ++ ([frame].filter fun f => asks plan f.depth).map Frame.name } w' := by
  obtain ⟨hhidden, honward, -⟩ := goesOn_iff.mp hgoes
  have hnames : (([frame].filter fun f => asks plan f.depth).map Frame.name)
      = if asks plan frame.depth then [frame.name] else [] := by
    cases hasks : asks plan frame.depth <;> simp [hasks]
  -- what was asked for was expanded, so that nothing is known of a fresh symbol
  have hnotasked : frame.name ∉ j.asked := by
    intro hin
    exact hfresh (h.expanded ▸ h.asked.subset hin)
  refine ⟨hagrees, ?_, ?_, ?_, ?_, ?_, ?_, ?_, ?_⟩
  · rw [hvisited, h.expanded]
  · rw [hvisited, List.nodup_append]
    refine ⟨h.once, by simp, ?_⟩
    intro a ha b hb heq
    rw [List.mem_singleton.mp hb] at heq
    exact hfresh (heq ▸ ha)
  · rw [hf', List.map_cons, List.nodup_cons]
    exact ⟨fun hin => hfresh (h.standing _ hin), h.apart⟩
  · intro n hn
    rw [hf', List.map_cons] at hn
    rw [hvisited, List.mem_append]
    rcases List.mem_cons.mp hn with rfl | hn
    · exact .inr (List.mem_singleton.mpr rfl)
    · exact .inl (h.standing n hn)
  · rw [hnames]
    refine h.asked.append ?_
    split <;> simp
  · intro n hn
    rw [hnames] at hn
    rcases List.mem_append.mp hn with hn | hn
    · exact h.askable n hn
    · split at hn
      · obtain rfl := List.mem_singleton.mp hn
        exact ⟨hhidden, fun hgoal => absurd hgoal honward⟩
      · cases hn
  · intro hdepth n hn hs
    rw [hnames, asks_of_unbounded hdepth, if_pos rfl]
    rw [hvisited, List.mem_append] at hn
    rw [List.mem_append]
    exact hn.imp_left fun hold => h.asksAll hdepth n hold hs
  · intro n
    have hlooked := h.looked n
    rw [hf', leftOf_cons, hnames, hpending, relationsAt_eq]
    show j.looksFrom n ++ _ = _
    by_cases hn : frame.name = n
    · -- a fresh symbol: nothing was looked at from there, and nothing is left
      subst hn
      rw [if_neg hnotasked, List.append_eq_nil_iff] at hlooked
      rw [hlooked.1, hlooked.2]
      cases asks plan frame.depth <;> simp [hnotasked]
    · have hn' : n ≠ frame.name := fun h => hn h.symm
      rw [if_neg hn, List.nil_append, hlooked]
      cases asks plan frame.depth <;> simp [hn']

/-- One move keeps what the journal says. -/
theorem Kept.move (h : Kept g plan root screen j w) (hm : Move g plan w w') :
    Kept g plan root screen (j.next plan w w') w' := by
  have hagrees := h.agrees.trans hm.agrees
  cases hm with
  | @keep frame rest child hf hc _ =>
    rw [j.next_of_quiet hf (by simp) (.inl (by simp [hc]))]
    refine h.stay rfl rfl hagrees rfl (by simp [hf]) ?_
    intro n
    rw [hf, leftOf_cons, leftOf_cons]
    rfl
  | @takeBack frame rest child arrow below hf hc _ _ _ =>
    rw [j.next_of_quiet hf (by simp) (.inl (by simp [hc]))]
    refine h.stay rfl rfl hagrees rfl (by simp [hf]) ?_
    intro n
    rw [hf, leftOf_cons, leftOf_cons]
    rfl
  | @leave frame rest hf hc hp =>
    rw [j.next_of_quiet hf (by simp [Walk.leave]) (.inr hp)]
    refine h.stay rfl rfl hagrees rfl (by simp [hf, Walk.leave]) ?_
    -- the frame that is taken away has no call left
    intro n
    rw [hf, leftOf_cons, hp, ite_self, List.nil_append]
    rfl
  | @pass frame rest call pending hf hc hp _ =>
    rw [j.next_of_look [] hf hc hp rfl]
    refine h.stay (by simp) (by simp) hagrees rfl (by simp [hf]) ?_
    intro n
    rw [hf]
    exact looksFrom_append_leftOf { frame with pending } hp rfl rfl n
  | @follow frame rest call pending child hf hc hp hm =>
    -- first the arrow is drawn, as if the walk stopped there
    rw [follow_screen] at hagrees
    have hstays : Kept g plan root screen
        { j with moves := j.moves + 1, looks := j.looks ++ [(frame.name, call)] }
        (Walk.awaiting { w with screen := (w.screen.classify child).2 } { frame with pending } rest
          call child g plan) := by
      refine h.stay rfl rfl hagrees rfl (by simp [hf, awaiting]) ?_
      intro n
      rw [hf]
      exact looksFrom_append_leftOf { frame with pending, child := some child.name } hp rfl rfl n
    have hgo : goesOn g plan (w.screen.classify child).2 child.name
        = goesOn g plan screen child.name := goesOn_of_agrees hagrees child.name
    rw [follow_eq]
    cases hgoes : goesOn g plan screen child.name with
    | false =>
      rw [if_neg (by simp [hgo, hgoes]), j.next_of_look [] hf hc hp rfl]
      simpa using hstays
    | true =>
      rw [if_pos (by simp [hgo, hgoes]),
        j.next_of_look [frameBelow { frame with pending } child g plan] hf hc hp rfl]
      exact hstays.raise hm.fresh hgoes rfl hstays.agrees rfl rfl

/-- All along an extraction the journal is kept. -/
theorem Journaled.kept {root : Symbol} {desk : Desk} (h : Journaled g plan root desk j w) :
    Kept g plan root.name desk.screen j w := by
  induction h with
  | start => exact kept_start g plan root desk
  | move _ hm ih => exact ih.move (step?_eq_ok_iff.mp hm)

end kept

/-! ## The end of a walk -/

/-- The moves that a graph allows: two for each symbol, and two for each call that is followed from
    it. -/
def movesOf (g : Graph) (plan : Plan) : Nat :=
  2 * g.symbols.length
    + 2 * (g.symbols.flatMap fun s => g.relations plan.direction s.name).length

theorem freshWork_nil (g : Graph) (plan : Plan) (symbols : List Symbol) :
    freshWork g plan [] symbols
      = 2 * symbols.length
        + 2 * (symbols.flatMap fun s => g.relations plan.direction s.name).length := by
  induction symbols with
  | nil => rfl
  | cons s rest ih =>
    rw [freshWork_cons, ih, List.flatMap_cons, List.length_append, List.length_cons]
    simp only [List.not_mem_nil, if_false, symbolWork]
    omega

/-- The moves of a walk, with those that are left at most, are not more than its graph allows. -/
theorem Journaled.moves_le {root : Symbol} {desk : Desk} {j : Journal} {w : Walk}
    (h : Journaled g plan root desk j w) (hroot : g.find? root.name = some root) :
    j.moves + w.work g plan ≤ movesOf g plan := by
  induction h with
  | start =>
    -- the frame of the root has what its symbol allows, and the others have theirs
    have hmem : root ∈ g.symbols := List.mem_of_find?_eq_some hroot
    have hfresh := freshWork_append_add g plan [] hmem (by simp)
    rw [freshWork_nil, List.nil_append] at hfresh
    change _ ≤ movesOf g plan at hfresh
    have hcalls : (rootCalls g plan desk.screen root.name).length
        ≤ (g.relations plan.direction root.name).length := by
      unfold rootCalls
      split
      · exact Nat.zero_le _
      · exact relationsAt_length_le g plan root.name 0
    have hwork : (Walk.start g plan root desk).work g plan
        = 2 * (rootCalls g plan desk.screen root.name).length + 1
          + freshWork g plan [root.name] g.symbols := rfl
    have hzero : (Journal.start plan root desk.screen).moves = 0 := rfl
    unfold symbolWork at hfresh
    omega
  | @move j w w' _ hm ih =>
    have hlt := work_step?_lt g plan hm
    have hnext : (j.next plan w w').moves = j.moves + 1 := rfl
    omega

/-- The moves of a walk come to an end, and none of them fails. Its stack never holds two frames of
    one symbol. At the end one frame was put up for each symbol that was expanded, the graph was
    asked at most once for the calls of a symbol, never of one that is shown, nor of a goal other
    than the root, and of what it told each call was looked at once. Without a bound on the depth
    it was asked for the calls of all symbols that were expanded, a root apart that is shown. -/
theorem expands_once (g : Graph) (plan : Plan) (root : Symbol) (desk : Desk)
    (hroot : g.find? root.name = some root) :
    (∀ j w, Journaled g plan root desk j w →
      j.moves ≤ movesOf g plan ∧
      (w.frames.map Frame.name).Nodup ∧
      (w.frames = [] ∨ ∃ w', w.step? g plan = some (.ok w'))) ∧
    (∃ j w, Journaled g plan root desk j w ∧ w.frames = [] ∧
      finish g plan (start g plan root desk) = (w, none)) ∧
    ∀ j w, Journaled g plan root desk j w → w.frames = [] →
      j.expanded = w.visited ∧ w.visited.Nodup ∧ j.asked.Nodup ∧
      (∀ n ∈ j.asked, n ∈ w.visited ∧ desk.screen.isShown n = false ∧
        (plan.goal = some n → n = root.name)) ∧
      (∀ n, j.looksFrom n = if n ∈ j.asked then g.relations plan.direction n else []) ∧
      (plan.maxDepth = none → ∀ n ∈ w.visited, desk.screen.isShown n = false → n ∈ j.asked) := by
  refine ⟨?_, ?_, ?_⟩
  · intro j w hj
    have hkept := hj.kept
    have hbound := hj.moves_le hroot
    refine ⟨by omega, hkept.apart, ?_⟩
    cases hstep : w.step? g plan with
    | none => exact .inl (step?_eq_none_iff.mp hstep)
    | some outcome =>
      cases outcome with
      | error fault => exact absurd hstep ((hj.onWay hroot).step?_ne_error fault)
      | ok w' => exact .inr ⟨w', rfl⟩
  · -- the walk that has grown its forest has ended, and it has a journal
    obtain ⟨forest, after, hgrows⟩ := exists_grows g plan desk.screen [root.name] root.name 0
      (rootCalls g plan desk.screen root.name)
    have hin : g.contains root.name = true := by simp [Graph.contains, hroot]
    obtain ⟨w, ⟨symbol, hsymbol, hrun⟩, hended, -, -⟩ := exists_end_of_grows hin hgrows
    obtain rfl : root = symbol := Option.some.inj (hroot.symm.trans hsymbol)
    obtain ⟨j, hj⟩ := exists_journaled hrun
    refine ⟨j, w, hj, hended, ?_⟩
    rw [finish_of_passes hrun, finish_of_done hended]
  · intro j w hj hended
    have hkept := hj.kept
    refine ⟨hkept.expanded, hkept.once, ?_, ?_, ?_, hkept.asksAll⟩
    · exact hkept.asked.nodup (hkept.expanded ▸ hkept.once)
    · intro n hn
      exact ⟨hkept.expanded ▸ hkept.asked.subset hn, hkept.askable n hn⟩
    · intro n
      have hlooked := hkept.looked n
      rw [hended] at hlooked
      simpa [leftOf] using hlooked

/-- The root is the goal, and each of two symbols calls the other and itself: both are expanded
    once, all four calls are looked at, and the walk ends after twelve moves at most. -/
theorem looks_once_in_a_cycle :
    let g := (((({} : Graph).connect "a" "a" []).connect "a" "b" []).connect "b" "b" []).connect
      "b" "a" []
    let plan : Plan := { goal := some "a" }
    let root : Symbol := { name := "a", defined := false }
    ∃ j w, Journaled g plan root {} j w ∧ w.frames = [] ∧ j.expanded = ["a", "b"] ∧
      j.asked.Nodup ∧ j.moves ≤ 12 ∧ (j.looksFrom "a").map Call.callee = ["a", "b"] ∧
      (j.looksFrom "b").map Call.callee = ["b", "a"] := by
  intro g plan root
  obtain ⟨hruns, ⟨j, w, hj, hended, hfinish⟩, hends⟩ := expands_once g plan root {} (by decide)
  obtain ⟨hexpanded, -, honce, -, hlooks, hasked⟩ := hends j w hj hended
  have hvisited : w.visited = ["a", "b"] := by
    have hrun : (finish g plan (start g plan root {})).1.visited = ["a", "b"] := by decide +kernel
    rwa [hfinish] at hrun
  have hall : ∀ n ∈ ["a", "b"], n ∈ j.asked := by
    intro n hn
    exact hasked rfl n (hvisited ▸ hn) rfl
  refine ⟨j, w, hj, hended, hexpanded.trans hvisited, honce, (hruns j w hj).1, ?_, ?_⟩
  · rw [hlooks, if_pos (hall "a" (by simp))]
    decide
  · rw [hlooks, if_pos (hall "b" (by simp))]
    decide

end CallExcerpt.Walk
