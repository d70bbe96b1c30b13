import CallExcerpt.Walk.Basic

/-! # The work of a walk

    A bound on the moves that are left to a walk: two for each call that was
    not looked at, one for each child and each frame, and for each symbol that
    was not expanded what its frame would allow. Every move makes the bound
    smaller, because a frame is put up only for a symbol that was not expanded
    before. So a walk ends, and `finish` makes its moves to the end.
-/

namespace CallExcerpt

/-- The moves that a frame allows at most: two for each call, one for a child, one to leave. -/
def Frame.work (f : Frame) : Nat := 2 * f.pending.length + f.child.toList.length + 1

/-- The moves that some frames allow at most. -/
def framesWork : List Frame → Nat
  | [] => 0
  | f :: rest => f.work + framesWork rest

namespace Walk

variable (g : Graph) (plan : Plan)

/-- The moves that a symbol allows once it is expanded. -/
def symbolWork (s : Symbol) : Nat := 2 * (g.relations plan.direction s.name).length + 2

/-- The moves that the symbols which were not expanded allow. -/
def freshWork (visited : List String) : List Symbol → Nat
  | [] => 0
  | s :: rest =>
    (if s.name ∈ visited then 0 else symbolWork g plan s) + freshWork visited rest

/-- The moves that are left at most. -/
def work (w : Walk) : Nat := framesWork w.frames + freshWork g plan w.visited g.symbols

theorem freshWork_cons (visited : List String) (s : Symbol) (symbols : List Symbol) :
    freshWork g plan visited (s :: symbols)
      = (if s.name ∈ visited then 0 else symbolWork g plan s) + freshWork g plan visited symbols :=
  rfl

theorem freshWork_append_le (visited : List String) (name : String) (symbols : List Symbol) :
    freshWork g plan (visited ++ [name]) symbols ≤ freshWork g plan visited symbols := by
  induction symbols with
  | nil => exact Nat.le_refl _
  | cons s rest ih =>
    rw [freshWork_cons, freshWork_cons]
    by_cases h : s.name ∈ visited
    · simpa [h] using ih
    · by_cases h' : s.name = name
      · simp [h']
        omega
      · simpa [h, h'] using ih

/-- Expanding a symbol takes its work away from what the others allow. -/
theorem freshWork_append_add (visited : List String) {child : Symbol} {symbols : List Symbol}
    (here : child ∈ symbols) (fresh : child.name ∉ visited) :
    freshWork g plan (visited ++ [child.name]) symbols + symbolWork g plan child
      ≤ freshWork g plan visited symbols := by
  induction symbols with
  | nil => simp at here
  | cons s rest ih =>
    rw [freshWork_cons, freshWork_cons]
    rcases List.mem_cons.1 here with rfl | here
    · have := freshWork_append_le g plan visited child.name rest
      simp [fresh]
      omega
    · have := ih here
      by_cases h : s.name ∈ visited
      · simpa [h] using this
      · by_cases h' : s.name = child.name
        · simp [h']
          omega
        · simp [h, h']
          omega

theorem relationsAt_length_le (name : String) (depth : Nat) :
    (relationsAt g plan name depth).length ≤ (g.relations plan.direction name).length := by
  unfold relationsAt
  split
  · split <;> simp
  · exact Nat.le_refl _

/-- Leaving a symbol uses up its frame. -/
theorem work_leave_lt (w : Walk) (frame : Frame) (rest : List Frame)
    (h : w.frames = frame :: rest) : (w.leave frame rest).work g plan < w.work g plan := by
  simp only [work, leave, h, framesWork, Frame.work]
  omega

/-- Settling a child uses it up. -/
theorem work_settle_lt {w w' : Walk} {frame : Frame} {rest : List Frame} {child : String}
    (h : w.frames = frame :: rest) (hc : frame.child = some child)
    (hs : w.settle plan frame rest child = .ok w') : w'.work g plan < w.work g plan := by
  have settled : ∀ (w' : Walk) (b : Bool),
      w'.frames = { frame with child := none, reached := b } :: rest → w'.visited = w.visited →
      w'.work g plan < w.work g plan := by
    intro w' b hf hv
    simp [work, framesWork, hf, hv, h, Frame.work, hc]
  unfold settle at hs
  simp only at hs
  split at hs
  · cases hs
    exact settled _ _ rfl rfl
  · split at hs
    · cases hs
      exact settled _ _ rfl rfl
    · split at hs
      · cases hs
      · cases hs
        exact settled _ _ rfl rfl

/-- Following a call uses it up, and a new frame takes its work from a fresh symbol. -/
theorem work_follow_lt {w : Walk} {frame : Frame} {rest : List Frame} {call : Call}
    {child : Symbol} (here : child ∈ g.symbols) (fresh : child.name ∉ w.visited)
    (hc : frame.child = none) :
    (w.follow g plan frame rest call child).work g plan + 1
      ≤ frame.work + 2 + framesWork rest + freshWork g plan w.visited g.symbols := by
  have hf := freshWork_append_add g plan w.visited here fresh
  have hr := relationsAt_length_le g plan child.name (frame.depth + 1)
  unfold follow
  simp only
  split
  · simp only [work, draw, Frame.work, framesWork, hc, symbolWork,
      Option.toList_some, Option.toList_none, List.length_cons, List.length_nil] at *
    omega
  · simp only [work, draw, Frame.work, framesWork, hc,
      Option.toList_some, Option.toList_none, List.length_cons, List.length_nil]
    omega

/-- Looking at a call uses it up. -/
theorem work_examine_lt {w : Walk} {frame : Frame} {rest : List Frame} {call : Call}
    {pending : List Call} (h : w.frames = frame :: rest) (hc : frame.child = none)
    (hp : frame.pending = call :: pending) :
    (w.examine g plan frame rest call pending).work g plan < w.work g plan := by
  have passed : ∀ w' : Walk, w'.frames = { frame with pending } :: rest →
      w'.visited = w.visited → w'.work g plan < w.work g plan := by
    intro w' hf hv
    simp only [work, hf, hv, h, framesWork, Frame.work, hp, hc,
      List.length_cons]
    omega
  unfold examine
  simp only
  split
  · exact passed _ rfl rfl
  · rename_i child hchild
    split
    · exact passed _ rfl rfl
    · rename_i hfresh
      have here : child ∈ g.symbols := List.mem_of_find?_eq_some hchild
      have fresh : child.name ∉ w.visited := by
        intro hm
        exact hfresh (by simp [hm])
      have := @work_follow_lt g plan { w with screen := (w.screen.classify child).2 }
        { frame with pending } rest call child here fresh hc
      have hw : w.work g plan
          = frame.work + framesWork rest + freshWork g plan w.visited g.symbols := by
        simp [work, framesWork, h]
      have hl : frame.work = Frame.work { frame with pending } + 2 := by
        simp only [Frame.work, hp, hc, List.length_cons]
        omega
      simp only at this
      omega

/-- Every move makes the work smaller. -/
theorem work_step?_lt {w w' : Walk} (h : w.step? g plan = some (.ok w')) :
    w'.work g plan < w.work g plan := by
  unfold step? at h
  split at h
  · cases h
  · rename_i frame rest hf
    split at h
    · rename_i child hc
      exact work_settle_lt g plan hf hc (Option.some.inj h)
    · rename_i hc
      split at h
      · cases h
        exact work_leave_lt g plan w frame rest hf
      · rename_i call pending hp
        cases h
        exact work_examine_lt g plan hf hc hp

/-- The moves to the end, or to the first fault. -/
def finish (w : Walk) : Walk × Option WalkFault :=
  match _h : w.step? g plan with
  | none => (w, none)
  | some (.error fault) => (w, some fault)
  | some (.ok w') => finish w'
termination_by w.work g plan
decreasing_by exact work_step?_lt g plan _h

/-! ## Excerpts -/

/-- Draws the excerpt of a root. The walk is the session's account; on failure the desk shows
    what was done up to then. -/
def extract (root : String) : EStateM WalkFault Desk Walk := do
  match g.find? root with
  | none => throw (.unknownSymbol root)
  | some symbol =>
    let (w, fault) := finish g plan (start g plan symbol (← get))
    set w.toDesk
    match fault, plan.goal with
    | some fault, _ => throw fault
    | none, some goal =>
      if w.tally.arrows = 0 && symbol.name ≠ goal then
        throw (.noPath symbol.name goal w.tally.takenBack)
      else return w
    | none, none => return w

/-- A walk in a word. -/
def summary (w : Walk) : String :=
  s!"Extracted {w.tally.arrows} edges from {w.tally.root} ({w.visited.length} visited, {w.tally.takenBack} retracted)"

end Walk

end CallExcerpt
