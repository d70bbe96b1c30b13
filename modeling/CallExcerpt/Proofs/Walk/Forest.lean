import CallExcerpt.Walk.Arrow
import Mathlib.Logic.Relation

/-! # Forests of arrows

    The shape of what a walk draws: below each arrow hangs what was drawn from
    its target. A forest is kept as a first branch and the branches beside it,
    so that recursion on forests is structural.

    * `arrows`: the arrows in the order of drawing.
    * `kept`: what a goal leaves of a forest. A branch stays if its arrow ends
      at the goal or something below it does.
    * `Hangs`: each arrow begins where the arrow above it ends, which was drawn
      before it (`Hangs.source_before`).
    * `chain_of_mem_kept`: what is kept lies on chains that end at the goal.
    * `layer`, `Lies`: the arrows with a number of arrows above them, and where
      they end. Taking arrows back changes no layer.
    * `chain_of_mem_layer`: the arrows above an arrow make a chain to its end.
-/

namespace CallExcerpt

/-- Arrows with what was drawn below them. -/
inductive Forest where
  /-- Nothing drawn. -/
  | nil
  /-- An arrow, what was drawn from its target, and what was drawn after that. -/
  | branch (arrow : Arrow) (below rest : Forest)

namespace Forest

/-- The arrows in the order of drawing. -/
def arrows : Forest → List Arrow
  | nil => []
  | branch arrow below rest => arrow :: (below.arrows ++ rest.arrows)

/-- Does an arrow end at the goal? -/
def reaches (goal : Option String) : Forest → Bool
  | nil => false
  | branch arrow below rest =>
    decide (goal = some arrow.target) || below.reaches goal || rest.reaches goal

/-- Does a branch stay, given its arrow and what is below it? -/
def stays (goal : Option String) (arrow : Arrow) (below : Forest) : Bool :=
  decide (goal = some arrow.target) || below.reaches goal

/-- What a goal leaves of a forest; without a goal all stays. -/
def kept (goal : Option String) : Forest → Forest
  | nil => nil
  | branch arrow below rest =>
    if goal.isNone || stays goal arrow below then
      branch arrow (below.kept goal) (rest.kept goal)
    else rest.kept goal

theorem reaches_branch (goal : Option String) (arrow : Arrow) (below rest : Forest) :
    (branch arrow below rest).reaches goal = (stays goal arrow below || rest.reaches goal) := rfl

theorem kept_of_stays {goal : String} {arrow : Arrow} {below rest : Forest}
    (hs : stays (some goal) arrow below = true) :
    (branch arrow below rest).kept (some goal)
      = branch arrow (below.kept (some goal)) (rest.kept (some goal)) := by
  simp [kept, hs]

theorem kept_of_not_stays {goal : String} {arrow : Arrow} {below rest : Forest}
    (hs : stays (some goal) arrow below = false) :
    (branch arrow below rest).kept (some goal) = rest.kept (some goal) := by
  simp [kept, hs]

@[simp] theorem kept_none (forest : Forest) : forest.kept none = forest := by
  induction forest with
  | nil => rfl
  | branch arrow below rest ihb ihr => simp [kept, ihb, ihr]

/-- An arrow of the forest ends at the symbol. -/
def Ends (forest : Forest) (name : String) : Prop := ∃ a ∈ forest.arrows, a.target = name

@[simp] theorem not_ends_nil (name : String) : ¬ nil.Ends name := by
  rintro ⟨a, ha, -⟩
  cases ha

@[simp] theorem ends_branch {arrow : Arrow} {below rest : Forest} {name : String} :
    (branch arrow below rest).Ends name
      ↔ arrow.target = name ∨ below.Ends name ∨ rest.Ends name := by
  simp only [Ends, arrows, List.mem_cons, List.mem_append]
  constructor
  · rintro ⟨a, rfl | ha | ha, h⟩
    · exact .inl h
    · exact .inr (.inl ⟨a, ha, h⟩)
    · exact .inr (.inr ⟨a, ha, h⟩)
  · rintro (h | ⟨a, ha, h⟩ | ⟨a, ha, h⟩)
    · exact ⟨arrow, .inl rfl, h⟩
    · exact ⟨a, .inr (.inl ha), h⟩
    · exact ⟨a, .inr (.inr ha), h⟩

/-- A symbol that is old, the target of the arrow, or has an arrow below it. -/
theorem mem_or_ends_branch {old : List String} {arrow : Arrow} {below : Forest} (rest : Forest)
    {name : String} (h : name ∈ old ++ [arrow.target] ∨ below.Ends name) :
    name ∈ old ∨ (branch arrow below rest).Ends name := by
  rw [ends_branch]
  rcases h with h | h
  · rcases List.mem_append.mp h with h | h
    · exact .inl h
    · exact .inr (.inl (List.mem_singleton.mp h).symm)
  · exact .inr (.inr (.inl h))

/-- The goal is reached exactly if an arrow ends there. -/
theorem reaches_iff_ends {goal : String} {forest : Forest} :
    forest.reaches (some goal) = true ↔ forest.Ends goal := by
  induction forest with
  | nil => simp [reaches]
  | branch arrow below rest ihb ihr =>
    rw [ends_branch, ← ihb, ← ihr, reaches, Bool.or_eq_true, Bool.or_eq_true, decide_eq_true_eq,
      Option.some.injEq, eq_comm, or_assoc]

theorem reaches_none (forest : Forest) : forest.reaches none = false := by
  induction forest with
  | nil => rfl
  | branch arrow below rest ihb ihr => simp [reaches, ihb, ihr]

/-- A goal leaves nothing of a forest that does not reach it. -/
theorem kept_eq_nil {goal : String} {forest : Forest} (h : forest.reaches (some goal) = false) :
    forest.kept (some goal) = nil := by
  induction forest with
  | nil => rfl
  | branch arrow below rest ihb ihr =>
    rw [reaches_branch, Bool.or_eq_false_iff] at h
    rw [kept_of_not_stays h.1]
    exact ihr h.2

/-- A goal leaves no arrow exactly if it is not reached. -/
theorem arrows_kept_eq_nil_iff {goal : String} {forest : Forest} :
    (forest.kept (some goal)).arrows = [] ↔ forest.reaches (some goal) = false := by
  constructor
  · intro h
    induction forest with
    | nil => rfl
    | branch arrow below rest ihb ihr =>
      rw [reaches_branch]
      cases hs : stays (some goal) arrow below with
      | false =>
        rw [kept_of_not_stays hs] at h
        simpa using ihr h
      | true =>
        rw [kept_of_stays hs] at h
        cases h
  · intro h
    rw [kept_eq_nil h]
    rfl

/-- What is kept of a branch comes before what is kept of the branches beside it. -/
theorem arrows_kept_branch (goal : Option String) (arrow : Arrow) (below rest : Forest) :
    ((branch arrow below rest).kept goal).arrows
      = ((branch arrow below nil).kept goal).arrows ++ (rest.kept goal).arrows := by
  rw [kept, kept]
  split <;> simp [arrows, kept]

/-- What a goal leaves of a forest keeps its order. -/
theorem arrows_kept_sublist (goal : Option String) (forest : Forest) :
    (forest.kept goal).arrows.Sublist forest.arrows := by
  induction forest with
  | nil => exact List.Sublist.refl _
  | branch arrow below rest ihb ihr =>
    rw [kept]
    split
    · exact (ihb.append ihr).cons_cons arrow
    · exact (ihr.trans (List.sublist_append_right _ _)).cons arrow

/-! ## Chains -/

/-- Each arrow begins where the arrow above it ends, the first ones at a given symbol. -/
def Hangs (source : String) : Forest → Prop
  | nil => True
  | branch arrow below rest =>
    arrow.source = source ∧ below.Hangs arrow.target ∧ rest.Hangs source

/-- An arrow begins where the forest hangs, or at a symbol at which an arrow before it ends. -/
theorem Hangs.source_before {source : String} {forest : Forest} (h : forest.Hangs source)
    {before after : List Arrow} {a : Arrow} (harrows : forest.arrows = before ++ a :: after) :
    a.source = source ∨ ∃ b ∈ before, b.target = a.source := by
  induction forest generalizing source before after with
  | nil => simp [arrows] at harrows
  | branch arrow below rest ihb ihr =>
    obtain ⟨hsource, hbelow, hrest⟩ := h
    cases before with
    | nil =>
      obtain ⟨rfl, -⟩ := List.cons.inj harrows
      exact .inl hsource
    | cons first before =>
      obtain ⟨rfl, htail⟩ := List.cons.inj harrows
      -- the arrow stands below the first one, or beside it
      rcases List.append_eq_append_iff.mp htail with ⟨more, hbefore, hafter⟩ | ⟨more, hb, hafter⟩
      · rcases ihr hrest hafter with h | ⟨b, hb, htarget⟩
        · exact .inl h
        · exact .inr ⟨b, by simp [hbefore, hb], htarget⟩
      · cases more with
        | nil =>
          have hfirst : rest.arrows = [] ++ a :: after := by simpa using hafter.symm
          rcases ihr hrest hfirst with h | ⟨b, hb, -⟩
          · exact .inl h
          · cases hb
        | cons b more =>
          obtain ⟨rfl, -⟩ := List.cons.inj hafter
          rcases ihb hbelow hb with h | ⟨b, hb, htarget⟩
          · exact .inr ⟨arrow, List.mem_cons_self, h.symm⟩
          · exact .inr ⟨b, List.mem_cons_of_mem _ hb, htarget⟩

/-- A relation that holds along each arrow leads to wherever an arrow ends. -/
theorem Hangs.transGen {R : String → String → Prop} {source name : String} {forest : Forest}
    (hh : forest.Hangs source) (hR : ∀ a ∈ forest.arrows, R a.source a.target)
    (hn : forest.Ends name) : Relation.TransGen R source name := by
  induction forest generalizing source with
  | nil => exact absurd hn (not_ends_nil name)
  | branch arrow below rest ihb ihr =>
    obtain ⟨rfl, hbelow, hrest⟩ := hh
    have harrow : R arrow.source arrow.target := hR arrow (by simp [arrows])
    rcases ends_branch.mp hn with rfl | h | h
    · exact .single harrow
    · refine .head harrow (ihb hbelow ?_ h)
      intro a ha
      exact hR a (by simp [arrows, ha])
    · refine ihr hrest ?_ h
      intro a ha
      exact hR a (by simp [arrows, ha])

/-- Arrows of a list that lead from one symbol to another, each from where the one before ends. -/
inductive Chain (arrows : List Arrow) : String → String → List Arrow → Prop where
  /-- One arrow. -/
  | single {a} (ha : a ∈ arrows) : Chain arrows a.source a.target [a]
  /-- An arrow and a chain from its target. -/
  | cons {a goal chain} (ha : a ∈ arrows) (hc : Chain arrows a.target goal chain) :
      Chain arrows a.source goal (a :: chain)

theorem Chain.mono {few many : List Arrow} (h : ∀ a ∈ few, a ∈ many) {source goal : String}
    {chain : List Arrow} (hc : Chain few source goal chain) : Chain many source goal chain := by
  induction hc with
  | single ha => exact .single (h _ ha)
  | cons ha _ ih => exact .cons (h _ ha) ih

/-- A branch that stays begins a chain to the goal, given one from its target if the forest below
    reaches the goal. -/
theorem chain_of_stays {goal : String} {arrow : Arrow} {below : Forest} (rest : Forest)
    (hs : stays (some goal) arrow below = true)
    (hbelow : below.reaches (some goal) = true →
      ∃ chain, Chain (below.kept (some goal)).arrows arrow.target goal chain) :
    ∃ chain, Chain ((branch arrow below rest).kept (some goal)).arrows arrow.source goal chain ∧
      arrow ∈ chain := by
  rw [kept_of_stays hs]
  rw [stays, Bool.or_eq_true, decide_eq_true_eq] at hs
  -- the arrow ends at the goal, or a chain goes on below it
  rcases hs with hgoal | hreaches
  · cases hgoal
    exact ⟨[arrow], .single (by simp [arrows]), by simp⟩
  · obtain ⟨chain, hc⟩ := hbelow hreaches
    refine ⟨arrow :: chain, .cons (by simp [arrows]) (hc.mono ?_), by simp⟩
    intro a ha
    simp [arrows, ha]

/-- A forest that reaches the goal keeps a chain to it. -/
theorem exists_chain_of_reaches {goal source : String} {forest : Forest}
    (hh : forest.Hangs source) (h : forest.reaches (some goal) = true) :
    ∃ chain, Chain (forest.kept (some goal)).arrows source goal chain := by
  induction forest generalizing source with
  | nil => cases h
  | branch arrow below rest ihb ihr =>
    obtain ⟨rfl, hbelow, hrest⟩ := hh
    cases hs : stays (some goal) arrow below with
    | false =>
      rw [reaches_branch, hs, Bool.false_or] at h
      rw [kept_of_not_stays hs]
      exact ihr hrest h
    | true =>
      obtain ⟨chain, hc, -⟩ := chain_of_stays rest hs (ihb hbelow)
      exact ⟨chain, hc⟩

/-- What is kept lies on chains of kept arrows that end at the goal. -/
theorem chain_of_mem_kept {goal source : String} {forest : Forest} (hh : forest.Hangs source)
    {a : Arrow} (ha : a ∈ (forest.kept (some goal)).arrows) :
    ∃ chain, Chain (forest.kept (some goal)).arrows source goal chain ∧ a ∈ chain := by
  induction forest generalizing source with
  | nil => cases ha
  | branch arrow below rest ihb ihr =>
    obtain ⟨rfl, hbelow, hrest⟩ := hh
    cases hs : stays (some goal) arrow below with
    | false =>
      rw [kept_of_not_stays hs] at ha ⊢
      exact ihr hrest ha
    | true =>
      rw [kept_of_stays hs] at ha
      simp only [arrows, List.mem_cons, List.mem_append] at ha
      rcases ha with rfl | ha | ha
      · exact chain_of_stays rest hs (exists_chain_of_reaches hbelow)
      · obtain ⟨chain, hc, hmem⟩ := ihb hbelow ha
        rw [kept_of_stays hs]
        refine ⟨arrow :: chain, .cons (by simp [arrows]) (hc.mono ?_), by simp [hmem]⟩
        intro b hb
        simp [arrows, hb]
      · obtain ⟨chain, hc, hmem⟩ := ihr hrest ha
        rw [kept_of_stays hs]
        refine ⟨chain, hc.mono ?_, hmem⟩
        intro b hb
        simp [arrows, hb]

theorem Chain.subset {arrows : List Arrow} {source goal : String} {chain : List Arrow}
    (h : Chain arrows source goal chain) : ∀ a ∈ chain, a ∈ arrows := by
  induction h with
  | single ha => simpa using ha
  | cons ha _ ih => simpa using ⟨ha, ih⟩

theorem Chain.ends {forest : Forest} {source goal : String} {chain : List Arrow}
    (h : Chain forest.arrows source goal chain) : forest.Ends goal := by
  induction h with
  | single ha => exact ⟨_, ha, rfl⟩
  | cons _ _ ih => exact ih

/-! ## Layers -/

/-- The arrows that lie below a number of others. -/
def layer : Nat → Forest → List Arrow
  | _, nil => []
  | 0, branch arrow _ rest => arrow :: rest.layer 0
  | depth + 1, branch _ below rest => below.layer depth ++ rest.layer (depth + 1)

theorem mem_arrows_iff {forest : Forest} {a : Arrow} :
    a ∈ forest.arrows ↔ ∃ depth, a ∈ forest.layer depth := by
  induction forest with
  | nil => simp [arrows, layer]
  | branch arrow below rest ihb ihr =>
    simp only [arrows, List.mem_cons, List.mem_append, ihb, ihr]
    constructor
    · rintro (rfl | ⟨depth, h⟩ | ⟨depth, h⟩)
      · exact ⟨0, by simp [layer]⟩
      · exact ⟨depth + 1, by simp [layer, h]⟩
      · exact ⟨depth, by cases depth <;> simp [layer, h]⟩
    · rintro ⟨depth, h⟩
      cases depth with
      | zero =>
        simp only [layer, List.mem_cons] at h
        exact h.imp_right fun h => .inr ⟨0, h⟩
      | succ depth =>
        simp only [layer, List.mem_append] at h
        exact .inr (h.imp (fun h => ⟨depth, h⟩) fun h => ⟨depth + 1, h⟩)

/-- What a goal leaves lies where it lay before. -/
theorem mem_layer_of_kept {goal : Option String} {forest : Forest} {depth : Nat} {a : Arrow}
    (h : a ∈ (forest.kept goal).layer depth) : a ∈ forest.layer depth := by
  induction forest generalizing depth with
  | nil => exact h
  | branch arrow below rest ihb ihr =>
    rw [kept] at h
    cases depth with
    | zero =>
      split at h
      · simp only [layer, List.mem_cons] at h ⊢
        exact h.imp_right ihr
      · exact .tail _ (ihr h)
    | succ depth =>
      rw [layer, List.mem_append]
      split at h
      · rw [layer, List.mem_append] at h
        exact h.imp ihb ihr
      · exact .inr (ihr h)

/-- Of a forest that hangs from a symbol, the goal leaves one that hangs from it. -/
theorem Hangs.kept {source : String} {forest : Forest} (h : forest.Hangs source)
    (goal : Option String) : (forest.kept goal).Hangs source := by
  induction forest generalizing source with
  | nil => trivial
  | branch arrow below rest ihb ihr =>
    obtain ⟨hsource, hbelow, hrest⟩ := h
    rw [Forest.kept]
    split
    · exact ⟨hsource, ihb hbelow, ihr hrest⟩
    · exact ihr hrest

/-- A symbol lies a number of arrows below the one from which the forest hangs: an arrow ends there
    that has one arrow less above it. -/
def Lies (source : String) (forest : Forest) : Nat → String → Prop
  | 0, name => name = source
  | depth + 1, name => ∃ a ∈ forest.layer depth, a.target = name

/-- What lies below the first branch, or below those beside it. -/
theorem lies_branch {source : String} {arrow : Arrow} {below rest : Forest} {depth : Nat}
    {name : String} :
    (branch arrow below rest).Lies source (depth + 1) name
      ↔ (depth = 0 ∧ arrow.target = name) ∨
        (∃ deeper, depth = deeper + 1 ∧ below.Lies arrow.target (deeper + 1) name) ∨
        rest.Lies source (depth + 1) name := by
  constructor
  · rintro ⟨a, ha, hname⟩
    cases depth with
    | zero =>
      rcases List.mem_cons.mp ha with rfl | ha
      · exact .inl ⟨rfl, hname⟩
      · exact .inr (.inr ⟨a, ha, hname⟩)
    | succ depth =>
      rcases List.mem_append.mp ha with ha | ha
      · exact .inr (.inl ⟨depth, rfl, a, ha, hname⟩)
      · exact .inr (.inr ⟨a, ha, hname⟩)
  · rintro (⟨rfl, hname⟩ | ⟨deeper, rfl, a, ha, hname⟩ | ⟨a, ha, hname⟩)
    · exact ⟨arrow, .head _, hname⟩
    · exact ⟨a, List.mem_append_left _ ha, hname⟩
    · cases depth with
      | zero => exact ⟨a, .tail _ ha, hname⟩
      | succ depth => exact ⟨a, List.mem_append_right _ ha, hname⟩

theorem not_lies_nil (source : String) (depth : Nat) (name : String) :
    ¬ nil.Lies source (depth + 1) name := by
  rintro ⟨a, ha, -⟩
  simp [layer] at ha

theorem Lies.ends {source name : String} {forest : Forest} {depth : Nat}
    (h : forest.Lies source (depth + 1) name) : forest.Ends name := by
  obtain ⟨a, ha, hname⟩ := h
  exact ⟨a, mem_arrows_iff.mpr ⟨depth, ha⟩, hname⟩

theorem Ends.lies {name : String} {forest : Forest} (h : forest.Ends name) (source : String) :
    ∃ depth, forest.Lies source (depth + 1) name := by
  obtain ⟨a, ha, hname⟩ := h
  obtain ⟨depth, hlayer⟩ := mem_arrows_iff.mp ha
  exact ⟨depth, a, hlayer, hname⟩

/-- An arrow begins where one of the layer above ends, the first ones where the forest hangs. -/
theorem Hangs.source_lies {source : String} {forest : Forest} (h : forest.Hangs source)
    {depth : Nat} {a : Arrow} (ha : a ∈ forest.layer depth) :
    forest.Lies source depth a.source := by
  induction forest generalizing source depth with
  | nil => simp [layer] at ha
  | branch arrow below rest ihb ihr =>
    obtain ⟨hsource, hbelow, hrest⟩ := h
    cases depth with
    | zero =>
      rcases List.mem_cons.mp ha with rfl | ha
      · exact hsource
      · exact ihr hrest ha
    | succ depth =>
      rcases List.mem_append.mp ha with ha | ha
      · cases depth with
        | zero => exact ⟨arrow, .head _, (ihb hbelow ha).symm⟩
        | succ depth => exact lies_branch.mpr (.inr (.inl ⟨depth, rfl, ihb hbelow ha⟩))
      · exact lies_branch.mpr (.inr (.inr (ihr hrest ha)))

/-- The arrows above an arrow, with itself at the end, are a chain to where it ends. -/
theorem chain_of_mem_layer {source : String} {forest : Forest} (hh : forest.Hangs source)
    {depth : Nat} {a : Arrow} (ha : a ∈ forest.layer depth) :
    ∃ chain, Chain forest.arrows source a.target chain ∧ chain.getLast? = some a ∧
      chain.length = depth + 1 := by
  induction forest generalizing source depth with
  | nil => simp [layer] at ha
  | branch arrow below rest ihb ihr =>
    obtain ⟨rfl, hbelow, hrest⟩ := hh
    have hbeside : a ∈ rest.layer depth → ∃ chain,
        Chain (branch arrow below rest).arrows arrow.source a.target chain ∧
          chain.getLast? = some a ∧ chain.length = depth + 1 := by
      intro ha
      obtain ⟨chain, hc, hlast, hlength⟩ := ihr hrest ha
      refine ⟨chain, hc.mono ?_, hlast, hlength⟩
      intro b hb
      simp [arrows, hb]
    cases depth with
    | zero =>
      rcases List.mem_cons.mp ha with rfl | ha
      · exact ⟨[a], .single (by simp [arrows]), rfl, rfl⟩
      · exact hbeside ha
    | succ depth =>
      rcases List.mem_append.mp ha with ha | ha
      · obtain ⟨chain, hc, hlast, hlength⟩ := ihb hbelow ha
        refine ⟨arrow :: chain, .cons (by simp [arrows]) (hc.mono ?_), ?_, by simp [hlength]⟩
        · intro b hb
          simp [arrows, hb]
        · rw [List.getLast?_cons, hlast]
          rfl
      · exact hbeside ha

end Forest

end CallExcerpt
