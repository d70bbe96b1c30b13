import CallExcerpt.Filter.Basic

/-! # Verdicts that last

    A screen notes the externs that it keeps out, and each noted name is kept
    out from then on. On the symbols of one graph this changes no verdict: a
    name is noted only for a symbol that was kept out as an extern before, and
    a graph has one symbol of a name.

    * `Agrees`: two screens give the symbols of a graph the same verdicts.
    * `agrees_classify`: so do the screens before and after a look at a symbol.
    * `unused`: a screen before any use, which lets in what it lets in later.
    * `showing`: a screen that shows one more name, which changes no verdict.
-/

namespace CallExcerpt

namespace Screen

/-- The second screen gives the symbols of the graph the verdicts of the first one, and shows the
    same names. -/
structure Agrees (g : Graph) (before now : Screen) : Prop where
  /-- The filters are the same. -/
  filters : now.filters = before.filters
  /-- No symbol of the graph has another verdict. -/
  verdict : ∀ {name symbol}, g.find? name = some symbol →
    (now.classify symbol).1 = (before.classify symbol).1

variable {g : Graph} {before now : Screen}

theorem Agrees.refl (g : Graph) (screen : Screen) : Agrees g screen screen := ⟨rfl, fun _ => rfl⟩

theorem Agrees.trans {later : Screen} (h₁ : Agrees g before now) (h₂ : Agrees g now later) :
    Agrees g before later :=
  ⟨h₂.filters.trans h₁.filters, fun hs => (h₂.verdict hs).trans (h₁.verdict hs)⟩

theorem Agrees.isShown (h : Agrees g before now) (name : String) :
    now.isShown name = before.isShown name := by
  unfold Screen.isShown
  rw [h.filters]

/-- Is the symbol kept out as an extern, noted before or not? -/
def keepsOutExtern (screen : Screen) (symbol : Symbol) : Bool :=
  screen.externs.contains symbol.name || (screen.filters.noExtern && symbol.isExtern)

theorem classify_fst (screen : Screen) (symbol : Symbol) :
    (screen.classify symbol).1
      = if screen.keepsOutExtern symbol then .external
        else screen.filters.verdictByName symbol.name := by
  unfold classify keepsOutExtern
  cases screen.externs.contains symbol.name <;>
    cases screen.filters.noExtern && symbol.isExtern <;> rfl

theorem classify_filters (screen : Screen) (symbol : Symbol) :
    (screen.classify symbol).2.filters = screen.filters := by
  unfold classify
  split
  · rfl
  · split <;> rfl

/-- A look at a symbol notes no name but its own, and that only if the symbol is kept out as an
    extern. -/
theorem mem_classify_externs {screen : Screen} {symbol : Symbol} {name : String} :
    name ∈ (screen.classify symbol).2.externs
      ↔ name ∈ screen.externs ∨ (name = symbol.name ∧ screen.keepsOutExtern symbol = true) := by
  unfold classify keepsOutExtern
  cases hc : screen.externs.contains symbol.name with
  | true =>
    have hm : symbol.name ∈ screen.externs := by simpa using hc
    constructor
    · intro h
      exact .inl h
    · rintro (h | ⟨rfl, -⟩)
      · exact h
      · exact hm
  | false =>
    cases he : screen.filters.noExtern && symbol.isExtern <;> simp

/-- A screen after a look at a symbol of the graph gives the verdicts that it gave before. -/
theorem agrees_classify (screen : Screen) {name : String} {symbol : Symbol}
    (hs : g.find? name = some symbol) : Agrees g screen (screen.classify symbol).2 := by
  refine ⟨classify_filters screen symbol, ?_⟩
  intro name' other ho
  have hkeeps : (screen.classify symbol).2.keepsOutExtern other = screen.keepsOutExtern other := by
    rw [Bool.eq_iff_iff]
    unfold keepsOutExtern
    simp only [Bool.or_eq_true, List.contains_iff_mem, mem_classify_externs, classify_filters]
    constructor
    · rintro ((h | ⟨hname, hk⟩) | h)
      · exact .inl h
      · -- the names are equal, so it is the symbol that was kept out as an extern
        have hother : other = symbol := by
          rw [← Graph.name_of_find? ho, hname, Graph.name_of_find? hs, hs] at ho
          exact (Option.some.inj ho).symm
        subst hother
        simpa [keepsOutExtern] using hk
      · exact .inr h
    · rintro (h | h)
      · exact .inl (.inl h)
      · exact .inr h
  rw [classify_fst, classify_fst, hkeeps, classify_filters]

/-! ## Before any use -/

/-- The same filters before any use: no extern was met. -/
def unused (screen : Screen) : Screen := { filters := screen.filters }

/-- What filters let in, they let in from the start: in use they only come to keep more out. -/
theorem included_unused {screen : Screen} {symbol : Symbol}
    (h : (screen.classify symbol).1 = .included) : (screen.unused.classify symbol).1 = .included := by
  rw [classify_fst] at h ⊢
  unfold keepsOutExtern at h ⊢
  cases hk : screen.filters.noExtern && symbol.isExtern with
  | true => simp [hk] at h
  | false =>
    split at h
    · cases h
    · simpa [unused, hk] using h

/-! ## One more name to show -/

/-- Filters that show one more name. -/
def showing (screen : Screen) (name : String) : Screen :=
  { screen with filters := { screen.filters with shown := screen.filters.shown ++ [name] } }

theorem isShown_showing (screen : Screen) (name other : String) :
    (screen.showing name).isShown other = (screen.isShown other || decide (other = name)) := by
  have hcontains : (screen.filters.shown ++ [name]).contains other
      = (screen.filters.shown.contains other || decide (other = name)) := by
    rw [Bool.eq_iff_iff]
    simp
  simp only [showing, isShown, Filters.isShown, hcontains]
  rw [Bool.or_assoc, Bool.or_assoc, Bool.or_comm (decide (other = name))]

/-- What is shown is not asked for a verdict. -/
theorem classify_showing (screen : Screen) (name : String) (symbol : Symbol) :
    ((screen.showing name).classify symbol).1 = (screen.classify symbol).1 := by
  rw [classify_fst, classify_fst]
  rfl

end Screen

end CallExcerpt
