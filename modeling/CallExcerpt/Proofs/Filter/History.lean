import CallExcerpt.Proofs.Filter.Verdict
import CallExcerpt.Proofs.Success

/-! # Screens with a history

    A screen asks the names that it noted before it asks its rules, and notes
    names as it goes. What it says of a symbol does nevertheless not depend on
    what it was asked before, as long as symbols of one name are all defined or
    all not: a name is noted only where the rule for externs keeps it out, and
    there it would do so again.

    * `Filters.Spec.applies`, `Verdict.order`: the rules, as they are asked for,
      and the order in which they are tried.
    * `find?_order_of_compile`: the verdict of a screen before any use is that of
      the first rule that applies.
    * `Look`, `answers`: questions in a row.
    * `Noted`: the notes hold the externs that were asked about; kept by every
      question (`Noted.answer`), and so by all in a row (`Noted.answers`).
    * `answers_as_unused`: a screen answers as it would have done before any use.
-/

namespace CallExcerpt

/-! ## Rules in order -/

/-- All verdicts, in the order in which their rules are tried; what no rule keeps out is included. -/
def Verdict.order : List Verdict := [.external, .ignored, .ignoredPattern, .trimmed, .included]

namespace Filters

/-- Is the pattern of a text found in the name? -/
def isTextFoundIn (text name : String) : Bool :=
  match Pattern.parse text with
  | .ok p => p.isFoundIn name
  | .error _ => false

/-- Does the rule with a verdict apply to a symbol? -/
def Spec.applies (spec : Spec) (symbol : Symbol) : Verdict → Bool
  | .external => spec.noExtern && symbol.isExtern
  | .ignored => spec.ignore.contains symbol.name
  | .ignoredPattern => spec.ignorePatterns.any (isTextFoundIn · symbol.name)
  | .trimmed => spec.trim && Noise.names.contains symbol.name
  | .included => true

variable {fits : String → Bool}

/-- A pattern that is ready for use is that of its text. -/
theorem parse_of_compileOne {text : String} {p : Pattern} (h : compileOne text fits = .ok p) :
    Pattern.parse text = .ok p := by
  unfold compileOne at h
  split at h
  · cases hparse : Pattern.parse text with
    | ok found =>
      rw [hparse] at h
      cases h
      rfl
    | error fault =>
      rw [hparse] at h
      cases h
  · cases h

/-- Filters that are ready for use are the same ones, however much room there was to read them. -/
theorem compileAll_of_fits {texts : List String} {patterns : List Pattern}
    (h : compileAll texts fits = .ok patterns) : compileAll texts = .ok patterns := by
  have hread : List.Forall₂ (fun text p => compileOne text fits = .ok p) texts patterns :=
    Success.of_mapM h
  apply Success.mapM_of_forall₂
  apply hread.imp
  intro text p hp
  rw [compileOne, if_pos rfl, parse_of_compileOne hp]

theorem compile_of_fits {spec : Spec} {filters : Filters} (h : compile spec fits = .ok filters) :
    compile spec = .ok filters := by
  unfold compile at h ⊢
  obtain ⟨ignorePatterns, hignore, h⟩ := Success.of_bind h
  obtain ⟨shownPatterns, hshown, h⟩ := Success.of_bind h
  rw [compileAll_of_fits hignore, compileAll_of_fits hshown]
  exact h

/-- Where there is room for each pattern, room makes no difference. -/
theorem compileAll_eq_of_room {texts : List String} (h : ∀ text ∈ texts, fits text = true) :
    compileAll texts fits = compileAll texts := by
  unfold compileAll
  induction texts with
  | nil => rfl
  | cons text texts ih =>
    obtain ⟨htext, hrest⟩ := List.forall_mem_cons.mp h
    have hone : compileOne text fits = compileOne text := by
      rw [compileOne, compileOne, if_pos htext, if_pos rfl]
    rw [List.mapM_cons, List.mapM_cons, hone, ih hrest]

theorem compile_eq_of_room {spec : Spec}
    (h : ∀ text ∈ spec.ignorePatterns ++ spec.shownPatterns, fits text = true) :
    compile spec fits = compile spec := by
  obtain ⟨hignore, hshown⟩ := List.forall_mem_append.mp h
  rw [compile, compile, compileAll_eq_of_room hignore, compileAll_eq_of_room hshown]

theorem isTextFoundIn_of_compileOne {text : String} {p : Pattern}
    (h : compileOne text fits = .ok p) (name : String) :
    isTextFoundIn text name = p.isFoundIn name := by
  rw [isTextFoundIn, parse_of_compileOne h]

theorem matchesAny_of_compileAll {texts : List String} {patterns : List Pattern}
    (h : compileAll texts fits = .ok patterns) (name : String) :
    matchesAny patterns name = texts.any (isTextFoundIn · name) := by
  have hread : List.Forall₂ (fun text p => compileOne text fits = .ok p) texts patterns :=
    Success.of_mapM h
  clear h
  unfold matchesAny
  induction hread with
  | nil => rfl
  | cons hp _ ih => rw [List.any_cons, List.any_cons, isTextFoundIn_of_compileOne hp, ih]

/-- The first verdict whose rule applies, if the last one always does. -/
theorem find?_order {applies : Verdict → Bool} (h : applies .included = true) :
    Verdict.order.find? applies
      = some (if applies .external then .external
        else if applies .ignored then .ignored
        else if applies .ignoredPattern then .ignoredPattern
        else if applies .trimmed then .trimmed
        else .included) := by
  unfold Verdict.order
  simp only [List.find?_cons, h]
  cases applies .external
  · cases applies .ignored
    · cases applies .ignoredPattern
      · cases applies .trimmed <;> rfl
      · rfl
    · rfl
  · rfl

variable {spec : Spec} {filters : Filters}

/-- Filters ready for use say what was asked for. -/
theorem tells_of_compile (h : compile spec fits = .ok filters) :
    filters.noExtern = spec.noExtern ∧ filters.ignore = spec.ignore ∧
      (∀ name, matchesAny filters.ignorePatterns name
        = spec.ignorePatterns.any (isTextFoundIn · name)) ∧
      filters.noise = if spec.trim then Noise.names else [] := by
  unfold compile at h
  obtain ⟨ignorePatterns, hignore, h⟩ := Success.of_bind h
  obtain ⟨shownPatterns, -, h⟩ := Success.of_bind h
  cases h
  exact ⟨rfl, rfl, matchesAny_of_compileAll hignore, rfl⟩

/-- Before any use the verdict is that of the first rule that applies. -/
theorem find?_order_of_compile (h : compile spec fits = .ok filters) (symbol : Symbol) :
    Verdict.order.find? (spec.applies symbol)
      = some (({ filters } : Screen).classify symbol).1 := by
  obtain ⟨hflag, hignore, hpatterns, hnoise⟩ := tells_of_compile h
  have hnothing : ({ filters } : Screen).keepsOutExtern symbol = spec.applies symbol .external := by
    unfold Screen.keepsOutExtern
    simp [hflag, Spec.applies]
  have hnamed : filters.ignore.contains symbol.name = spec.applies symbol .ignored := by
    rw [hignore]
    rfl
  have hfound : matchesAny filters.ignorePatterns symbol.name
      = spec.applies symbol .ignoredPattern := hpatterns symbol.name
  have htrimmed : filters.noise.contains symbol.name = spec.applies symbol .trimmed := by
    rw [hnoise]
    cases htrim : spec.trim <;> simp [Spec.applies, htrim]
  rw [find?_order rfl, Screen.classify_fst, hnothing]
  unfold verdictByName
  rw [hnamed, hfound, htrimmed]

end Filters

/-! ## Questions in a row -/

/-- What a screen is asked. -/
inductive Look where
  /-- The verdict on a symbol. -/
  | verdict (symbol : Symbol)
  /-- Whether a symbol of the name is shown. -/
  | shown (name : String)

/-- What a screen says. -/
inductive Answer where
  /-- The verdict. -/
  | verdict (v : Verdict)
  /-- Is it shown? -/
  | shown (yes : Bool)
  deriving Repr, DecidableEq

/-- The symbol on which a verdict is asked. -/
def Look.symbol? : Look → Option Symbol
  | .verdict symbol => some symbol
  | .shown _ => none

/-- The symbols on which verdicts are asked. -/
def Look.symbols (looks : List Look) : List Symbol := looks.filterMap Look.symbol?

theorem Look.symbols_cons (look : Look) (looks : List Look) :
    symbols (look :: looks) = symbols [look] ++ symbols looks := by
  rw [symbols, symbols, symbols, ← List.filterMap_append]
  rfl

/-- Symbols of one name are all defined or all not, as it is in one graph. -/
def DefinedAlike (symbols : List Symbol) : Prop :=
  ∀ a ∈ symbols, ∀ b ∈ symbols, a.name = b.name → a.defined = b.defined

instance (symbols : List Symbol) : Decidable (DefinedAlike symbols) :=
  inferInstanceAs (Decidable (∀ a ∈ symbols, ∀ b ∈ symbols, a.name = b.name → a.defined = b.defined))

theorem DefinedAlike.mono {symbols more : List Symbol} (h : DefinedAlike more)
    (hsub : ∀ a ∈ symbols, a ∈ more) : DefinedAlike symbols :=
  fun a ha b hb => h a (hsub a ha) b (hsub b hb)

namespace Screen

/-- The answer to a question, and the screen after it. -/
def answer (screen : Screen) : Look → Answer × Screen
  | .verdict symbol => (.verdict (screen.classify symbol).1, (screen.classify symbol).2)
  | .shown name => (.shown (screen.isShown name), screen)

/-- The answers to questions in a row, and the screen after them. -/
def answers (screen : Screen) : List Look → List Answer × Screen
  | [] => ([], screen)
  | look :: looks =>
    let (said, next) := screen.answer look
    let (more, last) := next.answers looks
    (said :: more, last)

/-- The screen has its filters still, and has noted the externs among the symbols that it was asked
    about, if externs are kept out, and else none. -/
structure Noted (filters : Filters) (seen : List Symbol) (screen : Screen) : Prop where
  same : screen.filters = filters
  externs : ∀ name, name ∈ screen.externs ↔
    filters.noExtern = true ∧ ∃ symbol ∈ seen, symbol.defined = false ∧ symbol.name = name

variable {filters : Filters} {seen : List Symbol} {screen : Screen}

theorem noted_unused (filters : Filters) : Noted filters [] { filters } where
  same := rfl
  externs := fun name => by simp

/-- A name that was noted before adds nothing when the symbol is asked about again. -/
theorem Noted.answer (h : Noted filters seen screen) (look : Look) :
    Noted filters (seen ++ Look.symbols [look]) (screen.answer look).2 := by
  cases look with
  | shown name =>
    have hnone : seen ++ Look.symbols [.shown name] = seen := List.append_nil seen
    rw [hnone]
    exact h
  | verdict symbol =>
    constructor
    · show (screen.classify symbol).2.filters = filters
      rw [classify_filters, h.same]
    · intro name
      show name ∈ (screen.classify symbol).2.externs ↔ _
      rw [mem_classify_externs]
      constructor
      · rintro (hbefore | ⟨rfl, hkept⟩)
        · obtain ⟨hflag, other, hother, hrest⟩ := (h.externs name).mp hbefore
          exact ⟨hflag, other, List.mem_append_left _ hother, hrest⟩
        · -- it is kept out by the notes, or by the rule
          unfold keepsOutExtern at hkept
          rcases Bool.or_eq_true_iff.mp hkept with hnoted | hrule
          · obtain ⟨hflag, other, hother, hrest⟩ :=
              (h.externs symbol.name).mp (List.contains_iff_mem.mp hnoted)
            exact ⟨hflag, other, List.mem_append_left _ hother, hrest⟩
          · obtain ⟨hflag, hsymbol⟩ := Bool.and_eq_true_iff.mp hrule
            rw [h.same] at hflag
            have hundefined : symbol.defined = false := by simpa [Symbol.isExtern] using hsymbol
            exact ⟨hflag, symbol, List.mem_append_right _ (.head _), hundefined, rfl⟩
      · rintro ⟨hflag, other, hother, hundefined, rfl⟩
        rcases List.mem_append.mp hother with hold | hnew
        · exact .inl ((h.externs other.name).mpr ⟨hflag, other, hold, hundefined, rfl⟩)
        · obtain rfl : other = symbol := List.mem_singleton.mp hnew
          refine .inr ⟨rfl, ?_⟩
          unfold keepsOutExtern
          simp [h.same, hflag, Symbol.isExtern, hundefined]

theorem Noted.answers (h : Noted filters seen screen) (looks : List Look) :
    Noted filters (seen ++ Look.symbols looks) (screen.answers looks).2 := by
  induction looks generalizing seen screen with
  | nil =>
    have hnone : seen ++ Look.symbols [] = seen := List.append_nil seen
    rw [hnone]
    exact h
  | cons look looks ih =>
    rw [Look.symbols_cons, ← List.append_assoc]
    exact ih (h.answer look)

/-- What was noted changes no verdict. -/
theorem Noted.classify (h : Noted filters seen screen) {symbol : Symbol}
    (halike : DefinedAlike (seen ++ [symbol])) :
    (screen.classify symbol).1 = (({ filters } : Screen).classify symbol).1 := by
  have hkept : screen.keepsOutExtern symbol = ({ filters } : Screen).keepsOutExtern symbol := by
    rw [Bool.eq_iff_iff]
    unfold keepsOutExtern
    simp only [Bool.or_eq_true, List.contains_iff_mem, h.externs, h.same, Bool.and_eq_true,
      List.not_mem_nil, false_or]
    constructor
    · rintro (⟨hflag, other, hother, hundefined, hname⟩ | hrule)
      · -- the symbol that was noted has the same name, so that this one is not defined either
        have hsame : other.defined = symbol.defined :=
          halike other (List.mem_append_left _ hother) symbol
            (List.mem_append_right _ (.head _)) hname
        refine ⟨hflag, ?_⟩
        rw [Symbol.isExtern, ← hsame, hundefined]
        rfl
      · exact hrule
    · exact .inr
  rw [classify_fst, classify_fst, hkept, h.same]

theorem Noted.answer_fst (h : Noted filters seen screen) {look : Look}
    (halike : DefinedAlike (seen ++ Look.symbols [look])) :
    (screen.answer look).1 = (({ filters } : Screen).answer look).1 := by
  cases look with
  | verdict symbol => exact congrArg Answer.verdict (h.classify halike)
  | shown name =>
    have hshown : screen.isShown name = ({ filters } : Screen).isShown name := by
      unfold Screen.isShown
      rw [h.same]
    exact congrArg Answer.shown hshown

theorem Noted.answers_fst (h : Noted filters seen screen) {looks : List Look}
    (halike : DefinedAlike (seen ++ Look.symbols looks)) :
    (screen.answers looks).1 = looks.map fun look => (({ filters } : Screen).answer look).1 := by
  -- the symbols asked about pile up in seen, against which the later ones are compared
  induction looks generalizing seen screen with
  | nil => rfl
  | cons look looks ih =>
    rw [Look.symbols_cons, ← List.append_assoc] at halike
    have hfirst := h.answer_fst (halike.mono fun a ha => List.mem_append_left _ ha)
    have hothers := ih (h.answer look) halike
    show (screen.answer look).1 :: ((screen.answer look).2.answers looks).1 = _
    rw [hfirst, hothers]
    rfl

/-- Whatever a screen was asked of the symbols of one graph since it was made ready, it answers as
    it would have done then: with the verdict of the first rule that applies, and with what it
    shows. It has noted the names of the externs that it was asked about, if externs are kept out,
    and else none. -/
theorem answers_as_unused (spec : Filters.Spec) (fits : String → Bool) (filters : Filters)
    (hready : Filters.compile spec fits = .ok filters) (looks : List Look)
    (halike : DefinedAlike (Look.symbols looks)) :
    (({ filters } : Screen).answers looks).1
      = looks.map (fun look => (({ filters } : Screen).answer look).1) ∧
    (∀ symbol, Verdict.order.find? (spec.applies symbol)
      = some (({ filters } : Screen).classify symbol).1) ∧
    ∀ name, name ∈ (({ filters } : Screen).answers looks).2.externs ↔
      spec.noExtern = true ∧
        ∃ symbol ∈ Look.symbols looks, symbol.defined = false ∧ symbol.name = name := by
  have hunused := noted_unused filters
  refine ⟨hunused.answers_fst halike, Filters.find?_order_of_compile hready, ?_⟩
  intro name
  rw [(hunused.answers looks).externs name, (Filters.tells_of_compile hready).1]
  rfl

/-- An extern that is to be ignored by name as well: it is kept out as an extern, the first time by
    the rule and the second time by the notes. -/
theorem answers_from_notes :
    let spec : Filters.Spec := {
      ignore := ["free"]
      ignorePatterns := ["^_"]
      shown := ["log"]
      trim := true
      noExtern := true }
    let free : Symbol := { name := "free", defined := false }
    let looks : List Look := [.verdict free, .verdict { name := "_start" }, .shown "log",
      .verdict { name := "memset" }, .verdict free, .verdict { name := "main" }]
    ∃ filters, Filters.compile spec = .ok filters ∧ DefinedAlike (Look.symbols looks) ∧
      (({ filters } : Screen).answers looks).1 = [.verdict .external, .verdict .ignoredPattern,
        .shown true, .verdict .trimmed, .verdict .external, .verdict .included] ∧
      "free" ∈ (({ filters } : Screen).answers looks).2.externs ∧
      "_start" ∉ (({ filters } : Screen).answers looks).2.externs := by
  intro spec free looks
  have halike : DefinedAlike (Look.symbols looks) := by decide
  refine ⟨_, rfl, halike, ?_⟩
  obtain ⟨hanswers, -, hexterns⟩ := answers_as_unused spec (fun _ => true) _ rfl looks halike
  refine ⟨?_, ?_, ?_⟩
  · rw [hanswers]
    decide +kernel
  · rw [hexterns]
    decide
  · rw [hexterns]
    decide

end Screen

end CallExcerpt
