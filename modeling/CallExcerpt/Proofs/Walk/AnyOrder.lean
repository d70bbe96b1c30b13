import CallExcerpt.Proofs.Walk.Sources

/-! # Arrows taken back in any order

    A walk takes back the latest arrow and no other. A tally does not need that:
    it counts arrow ends, and stays right whichever of the arrows that are left
    is taken back, be it one of several between the same symbols, one from a
    symbol to itself, or one at the root.

    * `Entry`, `entered`: arrows drawn and taken back in a row; `remaining`: the
      arrows that are left then.
    * `Proper`: nothing is taken back but arrows that are left.
    * `Accounts.enter`, `Rooted.enter`, `Sourced.enter`: what one entry keeps, and
      with it all entries in a row (`Accounts.entered` and so on).
    * `tells_remaining`: at every point the tally says what the arrows that are
      left say by themselves.
-/

namespace CallExcerpt

namespace Tally

/-! ## Entries -/

/-- What is entered in a tally. -/
inductive Entry where
  /-- An arrow is drawn between two symbols. -/
  | drawn (source target : Symbol)
  /-- An arrow between symbols of two names is taken back. -/
  | takenBack (source target : String)
  deriving Repr, DecidableEq

namespace Entry

/-- Is an arrow taken back? -/
def isTakenBack : Entry → Bool
  | .drawn _ _ => false
  | .takenBack _ _ => true

/-- The symbols that an entry brings. -/
def symbols : Entry → List Symbol
  | .drawn source target => [source, target]
  | .takenBack _ _ => []

/-- What an entry makes of the arrows that are left. -/
def leaves (live : List (String × String)) : Entry → List (String × String)
  | .drawn source target => (source.name, target.name) :: live
  | .takenBack source target => live.erase (source, target)

end Entry

/-- The tally with an entry. -/
def enter (t : Tally) : Entry → Tally
  | .drawn source target => t.retain source target
  | .takenBack source target => t.release source target

/-- The tally with entries in a row. -/
def entered (t : Tally) (entries : List Entry) : Tally := entries.foldl enter t

/-- The arrows that are left after entries in a row. -/
def remaining (live : List (String × String)) (entries : List Entry) : List (String × String) :=
  entries.foldl Entry.leaves live

/-- Each arrow that is taken back is one of those that are left by then. -/
def Proper (live : List (String × String)) : List Entry → Prop
  | [] => True
  | .drawn source target :: entries => Proper ((source.name, target.name) :: live) entries
  | .takenBack source target :: entries =>
    (source, target) ∈ live ∧ Proper (live.erase (source, target)) entries

instance decidableProper :
    (live : List (String × String)) → (entries : List Entry) → Decidable (Proper live entries)
  | _, [] => .isTrue trivial
  | live, .drawn source target :: entries =>
    decidableProper ((source.name, target.name) :: live) entries
  | live, .takenBack source target :: entries =>
    have := decidableProper (live.erase (source, target)) entries
    inferInstanceAs (Decidable ((source, target) ∈ live ∧ _))

/-- The symbols that came in: the root and the ends of all arrows that were drawn. -/
def passed (root : Symbol) (entries : List Entry) : List Symbol :=
  root :: entries.flatMap Entry.symbols

/-- Symbols of one name have one file. -/
def FiledAlike (symbols : List Symbol) : Prop :=
  ∀ a ∈ symbols, ∀ b ∈ symbols, a.name = b.name → a.file = b.file

instance (symbols : List Symbol) : Decidable (FiledAlike symbols) :=
  inferInstanceAs (Decidable (∀ a ∈ symbols, ∀ b ∈ symbols, a.name = b.name → a.file = b.file))

variable {t : Tally} {live : List (String × String)} {entry : Entry} {entries : List Entry}

theorem Proper.head (h : Proper live (entry :: entries)) : Proper live [entry] := by
  cases entry with
  | drawn source target => trivial
  | takenBack source target => exact ⟨h.1, trivial⟩

theorem Proper.tail (h : Proper live (entry :: entries)) : Proper (entry.leaves live) entries := by
  cases entry with
  | drawn source target => exact h
  | takenBack source target => exact h.2

theorem Proper.of_append {more : List Entry} (h : Proper live (entries ++ more)) :
    Proper live entries := by
  induction entries generalizing live with
  | nil => trivial
  | cons entry entries ih =>
    have hrest : Proper (entry.leaves live) entries := ih h.tail
    cases entry with
    | drawn source target => exact hrest
    | takenBack source target => exact ⟨h.1, hrest⟩

/-! ## Arrows and members -/

theorem Accounts.enter (h : t.Accounts live) (hproper : Proper live [entry]) :
    (t.enter entry).Accounts (entry.leaves live) := by
  cases entry with
  | drawn source target => exact h.retain source target
  | takenBack source target => exact h.release (List.perm_cons_erase hproper.1)

theorem Accounts.entered (h : t.Accounts live) (hproper : Proper live entries) :
    (t.entered entries).Accounts (remaining live entries) := by
  -- from the front: whether an entry is proper depends on the arrows left before it
  induction entries generalizing t live with
  | nil => exact h
  | cons entry entries ih => exact ih (h.enter hproper.head) hproper.tail

theorem root_entered (t : Tally) (entries : List Entry) : (t.entered entries).root = t.root := by
  induction entries generalizing t with
  | nil => rfl
  | cons entry entries ih =>
    have hone : (t.enter entry).root = t.root := by
      cases entry with
      | drawn source target => rfl
      | takenBack source target => exact root_release t source target
    exact (ih (t.enter entry)).trans hone

theorem takenBack_entered (t : Tally) (entries : List Entry) :
    (t.entered entries).takenBack = t.takenBack + entries.countP Entry.isTakenBack := by
  induction entries generalizing t with
  | nil => rfl
  | cons entry entries ih =>
    show ((t.enter entry).entered entries).takenBack = _
    rw [ih, List.countP_cons]
    cases entry with
    | drawn source target => rfl
    | takenBack source target =>
      show (t.release source target).takenBack + _ = _
      rw [release_takenBack]
      simp only [Entry.isTakenBack, if_true]
      omega

/-! ## The root among the members -/

/-- The root comes first among the members, and each member is there once. -/
structure Rooted (t : Tally) : Prop where
  first : t.members.head? = some t.root
  once : t.members.Nodup

theorem Rooted.add (h : t.Rooted) (name : String) (file : Option String) :
    (t.add name file).Rooted := by
  by_cases hmem : name ∈ t.members
  · have hsame : (t.add name file).members = t.members := by rw [members_add, if_pos hmem]
    exact ⟨hsame ▸ h.first, hsame ▸ h.once⟩
  · have hmore : (t.add name file).members = t.members ++ [name] := by
      rw [members_add, if_neg hmem]
    constructor
    · rw [hmore, List.head?_append, h.first]
      rfl
    · rw [hmore]
      refine List.nodup_append.mpr ⟨h.once, by simp, ?_⟩
      intro member hmember other hother heq
      rw [heq, List.mem_singleton.mp hother] at hmember
      exact hmem hmember

theorem Rooted.drop (h : t.Rooted) (name : String) : (t.drop name).Rooted := by
  obtain ⟨p, hp⟩ := exists_filter_drop t name
  constructor
  · -- the count of the root is not touched, so that it is not among those that go
    have hroot : t.root ∈ (t.drop name).members := by
      rw [members, Table.mem_keys_iff, lookup_drop, if_neg (fun hc => hc.2 hc.1.symm),
        ← Table.mem_keys_iff]
      exact List.mem_of_head? h.first
    rw [hp] at hroot ⊢
    obtain ⟨rest, hrest⟩ := List.head?_eq_some_iff.mp h.first
    rw [root_drop, hrest, List.filter_cons_of_pos (List.mem_filter.mp hroot).2]
    rfl
  · rw [hp]
    exact h.once.filter p

theorem rooted_start (root : Symbol) : (start root).Rooted := by
  constructor
  · rfl
  · show [root.name].Nodup
    simp

theorem Rooted.enter (h : t.Rooted) (entry : Entry) : (t.enter entry).Rooted := by
  cases entry with
  | drawn source target =>
    have hboth := (h.add source.name source.file).add target.name target.file
    exact ⟨hboth.first, hboth.once⟩
  | takenBack source target =>
    have hboth := (h.drop source).drop target
    exact ⟨hboth.first, hboth.once⟩

theorem Rooted.entered (h : t.Rooted) (entries : List Entry) : (t.entered entries).Rooted := by
  induction entries generalizing t with
  | nil => exact h
  | cons entry entries ih => exact ih (h.enter entry)

/-! ## Files -/

theorem Sourced.enter {g : Graph} (h : t.Sourced g)
    (hfiles : ∀ symbol ∈ entry.symbols, g.fileOf symbol.name = symbol.file) :
    (t.enter entry).Sourced g := by
  cases entry with
  | drawn source target =>
    exact h.retain (hfiles source (.head _)) (hfiles target (.tail _ (.head _)))
  | takenBack source target => exact h.release source target

theorem Sourced.entered {g : Graph} (h : t.Sourced g)
    (hfiles : ∀ symbol ∈ entries.flatMap Entry.symbols, g.fileOf symbol.name = symbol.file) :
    (t.entered entries).Sourced g := by
  induction entries generalizing t with
  | nil => exact h
  | cons entry entries ih =>
    rw [List.flatMap_cons] at hfiles
    have hone := h.enter fun symbol hmem => hfiles symbol (List.mem_append_left _ hmem)
    exact ih hone fun symbol hmem => hfiles symbol (List.mem_append_right _ hmem)

/-- In a graph of symbols that have one file for each name, every symbol has its own. -/
theorem fileOf_of_filedAlike {symbols : List Symbol} (h : FiledAlike symbols) {symbol : Symbol}
    (hmem : symbol ∈ symbols) : ({ symbols } : Graph).fileOf symbol.name = symbol.file := by
  cases hfound : ({ symbols } : Graph).find? symbol.name with
  | none =>
    have hnone := List.find?_eq_none.mp hfound symbol hmem
    simp at hnone
  | some other =>
    have hother : other ∈ symbols := List.mem_of_find?_eq_some hfound
    rw [Graph.fileOf, hfound]
    exact h other hother symbol hmem (Graph.name_of_find? hfound)

theorem fileOf_eq_some_iff {symbols : List Symbol} (h : FiledAlike symbols) {name file : String} :
    ({ symbols } : Graph).fileOf name = some file
      ↔ ∃ symbol ∈ symbols, symbol.name = name ∧ symbol.file = some file := by
  constructor
  · intro hfile
    obtain ⟨symbol, hfound, hof⟩ := Option.bind_eq_some_iff.mp hfile
    exact ⟨symbol, List.mem_of_find?_eq_some hfound, Graph.name_of_find? hfound, hof⟩
  · rintro ⟨symbol, hmem, rfl, hfile⟩
    rw [fileOf_of_filedAlike h hmem, hfile]

theorem sourced_entered {root : Symbol} (h : FiledAlike (passed root entries)) :
    ((start root).entered entries).Sourced { symbols := passed root entries } := by
  have hroot : ({ symbols := passed root entries } : Graph).find? root.name = some root := by
    simp [Graph.find?, passed]
  apply (sourced_start hroot).entered
  intro symbol hmem
  exact fileOf_of_filedAlike h (.tail _ hmem)

/-! ## The account at every point -/

theorem mem_ends_iff {name : String} : name ∈ ends live ↔ ∃ p ∈ live, name = p.1 ∨ name = p.2 := by
  simp [ends]

/-- Arrows are drawn from a root on and taken back in any order, each of them one that is left by
    then. At every point the members are the root and the ends of the arrows that are left, each
    once and the root first; the tally has the number of these arrows and of those taken back; and
    its files are those of the members, in order and each once. -/
theorem tells_remaining (root : Symbol) (entries : List Entry) (hproper : Proper [] entries)
    (hfiles : FiledAlike (passed root entries)) (sofar : List Entry) (hsofar : sofar <+: entries) :
    let t := (start root).entered sofar
    let live := remaining [] sofar
    (∀ name, name ∈ t.members ↔ name = root.name ∨ ∃ p ∈ live, name = p.1 ∨ name = p.2) ∧
    t.members.head? = some root.name ∧ t.members.Nodup ∧
    t.arrows = live.length ∧ t.takenBack = sofar.countP Entry.isTakenBack ∧
    t.files.Pairwise (· < ·) ∧
    ∀ file, file ∈ t.files ↔
      ∃ symbol ∈ passed root sofar, symbol.name ∈ t.members ∧ symbol.file = some file := by
  intro t live
  obtain ⟨rest, rfl⟩ := hsofar
  -- what is still to come says nothing of what was entered before
  have halike : FiledAlike (passed root sofar) := by
    have hsub : ∀ symbol ∈ passed root sofar, symbol ∈ passed root (sofar ++ rest) := by
      intro symbol hmem
      simp only [passed, List.flatMap_append, List.mem_cons, List.mem_append] at hmem ⊢
      exact hmem.imp_right .inl
    exact fun a ha b hb => hfiles a (hsub a ha) b (hsub b hb)
  have haccounts : t.Accounts live := (accounts_start root).entered hproper.of_append
  have hrooted : t.Rooted := (rooted_start root).entered sofar
  have hsourced : t.Sourced { symbols := passed root sofar } := sourced_entered halike
  have hroot : t.root = root.name := root_entered (start root) sofar
  refine ⟨?_, hroot ▸ hrooted.first, hrooted.once, haccounts.arrows, ?_, t.files_ascending, ?_⟩
  · intro name
    rw [haccounts.mem_members_iff, hroot, mem_ends_iff]
  · have htaken : t.takenBack = 0 + sofar.countP Entry.isTakenBack :=
      takenBack_entered (start root) sofar
    rw [htaken, Nat.zero_add]
  · intro file
    rw [hsourced.mem_files_iff]
    constructor
    · rintro ⟨name, hmember, hfile⟩
      obtain ⟨symbol, hmem, rfl, hof⟩ := (fileOf_eq_some_iff halike).mp hfile
      exact ⟨symbol, hmem, hmember, hof⟩
    · rintro ⟨symbol, hmem, hmember, hof⟩
      exact ⟨symbol.name, hmember, (fileOf_eq_some_iff halike).mpr ⟨symbol, hmem, rfl, hof⟩⟩

/-- The older of two arrows between the same symbols goes first, then an arrow from a symbol to
    itself while another one is drawn, and at last the one at the root. -/
theorem tells_remaining_of_twins :
    let a : Symbol := { name := "a", file := some "a.c" }
    let b : Symbol := { name := "b", file := some "b.c" }
    let entries : List Entry := [.drawn a b, .drawn a b, .drawn b b, .takenBack "a" "b",
      .takenBack "b" "b", .drawn b { name := "c" }, .takenBack "a" "b"]
    let t := (start a).entered entries
    Proper [] entries ∧ FiledAlike (passed a entries) ∧
      (∀ name, name ∈ t.members ↔ name = "a" ∨ name = "b" ∨ name = "c") ∧
      t.members.head? = some "a" ∧ t.arrows = 1 ∧ t.takenBack = 3 ∧
      "a.c" ∈ t.files ∧ "b.c" ∈ t.files := by
  intro a b entries t
  have hproper : Proper [] entries := by decide
  have halike : FiledAlike (passed a entries) := by decide
  obtain ⟨hmembers, hfirst, -, harrows, htaken, -, hfiles⟩ :=
    tells_remaining a entries hproper halike entries (List.prefix_refl entries)
  have hlive : remaining [] entries = [("b", "c")] := by decide
  have hthree : ∀ name, name ∈ t.members ↔ name = "a" ∨ name = "b" ∨ name = "c" := by
    intro name
    rw [hmembers, hlive]
    simp [a]
  refine ⟨hproper, halike, hthree, hfirst, ?_, htaken, ?_, ?_⟩
  · rw [harrows, hlive]
    rfl
  · exact (hfiles "a.c").mpr ⟨a, by decide, (hthree "a").mpr (.inl rfl), rfl⟩
  · exact (hfiles "b.c").mpr ⟨b, by decide, (hthree "b").mpr (.inr (.inl rfl)), rfl⟩

end Tally

end CallExcerpt
