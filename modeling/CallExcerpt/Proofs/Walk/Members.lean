import CallExcerpt.Walk.Tally

/-! # The members of a tally

    A tally counts for each symbol the arrow ends at it, and forgets a symbol
    with none. So its members are the root and the ends of the arrows that were
    drawn and not taken back, whatever the order in which they were taken back.

    * `Accounts`: the tally is right about the arrows that are left.
    * `Accounts.retain`, `Accounts.release`: it stays right when an arrow is
      drawn, and when any of those that are left is taken back.
    * `Accounts.mem_members_iff`: its members.
-/

namespace CallExcerpt

namespace Tally

variable {t : Tally}

/-! ## Arrow ends at a symbol -/

/-- The number of arrow ends at a symbol. -/
def count (t : Tally) (name : String) : Nat := (t.counts.lookup name).getD 0

/-- No symbol without an arrow end is kept. -/
def Sparse (t : Tally) : Prop := ∀ name, t.counts.lookup name ≠ some 0

theorem mem_members_iff_count (h : t.Sparse) {name : String} :
    name ∈ t.members ↔ 0 < t.count name := by
  rw [members, Table.mem_keys_iff, count]
  cases hl : t.counts.lookup name with
  | none => simp
  | some left =>
    have hpos : left ≠ 0 := by
      intro hzero
      exact h name (hzero ▸ hl)
    simp only [Option.isSome_some, Option.getD_some, true_iff]
    omega

@[simp] theorem root_add (t : Tally) (name : String) (file : Option String) :
    (t.add name file).root = t.root := rfl

theorem count_add (t : Tally) (name : String) (file : Option String) (other : String) :
    (t.add name file).count other = if other = name then t.count other + 1 else t.count other := by
  unfold count add
  by_cases h : other = name
  · simp [h]
  · simp [h, Table.lookup_put_ne h]

theorem Sparse.add (h : t.Sparse) (name : String) (file : Option String) :
    (t.add name file).Sparse := by
  intro other
  unfold Tally.add
  by_cases ho : other = name
  · simp [ho]
  · simp only [Table.lookup_put_ne ho]
    exact h other

@[simp] theorem root_drop (t : Tally) (name : String) : (t.drop name).root = t.root := by
  unfold drop
  split <;> rfl

/-- What a drop leaves: one end less at the symbol, and no entry if that was the last one. -/
theorem lookup_drop (t : Tally) (name other : String) :
    (t.drop name).counts.lookup other
      = if other = name ∧ name ≠ t.root then
          if 1 < t.count name then some (t.count name - 1) else none
        else t.counts.lookup other := by
  unfold drop
  by_cases hroot : name = t.root
  · simp [hroot]
  · simp only [hroot, if_false, ne_eq, not_false_eq_true, and_true]
    show (if 0 < t.count name - 1 then Table.put name (t.count name - 1) t.counts
      else Table.erase name t.counts).lookup other = _
    by_cases ho : other = name
    · subst ho
      simp only [if_true]
      -- one end less leaves some, or the entry goes
      by_cases hleft : 1 < t.count other
      · have hpos : 0 < t.count other - 1 := by omega
        simp [hleft, hpos]
      · have hpos : ¬ 0 < t.count other - 1 := by omega
        simp [hleft, hpos, Table.lookup_erase_self]
    · simp only [ho, if_false]
      split
      · exact Table.lookup_put_ne ho _ _
      · exact Table.lookup_erase_ne ho _

theorem count_drop (t : Tally) (name other : String) :
    (t.drop name).count other
      = if other = name ∧ name ≠ t.root then t.count other - 1 else t.count other := by
  rw [count, lookup_drop]
  by_cases h : other = name ∧ name ≠ t.root
  · rw [if_pos h, if_pos h, h.1]
    split
    · rfl
    · simp only [Option.getD_none]
      omega
  · rw [if_neg h, if_neg h]
    rfl

theorem Sparse.drop (h : t.Sparse) (name : String) : (t.drop name).Sparse := by
  intro other
  rw [lookup_drop]
  split
  · split
    · simp only [ne_eq, Option.some.injEq]
      omega
    · simp
  · exact h other

@[simp] theorem root_release (t : Tally) (source target : String) :
    (t.release source target).root = t.root := by
  simp [release]

@[simp] theorem drop_arrows (t : Tally) (name : String) : (t.drop name).arrows = t.arrows := by
  unfold drop
  split <;> rfl

@[simp] theorem drop_takenBack (t : Tally) (name : String) :
    (t.drop name).takenBack = t.takenBack := by
  unfold drop
  split <;> rfl

@[simp] theorem retain_arrows (t : Tally) (source target : Symbol) :
    (t.retain source target).arrows = t.arrows + 1 := rfl

@[simp] theorem retain_takenBack (t : Tally) (source target : Symbol) :
    (t.retain source target).takenBack = t.takenBack := rfl

@[simp] theorem release_arrows (t : Tally) (source target : String) :
    (t.release source target).arrows = t.arrows - 1 := by
  simp [release]

@[simp] theorem release_takenBack (t : Tally) (source target : String) :
    (t.release source target).takenBack = t.takenBack + 1 := by
  simp [release]

/-! ## The arrows that are left -/

/-- The ends of some arrows, each arrow given by its ends. -/
def ends (live : List (String × String)) : List String := live.flatMap fun p => [p.1, p.2]

/-- The tally is right about the arrows that are left: it has their number, and for each symbol
    but the root the number of ends at it. -/
structure Accounts (t : Tally) (live : List (String × String)) : Prop where
  /-- The number of arrows. -/
  arrows : t.arrows = live.length
  /-- The number of arrow ends at a symbol. -/
  count : ∀ name, name ≠ t.root → t.count name = (ends live).count name
  /-- The root is counted. -/
  root : 0 < t.count t.root
  /-- Symbols without arrow ends are not kept. -/
  sparse : t.Sparse

variable {live rest : List (String × String)}

theorem accounts_start (root : Symbol) : (start root).Accounts [] := by
  have hcount : ∀ name, (start root).count name = if name = root.name then 1 else 0 := by
    intro name
    unfold start
    rw [count_add]
    rfl
  refine ⟨rfl, ?_, ?_, ?_⟩
  · intro name hname
    have hne : name ≠ root.name := hname
    rw [hcount, if_neg hne]
    rfl
  · rw [hcount]
    simp [start]
  · refine Sparse.add ?_ root.name root.file
    intro name h
    cases h

/-- The tally stays right when an arrow is drawn. -/
theorem Accounts.retain (h : t.Accounts live) (source target : Symbol) :
    (t.retain source target).Accounts ((source.name, target.name) :: live) := by
  have hcount : ∀ name, (t.retain source target).count name
      = ((t.add source.name source.file).add target.name target.file).count name :=
    fun _ => rfl
  refine ⟨?_, ?_, ?_, ?_⟩
  · simp [h.arrows]
  · intro name hname
    rw [hcount, count_add, count_add, h.count name hname]
    simp only [ends, List.flatMap_cons, List.cons_append, List.nil_append, List.count_cons,
      beq_iff_eq, eq_comm (b := name)]
    split <;> split <;> omega
  · rw [hcount, count_add, count_add]
    have hroot : 0 < t.count (t.retain source target).root := h.root
    split <;> split <;> omega
  · exact (h.sparse.add source.name source.file).add target.name target.file

/-- The tally stays right when one of the arrows that are left is taken back. -/
theorem Accounts.release (h : t.Accounts live) {p : String × String}
    (hp : live.Perm (p :: rest)) : (t.release p.1 p.2).Accounts rest := by
  have hcount : ∀ name, (t.release p.1 p.2).count name = ((t.drop p.1).drop p.2).count name :=
    fun _ => rfl
  -- an arrow from a symbol to itself has two ends there
  have hends : ∀ name, (ends live).count name
      = (ends rest).count name + (if name = p.2 then 1 else 0) + (if name = p.1 then 1 else 0) := by
    intro name
    have hperm : (ends live).Perm (ends (p :: rest)) := hp.flatMap_right _
    rw [hperm.count_eq]
    simp [ends, List.count_cons, eq_comm (b := name)]
  refine ⟨?_, ?_, ?_, ?_⟩
  · have hlength := hp.length_eq
    rw [List.length_cons] at hlength
    rw [release_arrows, h.arrows, hlength]
    omega
  · intro name hname
    rw [root_release] at hname
    have hlive := h.count name hname
    rw [hends] at hlive
    rw [hcount, count_drop, count_drop, root_drop]
    -- is the symbol where the arrow begins, where it ends, both, or neither?
    by_cases h₁ : name = p.1
    · by_cases h₂ : name = p.2
      · have hp₁ : p.1 ≠ t.root := h₁ ▸ hname
        have hp₂ : p.2 ≠ t.root := h₂ ▸ hname
        simp only [← h₁, ← h₂, hname, ne_eq, not_false_eq_true, and_self, if_true] at hlive ⊢
        omega
      · have hp₁ : p.1 ≠ t.root := h₁ ▸ hname
        simp only [← h₁, h₂, hname, ne_eq, not_false_eq_true, and_self, if_true, false_and,
          if_false] at hlive ⊢
        omega
    · by_cases h₂ : name = p.2
      · simp only [← h₂, h₁, hname, ne_eq, not_false_eq_true, and_self, if_true, false_and,
          if_false] at hlive ⊢
        omega
      · simp only [h₁, h₂, false_and, if_false] at hlive ⊢
        omega
  · rw [root_release, hcount, count_drop, count_drop, root_drop]
    have hroot := h.root
    rw [if_neg (fun hc => hc.2 hc.1.symm), if_neg (fun hc => hc.2 hc.1.symm)]
    exact hroot
  · exact (h.sparse.drop p.1).drop p.2

/-- The members are the root and the ends of the arrows that are left. -/
theorem Accounts.mem_members_iff (h : t.Accounts live) {name : String} :
    name ∈ t.members ↔ name = t.root ∨ name ∈ ends live := by
  rw [mem_members_iff_count h.sparse]
  by_cases hname : name = t.root
  · simp [hname, h.root]
  · rw [h.count name hname, List.count_pos_iff]
    simp [hname]

end Tally

end CallExcerpt
