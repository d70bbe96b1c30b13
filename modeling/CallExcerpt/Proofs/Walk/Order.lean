import CallExcerpt.Proofs.Firsts
import CallExcerpt.Proofs.Table
import CallExcerpt.Proofs.Walk.TakingBack

/-! # The order of the members

    A tally keeps its members where they came in, and the latest arrow is the
    only one that is taken back. So the members stand in the order in which
    the arrows that are left come upon them, whatever was drawn and taken back
    in between.

    * `members_add`, `exists_filter_drop`: what one arrow end does to the order.
    * `InOrder`: the members in order; kept when an arrow is drawn and when the
      latest one is taken back.
    * `Forest.touched`: the order in which a forest comes upon symbols.
    * `OnWay.inOrder`: the members are in order all along an extraction.
-/

namespace CallExcerpt

/-! ## One arrow end -/

namespace Tally

variable {t : Tally}

theorem members_add (t : Tally) (name : String) (file : Option String) :
    (t.add name file).members = if name ∈ t.members then t.members else t.members ++ [name] := by
  by_cases h : name ∈ t.members
  · rw [if_pos h]
    exact Table.keys_put_of_mem h _
  · rw [if_neg h]
    exact Table.keys_put_of_not_mem h _

/-- Members after an arrow was drawn: those before it, and its ends. -/
theorem mem_members_retain_iff (t : Tally) (source target : Symbol) {name : String} :
    name ∈ (t.retain source target).members
      ↔ name ∈ t.members ∨ name = source.name ∨ name = target.name := by
  have hadd : ∀ (t : Tally) (s : Symbol), name ∈ (t.add s.name s.file).members
      ↔ name ∈ t.members ∨ name = s.name := by
    intro t s
    rw [members_add]
    split
    · next hmem => exact ⟨.inl, fun h => h.elim id (fun heq => heq ▸ hmem)⟩
    · rw [List.mem_append, List.mem_singleton]
  show name ∈ ((t.add source.name source.file).add target.name target.file).members ↔ _
  rw [hadd, hadd, or_assoc]

/-- An arrow end less takes a member away or changes nothing: the others stay where they are. -/
theorem exists_filter_drop (t : Tally) (name : String) :
    ∃ p : String → Bool, (t.drop name).members = t.members.filter p := by
  have hsame : t.members = t.members.filter fun _ => true :=
    (List.filter_eq_self.mpr fun _ _ => rfl).symm
  unfold drop
  by_cases hroot : name = t.root
  · rw [if_pos hroot]
    exact ⟨_, hsame⟩
  · rw [if_neg hroot]
    by_cases hleft : 0 < (t.counts.lookup name).getD 0 - 1
    · -- more than one arrow end is counted, so that the symbol is a member
      have hmem : name ∈ Table.keys t.counts := by
        rw [Table.mem_keys_iff]
        cases hl : t.counts.lookup name with
        | none => simp [hl] at hleft
        | some n => rfl
      refine ⟨fun _ => true, ?_⟩
      simp only [if_pos hleft, members, Table.keys_put_of_mem hmem]
      exact hsame
    · refine ⟨fun n => n ≠ name, ?_⟩
      simp only [if_neg hleft, members, Table.keys_erase]

theorem exists_filter_release (t : Tally) (source target : String) :
    ∃ p : String → Bool, (t.release source target).members = t.members.filter p := by
  obtain ⟨p, hp⟩ := exists_filter_drop t source
  obtain ⟨q, hq⟩ := exists_filter_drop (t.drop source) target
  refine ⟨fun n => q n && p n, ?_⟩
  show ((t.drop source).drop target).members = _
  rw [hq, hp, List.filter_filter]

/-! ## Arrows drawn and taken back -/

/-- The members come in the order in which the arrows that are left come upon them, the latest arrow
    being the first of those. -/
def InOrder (t : Tally) (live : List (String × String)) : Prop :=
  t.members = (t.root :: ends live.reverse).eraseDups

variable {live rest : List (String × String)}

theorem ends_concat (live : List (String × String)) (p : String × String) :
    ends (live ++ [p]) = ends live ++ [p.1] ++ [p.2] := by
  simp [ends]

theorem mem_ends_reverse {live : List (String × String)} {name : String} :
    name ∈ ends live.reverse ↔ name ∈ ends live := by
  simp [ends]

theorem inOrder_start (root : Symbol) : (start root).InOrder [] := by
  have hone : [root.name].eraseDups = [root.name] := by simp [List.eraseDups_cons]
  show [root.name] = [root.name].eraseDups
  exact hone.symm

theorem InOrder.retain (h : t.InOrder live) (source target : Symbol) :
    (t.retain source target).InOrder ((source.name, target.name) :: live) := by
  have hadd : ∀ (t : Tally) (seen : List String) (name : String) (file : Option String),
      t.members = seen.eraseDups → (t.add name file).members = (seen ++ [name]).eraseDups := by
    intro t seen name file ht
    rw [members_add, ht, Firsts.eraseDups_concat]
    simp only [List.mem_eraseDups]
  have hboth := hadd _ _ target.name target.file (hadd t _ source.name source.file h)
  unfold InOrder
  rw [List.reverse_cons, ends_concat, ← List.cons_append, ← List.cons_append]
  exact hboth

/-- The members stay in order when the latest arrow is taken back. -/
theorem InOrder.release {p : String × String} (h : t.InOrder (p :: rest))
    (haccounts : (t.release p.1 p.2).Accounts rest) : (t.release p.1 p.2).InOrder rest := by
  obtain ⟨q, hq⟩ := exists_filter_release t p.1 p.2
  -- which members are left is known, and that the others keep their places
  have hleft : ∀ n ∈ t.members, q n = decide (n ∈ t.root :: ends rest.reverse) := by
    intro n hn
    rw [Bool.eq_iff_iff, decide_eq_true_eq]
    have hmem : n ∈ (t.release p.1 p.2).members
        ↔ n = (t.release p.1 p.2).root ∨ n ∈ ends rest := haccounts.mem_members_iff
    rw [hq, List.mem_filter, root_release] at hmem
    rw [List.mem_cons, mem_ends_reverse, ← hmem]
    exact ⟨fun h => ⟨hn, h⟩, And.right⟩
  unfold InOrder
  rw [hq, root_release, List.filter_congr hleft, h, List.reverse_cons, ends_concat,
    List.append_assoc, ← List.cons_append]
  exact Firsts.filter_eraseDups_append _ _

end Tally

/-! ## Forests -/

namespace Forest

/-- The ends of the arrows, in the order of drawing. -/
def touched (forest : Forest) : List String := Tally.ends (forest.arrows.map Arrow.ends)

theorem touched_branch (arrow : Arrow) (below rest : Forest) :
    (branch arrow below rest).touched
      = [arrow.source, arrow.target] ++ below.touched ++ rest.touched := by
  simp [touched, arrows, Tally.ends, Arrow.ends]

theorem mem_touched_iff {forest : Forest} {name : String} :
    name ∈ forest.touched ↔ ∃ a ∈ forest.arrows, name = a.source ∨ name = a.target :=
  mem_ends_arrows

theorem mem_touched_of_ends {forest : Forest} {name : String} (h : forest.Ends name) :
    name ∈ forest.touched := by
  obtain ⟨a, ha, rfl⟩ := h
  exact mem_touched_iff.mpr ⟨a, ha, .inr rfl⟩

end Forest

/-! ## Extractions -/

namespace Walk

variable {g : Graph} {plan : Plan}

/-- All along an extraction the members stand in the order of the arrows that it has drawn and not
    taken back. -/
theorem OnWay.inOrder {root : String} {desk : Desk} {w : Walk} (h : OnWay g plan root desk w)
    {own : List Arrow} (hown : w.sheet.stack = own ++ desk.sheet.stack) :
    w.tally.InOrder (own.map Arrow.ends) := by
  obtain ⟨symbol, hroot, hrun⟩ := h
  induction hrun generalizing own with
  | refl =>
    have hnone : own = [] := List.append_left_eq_self.mp hown.symm
    rw [hnone]
    exact Tally.inOrder_start symbol
  | @tail w₁ w₂ hrun hm ih =>
    have hway : OnWay g plan root desk w₁ := ⟨symbol, hroot, hrun⟩
    have hway' : OnWay g plan root desk w₂ := ⟨symbol, hroot, hrun.tail hm⟩
    obtain ⟨own₁, hown₁, -, -⟩ := hway.balanced.arrows
    have hbefore := ih hown₁
    cases touches_of_move hway.laid.1 hway.laid.2 hm with
    | nothing hsheet _ htally =>
      have heq : own = own₁ := by
        rw [hsheet, hown₁] at hown
        exact (List.append_cancel_right hown).symm
      rw [heq, htally]
      exact hbefore
    | @draws frame _ source target arrow _ ha hsheet _ hsource htally =>
      have heq : own = arrow :: own₁ := by
        rw [hsheet, Sheet.push, hown₁, ← List.cons_append] at hown
        exact (List.append_cancel_right hown).symm
      rw [heq, htally, List.map_cons, ha.ends, ← hsource]
      exact hbefore.retain source target
    | @takesBack _ _ _ arrow _ _ _ _ hpop _ htally =>
      -- the arrow that went was the latest one, and what is left is counted
      have heq : own₁ = arrow :: own := by
        have hstack := Sheet.stack_of_pop? hpop
        rw [hown₁, hown, ← List.cons_append] at hstack
        exact List.append_cancel_right hstack
      obtain ⟨own₂, hown₂, -, haccounts⟩ := hway'.balanced.arrows
      obtain rfl : own = own₂ := List.append_cancel_right (hown.symm.trans hown₂)
      rw [heq, List.map_cons] at hbefore
      rw [htally] at haccounts ⊢
      exact hbefore.release haccounts

end Walk

end CallExcerpt
