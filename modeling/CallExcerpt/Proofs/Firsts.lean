import Mathlib.Data.List.Induction

/-! # Firsts

    Of things that come in a row and may come again, only the first time
    counts: `List.eraseDups` keeps them in the order in which they came first.
    What is new goes last (`eraseDups_concat`), and what was there before
    changes nothing (`eraseDups_append_of_subset`). Where equal things stand
    together, as they do in order, `List.eraseReps` keeps each once
    (`nodup_eraseReps`).
-/

namespace CallExcerpt.Firsts

variable {α : Type} [DecidableEq α]

theorem mem_removeAll_iff {xs ys : List α} {a : α} : a ∈ xs.removeAll ys ↔ a ∈ xs ∧ a ∉ ys := by
  simp [List.removeAll]

theorem append_removeAll (xs ys zs : List α) :
    (xs ++ ys).removeAll zs = xs.removeAll zs ++ ys.removeAll zs := List.filter_append xs ys

/-- Of texts in a row those that were there before are the firsts of the first ones. -/
theorem filter_eraseDups_append (seen more : List α) :
    (seen ++ more).eraseDups.filter (· ∈ seen) = seen.eraseDups := by
  have hold : seen.eraseDups.filter (· ∈ seen) = seen.eraseDups := by
    rw [List.filter_eq_self]
    intro a ha
    simpa using ha
  have hnew : (more.removeAll seen).eraseDups.filter (· ∈ seen) = [] := by
    rw [List.filter_eq_nil_iff]
    intro a ha
    rw [List.mem_eraseDups, mem_removeAll_iff] at ha
    simpa using ha.2
  rw [List.eraseDups_append, List.filter_append, hold, hnew, List.append_nil]

theorem eraseDups_concat (seen : List α) (a : α) :
    (seen ++ [a]).eraseDups = if a ∈ seen then seen.eraseDups else seen.eraseDups ++ [a] := by
  rw [List.eraseDups_append]
  by_cases h : a ∈ seen
  · have hnone : [a].removeAll seen = [] := by simp [List.removeAll, h]
    simp [h, hnone]
  · have hone : [a].removeAll seen = [a] := by simp [List.removeAll, h]
    simp [h, hone, List.eraseDups_cons]

theorem nodup_eraseDups (xs : List α) : xs.eraseDups.Nodup := by
  cases xs with
  | nil => exact List.nodup_nil
  | cons a xs =>
    rw [List.eraseDups_cons, List.nodup_cons]
    constructor
    · simp
    · exact nodup_eraseDups _
termination_by xs.length
decreasing_by
  have h := List.length_filter_le (fun b : α => !b == a) xs
  simp only [List.length_cons]
  omega

/-- What comes only once stays as it is. -/
theorem eraseDups_of_nodup {xs : List α} (h : xs.Nodup) : xs.eraseDups = xs := by
  induction xs with
  | nil => rfl
  | cons a xs ih =>
    obtain ⟨hfresh, hrest⟩ := List.nodup_cons.mp h
    have hothers : xs.filter (fun b => !b == a) = xs := by
      rw [List.filter_eq_self]
      intro b hb
      have hne : b ≠ a := fun hab => hfresh (hab ▸ hb)
      simpa using hne
    rw [List.eraseDups_cons, hothers, ih hrest]

theorem eraseDups_concat_of_mem {xs : List α} (h : xs.Nodup) {a : α} (ha : a ∈ xs) :
    (xs ++ [a]).eraseDups = xs := by
  rw [eraseDups_concat, if_pos ha, eraseDups_of_nodup h]

/-- What was there before may come again. -/
theorem eraseDups_append_of_subset {seen more : List α} (h : ∀ a ∈ more, a ∈ seen) :
    (seen ++ more).eraseDups = seen.eraseDups := by
  have hnone : more.removeAll seen = [] := by
    rw [List.eq_nil_iff_forall_not_mem]
    intro a ha
    rw [mem_removeAll_iff] at ha
    exact ha.2 (h a ha.1)
  rw [List.eraseDups_append, hnone]
  simp

/-- What follows firsts does not depend on how often they came. -/
theorem eraseDups_append_congr {seen seen' : List α} (h : seen.eraseDups = seen'.eraseDups)
    (more : List α) : (seen ++ more).eraseDups = (seen' ++ more).eraseDups := by
  have hmem : ∀ a, a ∈ seen ↔ a ∈ seen' := by
    intro a
    rw [← List.mem_eraseDups, h, List.mem_eraseDups]
  have hleft : more.removeAll seen = more.removeAll seen' := by
    refine List.filter_congr ?_
    intro a _
    simp [hmem a]
  rw [List.eraseDups_append, List.eraseDups_append, h, hleft]

/-- Firsts that something follows need not be picked before. -/
theorem eraseDups_eraseDups_append (seen more : List α) :
    (seen.eraseDups ++ more).eraseDups = (seen ++ more).eraseDups :=
  eraseDups_append_congr (eraseDups_of_nodup (nodup_eraseDups seen)) more

/-- Whether things are picked before or after the firsts is one. -/
theorem eraseDups_filter (p : α → Bool) (xs : List α) :
    (xs.filter p).eraseDups = xs.eraseDups.filter p := by
  induction xs using List.reverseRecOn with
  | nil => rfl
  | append_singleton xs a ih =>
    rw [List.filter_append, eraseDups_concat]
    by_cases hp : p a = true
    · have hone : [a].filter p = [a] := by simp [hp]
      rw [hone, eraseDups_concat, ih]
      by_cases ha : a ∈ xs
      · rw [if_pos ha, if_pos (List.mem_filter.mpr ⟨ha, hp⟩)]
      · have hnot : a ∉ xs.filter p := fun h => ha (List.mem_filter.mp h).1
        rw [if_neg ha, if_neg hnot, List.filter_append, hone]
    · have hnone : [a].filter p = [] := by simp [hp]
      rw [hnone, List.append_nil, ih]
      by_cases ha : a ∈ xs
      · rw [if_pos ha]
      · rw [if_neg ha, List.filter_append, hnone, List.append_nil]

/-! ## Things in order -/

theorem mem_eraseReps_iff {xs : List α} {a : α} : a ∈ xs.eraseReps ↔ a ∈ xs := by
  have hloop : ∀ (xs : List α) (b : α) (kept : List α),
      a ∈ List.eraseRepsBy.loop (· == ·) b xs kept ↔ a ∈ kept ∨ a = b ∨ a ∈ xs := by
    intro xs
    induction xs with
    | nil =>
      intro b kept
      simp [List.eraseRepsBy.loop, or_comm]
    | cons c xs ih =>
      intro b kept
      unfold List.eraseRepsBy.loop
      by_cases hbc : b = c
      · simp [hbc, ih]
      · have hne : (b == c) = false := by simpa using hbc
        simp only [hne, ih, List.mem_cons]
        rw [or_assoc, or_left_comm]
  cases xs with
  | nil => rfl
  | cons b xs => simpa [List.eraseReps, List.eraseRepsBy] using hloop xs b []

theorem eraseReps_sublist (xs : List α) : xs.eraseReps.Sublist xs := by
  have hloop : ∀ (xs : List α) (b : α) (kept : List α),
      (List.eraseRepsBy.loop (· == ·) b xs kept).Sublist (kept.reverse ++ b :: xs) := by
    intro xs
    induction xs with
    | nil =>
      intro b kept
      simp [List.eraseRepsBy.loop]
    | cons c xs ih =>
      intro b kept
      unfold List.eraseRepsBy.loop
      by_cases hbc : b = c
      · simp only [hbc, beq_self_eq_true]
        exact (ih c kept).trans ((List.Sublist.refl _).append ((List.Sublist.refl _).cons c))
      · have hne : (b == c) = false := by simpa using hbc
        simp only [hne]
        simpa using ih c (b :: kept)
  cases xs with
  | nil => exact List.Sublist.refl _
  | cons b xs => simpa [List.eraseReps, List.eraseRepsBy] using hloop xs b []

/-- Of things in order each is kept once. -/
theorem nodup_eraseReps {le : α → α → Prop} (anti : ∀ a b, le a b → le b a → a = b) {xs : List α}
    (h : xs.Pairwise le) : xs.eraseReps.Nodup := by
  -- what was kept comes before what is left, and differs from what is looked at
  have hloop : ∀ (xs : List α) (b : α) (kept : List α), (b :: xs).Pairwise le →
      (∀ a ∈ kept, a ≠ b ∧ ∀ c ∈ b :: xs, le a c) → kept.Nodup →
      (List.eraseRepsBy.loop (· == ·) b xs kept).Nodup := by
    intro xs
    induction xs with
    | nil =>
      intro b kept _ hkept hnodup
      have hfresh : b ∉ kept := fun hb => (hkept b hb).1 rfl
      unfold List.eraseRepsBy.loop
      exact (List.reverse_perm _).nodup_iff.mpr (List.nodup_cons.mpr ⟨hfresh, hnodup⟩)
    | cons c xs ih =>
      intro b kept hsorted hkept hnodup
      obtain ⟨hb, hrest⟩ := List.pairwise_cons.mp hsorted
      unfold List.eraseRepsBy.loop
      by_cases hbc : b = c
      · subst hbc
        simp only [beq_self_eq_true]
        refine ih b kept hrest ?_ hnodup
        intro a ha
        exact ⟨(hkept a ha).1, fun d hd => (hkept a ha).2 d (List.mem_cons_of_mem _ hd)⟩
      · have hne : (b == c) = false := by simpa using hbc
        have hfresh : b ∉ kept := fun hb => (hkept b hb).1 rfl
        simp only [hne]
        refine ih c (b :: kept) hrest ?_ (List.nodup_cons.mpr ⟨hfresh, hnodup⟩)
        intro a ha
        rcases List.mem_cons.mp ha with rfl | ha
        · exact ⟨hbc, hb⟩
        · obtain ⟨hab, hbefore⟩ := hkept a ha
          refine ⟨?_, fun d hd => hbefore d (List.mem_cons_of_mem _ hd)⟩
          rintro rfl
          exact hab (anti a b (hbefore b List.mem_cons_self) (hb a List.mem_cons_self))
  cases xs with
  | nil => exact List.nodup_nil
  | cons b xs => exact hloop xs b [] h (fun a ha => absurd ha (by simp)) List.nodup_nil

end CallExcerpt.Firsts
