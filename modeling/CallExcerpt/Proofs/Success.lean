import Mathlib.Data.List.Forall2

/-! # What a success tells

    A computation of several steps succeeds only if each step does, and fails
    as the first step that fails.

    * `of_bind`, `of_run_bind`: a success taken apart, with the results of its
      steps and the states between them.
    * `bind_of_ok`, `bind_of_error`, `tryCatch_of_ok`, `tryCatch_of_error`: one
      step run.
    * `Blames`: what is known of a failure without a state.
    * `Judges`: a computation without a state that succeeds just for what is good,
      and tells of all else what is wrong; `FirstWrong`: of a list, the first item
      that is not good.
    * `Gives`: what is known of a result whenever there is one, step by step.
    * `Leads`: what is known of a computation that is begun in some state,
      whether it succeeds or fails.
-/

namespace CallExcerpt.Success

variable {ε σ α β : Type}

/-! ## Without a state -/

theorem of_bind {x : Except ε α} {f : α → Except ε β} {b : β} (h : x >>= f = .ok b) :
    ∃ a, x = .ok a ∧ f a = .ok b := by
  cases x with
  | error e => cases h
  | ok a => exact ⟨a, rfl, h⟩

theorem of_mapError {ε' : Type} {failure : ε → ε'} {x : Except ε α} {a : α}
    (h : x.mapError failure = .ok a) : x = .ok a := by
  cases x with
  | error e => cases h
  | ok a' =>
    cases h
    rfl

theorem of_mapM {f : α → Except ε β} {as : List α} {bs : List β} (h : as.mapM f = .ok bs) :
    List.Forall₂ (fun a b => f a = .ok b) as bs := by
  induction as generalizing bs with
  | nil =>
    cases h
    exact .nil
  | cons a as ih =>
    rw [List.mapM_cons] at h
    obtain ⟨b, hb, h⟩ := of_bind h
    obtain ⟨bs', hbs, h⟩ := of_bind h
    cases h
    exact .cons hb (ih hbs)

theorem mapM_of_forall₂ {f : α → Except ε β} {as : List α} {bs : List β}
    (h : List.Forall₂ (fun a b => f a = .ok b) as bs) : as.mapM f = .ok bs := by
  induction h with
  | nil => rfl
  | cons ha _ ih =>
    rw [List.mapM_cons, ha, ih]
    rfl

/-- Whatever goes wrong has a property. -/
def Blames (x : Except ε α) (F : ε → Prop) : Prop := ∀ e, x = .error e → F e

theorem blames_ok {F : ε → Prop} (a : α) : Blames (.ok a) F := nofun

theorem blames_error {F : ε → Prop} {e : ε} (h : F e) : Blames (.error e : Except ε α) F := by
  rintro _ ⟨⟩
  exact h

theorem Blames.bind {F : ε → Prop} {x : Except ε α} {f : α → Except ε β} (hx : Blames x F)
    (hf : ∀ a, x = .ok a → Blames (f a) F) : Blames (x >>= f) F := by
  cases x with
  | error e => exact blames_error (hx e rfl)
  | ok a => exact hf a rfl

theorem blames_mapM {F : ε → Prop} {f : α → Except ε β} (hf : ∀ a, Blames (f a) F) (as : List α) :
    Blames (as.mapM f) F := by
  induction as with
  | nil => exact blames_ok []
  | cons a as ih =>
    rw [List.mapM_cons]
    exact (hf a).bind fun b _ => ih.bind fun bs _ => blames_ok (b :: bs)

theorem mapM_map {γ : Type} (f : α → Except ε β) (k : β → γ) (as : List α) :
    (as.mapM fun a => (f a).map k) = (as.mapM f).map (List.map k) := by
  induction as with
  | nil => rfl
  | cons a as ih =>
    rw [List.mapM_cons, List.mapM_cons, ih]
    cases f a with
    | error e => rfl
    | ok b =>
      cases as.mapM f with
      | error e => rfl
      | ok bs => rfl

/-! ## What is good and what is wrong -/

/-- A computation succeeds just for what is good, and fails with just what is wrong. -/
structure Judges (x : Except ε α) (good : Prop) (wrong : ε → Prop) : Prop where
  ok_iff : (∃ a, x = .ok a) ↔ good
  error_iff : ∀ e, x = .error e ↔ wrong e

section judges
variable {good good' : Prop} {wrong wrong' : ε → Prop}

theorem judges_ok (a : α) (hgood : good) (hwrong : ∀ e, ¬ wrong e) :
    Judges (.ok a : Except ε α) good wrong := by
  constructor
  · exact ⟨fun _ => hgood, fun _ => ⟨a, rfl⟩⟩
  · intro e
    exact ⟨nofun, fun h => absurd h (hwrong e)⟩

theorem judges_error {e : ε} (hgood : ¬ good) (hwrong : ∀ e', wrong e' ↔ e' = e) :
    Judges (.error e : Except ε α) good wrong := by
  constructor
  · exact ⟨nofun, fun h => absurd h hgood⟩
  · intro e'
    rw [hwrong, Except.error.injEq, eq_comm]

theorem Judges.congr {x : Except ε α} (hx : Judges x good wrong) (hgood : good ↔ good')
    (hwrong : ∀ e, wrong e ↔ wrong' e) : Judges x good' wrong' := by
  constructor
  · rw [hx.ok_iff, hgood]
  · intro e
    rw [hx.error_iff, hwrong]

theorem Judges.map {x : Except ε α} (hx : Judges x good wrong) (f : α → β) :
    Judges (x.map f) good wrong := by
  cases x with
  | ok a =>
    have hright : ∀ e, ¬ wrong e := fun e he => nomatch (hx.error_iff e).mpr he
    exact judges_ok (f a) (hx.ok_iff.mp ⟨a, rfl⟩) hright
  | error e =>
    have hgood : ¬ good := fun h => nomatch hx.ok_iff.mpr h
    refine judges_error hgood fun e' => ?_
    rw [← hx.error_iff, Except.error.injEq, eq_comm]

/-- The second step is asked only if the first one finds nothing wrong. -/
theorem Judges.bind {x : Except ε α} {f : α → Except ε β} (hx : Judges x good wrong)
    (hf : ∀ a, x = .ok a → Judges (f a) good' wrong') :
    Judges (x >>= f) (good ∧ good') fun e => wrong e ∨ good ∧ wrong' e := by
  cases x with
  | ok a =>
    have hgood : good := hx.ok_iff.mp ⟨a, rfl⟩
    have hright : ∀ e, ¬ wrong e := fun e he => nomatch (hx.error_iff e).mpr he
    exact (hf a rfl).congr (by simp [hgood]) (by simp [hgood, hright])
  | error e =>
    have hbad : ¬ good := fun h => nomatch hx.ok_iff.mpr h
    refine judges_error (fun h => hbad h.1) fun e' => ?_
    rw [← hx.error_iff, Except.error.injEq]
    simp [hbad, eq_comm]

/-- What is wrong with the first item of a list that is not good, which may depend on its place. -/
def FirstWrong (good : α → Prop) (wrong : Nat → α → ε → Prop) (as : List α) (e : ε) : Prop :=
  ∃ before a after, as = before ++ a :: after ∧ (∀ b ∈ before, good b) ∧ wrong before.length a e

theorem not_firstWrong_nil {good : α → Prop} {wrong : Nat → α → ε → Prop} {e : ε} :
    ¬ FirstWrong good wrong [] e := by
  rintro ⟨before, a, after, h, -, -⟩
  simp at h

/-- The first item is wrong, or it is good and the first wrong one comes later. -/
theorem firstWrong_cons_iff {good : α → Prop} {wrong : Nat → α → ε → Prop} {a : α} {as : List α}
    {e : ε} : FirstWrong good wrong (a :: as) e
      ↔ wrong 0 a e ∨ good a ∧ FirstWrong good (fun i => wrong (i + 1)) as e := by
  constructor
  · rintro ⟨before, b, after, h, hbefore, hwrong⟩
    cases before with
    | nil =>
      obtain ⟨rfl, rfl⟩ : a = b ∧ as = after := by simpa using h
      exact .inl hwrong
    | cons c before =>
      obtain ⟨rfl, rfl⟩ : a = c ∧ as = before ++ b :: after := by simpa using h
      obtain ⟨hgood, hrest⟩ := List.forall_mem_cons.mp hbefore
      exact .inr ⟨hgood, before, b, after, rfl, hrest, hwrong⟩
  · rintro (hwrong | ⟨hgood, before, b, after, rfl, hbefore, hwrong⟩)
    · exact ⟨[], a, as, rfl, nofun, hwrong⟩
    · exact ⟨a :: before, b, after, rfl, List.forall_mem_cons.mpr ⟨hgood, hbefore⟩, hwrong⟩

/-- Items in a row, each judged through what was made of it. -/
theorem judges_mapM {γ : Type} {good : γ → Prop} {wrong : γ → ε → Prop} {f : α → Except ε β}
    {cs : List γ} {as : List α}
    (h : List.Forall₂ (fun c a => Judges (f a) (good c) (wrong c)) cs as) :
    Judges (as.mapM f) (∀ c ∈ cs, good c) (FirstWrong good (fun _ => wrong) cs) := by
  induction h with
  | nil => exact judges_ok [] nofun fun e => not_firstWrong_nil
  | @cons c a cs as ha _ ih =>
    rw [List.mapM_cons]
    have hall : Judges (f a >>= fun b => as.mapM f >>= fun bs => Except.ok (b :: bs))
        (good c ∧ (∀ c ∈ cs, good c) ∧ True)
        fun e => wrong c e ∨ good c ∧ (FirstWrong good (fun _ => wrong) cs e
          ∨ (∀ c ∈ cs, good c) ∧ False) :=
      ha.bind fun b _ => ih.bind fun bs _ => judges_ok (b :: bs) trivial fun _ h => h
    refine hall.congr ?_ fun e => ?_
    · rw [and_true, List.forall_mem_cons]
    · rw [firstWrong_cons_iff, and_false, or_false]

end judges

/-! ## With a state -/

theorem of_run_bind {x : EStateM ε σ α} {f : α → EStateM ε σ β} {s s' : σ} {b : β}
    (h : (x >>= f) s = .ok b s') : ∃ a s₁, x s = .ok a s₁ ∧ f a s₁ = .ok b s' := by
  change (x >>= f).run s = _ at h
  rw [EStateM.run_bind] at h
  cases hx : x.run s with
  | error e s₁ =>
    rw [hx] at h
    cases h
  | ok a s₁ =>
    rw [hx] at h
    exact ⟨a, s₁, hx, h⟩

theorem bind_of_ok {x : EStateM ε σ α} {f : α → EStateM ε σ β} {s s' : σ} {a : α}
    (h : x s = .ok a s') : (x >>= f) s = f a s' := by
  show (x >>= f).run s = _
  change x.run s = _ at h
  rw [EStateM.run_bind, h]
  rfl

theorem bind_of_error {x : EStateM ε σ α} {f : α → EStateM ε σ β} {s s' : σ} {e : ε}
    (h : x s = .error e s') : (x >>= f) s = .error e s' := by
  show (x >>= f).run s = _
  change x.run s = _ at h
  rw [EStateM.run_bind, h]

theorem tryCatch_of_error {x : EStateM ε σ α} {handler : ε → EStateM ε σ α} {s s' : σ} {e : ε}
    (h : x s = .error e s') : tryCatch x handler s = handler e s' := by
  show EStateM.tryCatch x handler s = _
  unfold EStateM.tryCatch
  rw [h]
  rfl

theorem tryCatch_of_ok {x : EStateM ε σ α} {handler : ε → EStateM ε σ α} {s s' : σ} {a : α}
    (h : x s = .ok a s') : tryCatch x handler s = .ok a s' := by
  show EStateM.tryCatch x handler s = _
  unfold EStateM.tryCatch
  rw [h]

/-- Whenever the computation succeeds, its result has a property. -/
def Gives (x : EStateM ε σ α) (P : α → Prop) : Prop := ∀ s a s', x s = .ok a s' → P a

section gives
variable {P : α → Prop} {Q : β → Prop}

theorem gives_pure {a : α} (h : P a) : Gives (pure a : EStateM ε σ α) P := by
  intro s a' s' hrun
  cases hrun
  exact h

theorem gives_throw (e : ε) : Gives (throw e : EStateM ε σ α) P := by
  intro s a s' hrun
  cases hrun

theorem Gives.mono {P' : α → Prop} {x : EStateM ε σ α} (hx : Gives x P) (h : ∀ a, P a → P' a) :
    Gives x P' := fun s a s' hrun => h a (hx s a s' hrun)

theorem Gives.bind {x : EStateM ε σ α} {f : α → EStateM ε σ β} (hx : Gives x P)
    (hf : ∀ a, P a → Gives (f a) Q) : Gives (x >>= f) Q := by
  intro s b s' hrun
  obtain ⟨a, s₁, ha, hb⟩ := of_run_bind hrun
  exact hf a (hx s a s₁ ha) s₁ b s' hb

/-- Nothing need be known of the first step. -/
theorem Gives.after {x : EStateM ε σ α} {f : α → EStateM ε σ β} (hf : ∀ a, Gives (f a) Q) :
    Gives (x >>= f) Q := by
  intro s b s' hrun
  obtain ⟨a, s₁, -, hb⟩ := of_run_bind hrun
  exact hf a s₁ b s' hb

theorem Gives.tryCatch {x : EStateM ε σ α} {handler : ε → EStateM ε σ α} (hx : Gives x P)
    (hh : ∀ e, Gives (handler e) P) : Gives (tryCatch x handler) P := by
  intro s a s' hrun
  change EStateM.tryCatch x handler s = _ at hrun
  unfold EStateM.tryCatch at hrun
  cases hresult : x s with
  | error e s₁ =>
    rw [hresult] at hrun
    exact hh e _ a s' hrun
  | ok a' s₁ =>
    rw [hresult] at hrun
    cases hrun
    exact hx s a s' hresult

end gives

/-! ## Both ways to end -/

/-- Begun in a state, the computation gives a result and a state of some kind, or fails with a
    failure and a state of another. -/
def Leads (x : EStateM ε σ α) (s : σ) (P : α → σ → Prop) (F : ε → σ → Prop) : Prop :=
  match x s with
  | .ok a s' => P a s'
  | .error e s' => F e s'

section leads
variable {P Q : α → σ → Prop} {R : β → σ → Prop} {F G : ε → σ → Prop} {s : σ}

theorem leads_pure {a : α} (h : P a s) : Leads (pure a : EStateM ε σ α) s P F := h

theorem leads_throw {e : ε} (h : F e s) : Leads (throw e : EStateM ε σ α) s P F := h

/-- Nothing comes after a failure. -/
theorem leads_throw_bind {e : ε} {f : α → EStateM ε σ β} (h : F e s) :
    Leads (throw e >>= f) s R F := h

/-- The state that is asked for is the one that is there. -/
theorem leads_get : Leads (get : EStateM ε σ σ) s (fun a s' => s = a ∧ s = s') F := ⟨rfl, rfl⟩

theorem leads_of_ok {x : EStateM ε σ α} {a : α} {s' : σ} (hx : x s = .ok a s') (h : P a s') :
    Leads x s P F := by
  unfold Leads
  rw [hx]
  exact h

theorem leads_run (x : EStateM ε σ α) (s : σ) :
    Leads x s (fun a s' => x s = .ok a s') fun e s' => x s = .error e s' := by
  unfold Leads
  cases x s with
  | ok a s' => rfl
  | error e s' => rfl

/-- A computation that was begun has one of its two ends. -/
theorem Leads.cases {x : EStateM ε σ α} (h : Leads x s P F) :
    (∃ a s', x s = .ok a s' ∧ P a s') ∨ ∃ e s', x s = .error e s' ∧ F e s' := by
  unfold Leads at h
  cases hx : x s with
  | ok a s' =>
    rw [hx] at h
    exact .inl ⟨a, s', rfl, h⟩
  | error e s' =>
    rw [hx] at h
    exact .inr ⟨e, s', rfl, h⟩

theorem Leads.mono {x : EStateM ε σ α} (h : Leads x s P F) (hP : ∀ a s', P a s' → Q a s')
    (hF : ∀ e s', F e s' → G e s') : Leads x s Q G := by
  unfold Leads
  obtain ⟨a, s', hx, ha⟩ | ⟨e, s', hx, he⟩ := h.cases
  · rw [hx]
    exact hP a s' ha
  · rw [hx]
    exact hF e s' he

/-- What is known of a computation in two ways. -/
theorem Leads.and {x : EStateM ε σ α} (h : Leads x s P F) (h' : Leads x s Q G) :
    Leads x s (fun a s' => P a s' ∧ Q a s') fun e s' => F e s' ∧ G e s' := by
  unfold Leads at h h' ⊢
  cases hx : x s with
  | ok a s' =>
    rw [hx] at h h'
    exact ⟨h, h'⟩
  | error e s' =>
    rw [hx] at h h'
    exact ⟨h, h'⟩

theorem Leads.bind {x : EStateM ε σ α} {f : α → EStateM ε σ β} (hx : Leads x s P F)
    (hf : ∀ a s', P a s' → Leads (f a) s' R F) : Leads (x >>= f) s R F := by
  unfold Leads
  obtain ⟨a, s', hrun, ha⟩ | ⟨e, s', hrun, he⟩ := hx.cases
  · rw [bind_of_ok hrun]
    exact hf a s' ha
  · rw [bind_of_error hrun]
    exact he

theorem Leads.tryCatch {x : EStateM ε σ α} {handler : ε → EStateM ε σ α} (hx : Leads x s P G)
    (hh : ∀ e s', G e s' → Leads (handler e) s' P F) : Leads (tryCatch x handler) s P F := by
  unfold Leads
  obtain ⟨a, s', hrun, ha⟩ | ⟨e, s', hrun, he⟩ := hx.cases
  · rw [tryCatch_of_ok hrun]
    exact ha
  · rw [tryCatch_of_error hrun]
    exact hh e s' he

end leads

end CallExcerpt.Success
