import CallExcerpt.Files.Disk
import CallExcerpt.Proofs.Files.Path
import CallExcerpt.Proofs.Success

/-! # Directories that stay

    No operation of the program takes a directory away or puts something else
    in its place. So a path that led to a directory does so later on, and a
    directory that was made once need not be made again.

    * `Disk.Keeps`: all directories of a disk are still there.
    * `Keeps.locate`, `Keeps.isDirectory`: paths lead where they led.
    * `Refusal`, `TooDeep`, `Stuck`: what may go wrong with a path, with the
      directories above it, and with what is written.
    * `ChangedAt`, `Wrote`: what the writing of a file changes.
    * `leads_makeDirectory`, `leads_ensureDirectories`: the making of directories.
    * `leads_openForWriting`, `leads_openForAdding`, `leads_fill`: the steps of
      writing; `leads_writeFile`, `leads_appendFile`: the whole of it. Each says
      what is left, whether it succeeds or not.
    * `ensureDirectories_of_isDirectory`, `ensureDirectories_of_blocked`: nothing
      is left to do for a directory that is there, and nothing can be done if
      something else is.
-/

namespace CallExcerpt

open Success (bind_of_ok bind_of_error tryCatch_of_ok tryCatch_of_error Leads leads_pure
  leads_throw leads_get)

/-! ## Directories of a disk -/

namespace Disk

/-- All directories of a disk are still directories, and the system refuses what it refused. -/
structure Keeps (d d' : Disk) : Prop where
  directories : ∀ l, d.find? l = some .directory → d'.find? l = some .directory
  limits : d'.limits = d.limits

variable {d d' d'' : Disk} {l : Location}

theorem Keeps.refl (d : Disk) : d.Keeps d := ⟨fun _ h => h, rfl⟩

theorem Keeps.trans (h : d.Keeps d') (h' : d'.Keeps d'') : d.Keeps d'' where
  directories l hl := h'.directories l (h.directories l hl)
  limits := h'.limits.trans h.limits

theorem find?_put_self (hl : l ≠ []) (e : Entry) : (d.put l e).find? l = some e := by
  have hempty : l.isEmpty = false := by simpa using hl
  simp [find?, put, hempty]

theorem find?_put_of_ne {l' : Location} (h : l' ≠ l) (e : Entry) :
    (d.put l e).find? l' = d.find? l' := by
  simp [find?, put, Table.lookup_put_ne h]

theorem ne_nil_of_find? (h : d.find? l ≠ some .directory) : l ≠ [] := by
  rintro rfl
  exact h rfl

/-- Nothing but what was no directory is put elsewhere. -/
theorem keeps_put (h : d.find? l ≠ some .directory) (e : Entry) : d.Keeps (d.put l e) := by
  refine ⟨fun l' hl' => ?_, rfl⟩
  have hne : l' ≠ l := by
    rintro rfl
    exact h hl'
  rw [find?_put_of_ne hne, hl']

theorem Keeps.follow (h : d.Keeps d') {ns : List String} {l' : Location}
    (hf : d.follow l ns = .ok l') : d'.follow l ns = .ok l' := by
  induction ns generalizing l with
  | nil => exact hf
  | cons n ns ih =>
    -- each name before the last one led on from a directory, which is still there
    have hdir : d.find? l = some .directory := by
      rw [Disk.follow] at hf
      split at hf
      · cases hf
      · assumption
      · cases hf
    rw [Disk.follow, hdir] at hf
    rw [Disk.follow, h.directories l hdir, h.limits]
    dsimp only at hf ⊢
    split at hf
    case h_1 => cases hf
    case h_2 hpassing =>
      split at hf
      case isTrue hup => rw [if_pos hup, ih hf]
      case isFalse hdown =>
        rw [if_neg hdown]
        split at hf
        case isTrue => cases hf
        case isFalse hlength => rw [if_neg hlength, ih hf]

/-- A name leads from a directory to what it stands for there. -/
theorem follow_name {n : String} (hdirectory : d.find? l = some .directory)
    (hpassing : d.limits.passing l = none) (hdots : n ≠ "..")
    (hlength : ¬ maxName < n.utf8ByteSize) : d.follow l [n] = .ok (l ++ [n]) := by
  rw [follow, hdirectory]
  dsimp only
  rw [hpassing]
  dsimp only
  rw [if_neg hdots, if_neg hlength, follow]

theorem Keeps.locate (h : d.Keeps d') {base : Location} {p : Path}
    (hp : d.locate base p = .ok l) : d'.locate base p = .ok l := by
  unfold Disk.locate at hp ⊢
  split at hp
  case isTrue => cases hp
  case isFalse hlength =>
    rw [if_neg hlength]
    split at hp
    case h_1 => exact h.follow hp
    case h_2 => exact h.follow hp

theorem isDirectory_iff {base : Location} {p : Path} : d.isDirectory base p = true
    ↔ p.Clean ∧ ∃ l, d.locate base p = .ok l ∧ d.find? l = some .directory := by
  unfold isDirectory entryAt?
  rw [Path.clean_iff]
  cases hclean : p.toString.contains '\x00' with
  | true => simp
  | false =>
    cases hlocate : d.locate base p with
    | error e => simp
    | ok l => simp

theorem Keeps.isDirectory (h : d.Keeps d') {base : Location} {p : Path}
    (hp : d.isDirectory base p = true) : d'.isDirectory base p = true := by
  obtain ⟨hclean, l, hl, hdir⟩ := isDirectory_iff.mp hp
  exact isDirectory_iff.mpr ⟨hclean, l, h.locate hl, h.directories l hdir⟩

end Disk

/-! ## Operations -/

namespace OnDisk

variable {base : Location} {p : Path} {d : Disk} {l : Location}

theorem locate_of_unclean (h : ¬ p.Clean) : locate base p d = .error .nullByte d := by
  have hcontains : p.toString.contains '\x00' = true := by
    rw [Path.clean_iff] at h
    simpa using h
  unfold locate
  rw [if_pos hcontains]
  exact bind_of_error rfl

theorem locate_of_clean (h : p.Clean) :
    locate base p d = match d.locate base p with
      | .ok l => .ok l d
      | .error e => .error (.refused e p.toString) d := by
  unfold locate
  rw [Path.clean_iff.mp h]
  refine (bind_of_ok rfl).trans ((bind_of_ok rfl).trans ?_)
  cases d.locate base p with
  | ok l => rfl
  | error e => rfl

theorem locate_of_located (h : p.Clean) (hlocate : d.locate base p = .ok l) :
    locate base p d = .ok l d := by
  rw [locate_of_clean h, hlocate]

/-- A path is refused by the system, or no system takes it. -/
inductive Refusal (p : Path) : SystemFault → Prop where
  /-- The system refuses. -/
  | refused (error : SystemError) (name : String) : Refusal p (.refused error name)
  /-- No system takes the path. -/
  | nullByte (hunclean : ¬ p.Clean) : Refusal p .nullByte

theorem Refusal.mono {p' : Path} {e : SystemFault} (h : Refusal p e) (hclean : p'.Clean → p.Clean) :
    Refusal p' e := by
  cases h with
  | refused error name => exact .refused error name
  | nullByte hunclean => exact .nullByte fun h => hunclean (hclean h)

theorem leads_locate (base : Location) (p : Path) (d : Disk) :
    Leads (locate base p) d (fun l d' => d' = d ∧ p.Clean ∧ d.locate base p = .ok l)
      fun e d' => d' = d ∧ Refusal p e := by
  unfold Leads
  by_cases hclean : p.Clean
  · rw [locate_of_clean hclean]
    cases d.locate base p with
    | error e => exact ⟨rfl, .refused e _⟩
    | ok l => exact ⟨rfl, hclean, rfl⟩
  · rw [locate_of_unclean hclean]
    exact ⟨rfl, .nullByte hclean⟩

/-- An operation at the place of a path. Looking for the place changes nothing. -/
theorem leads_located {α : Type} {P : α → Disk → Prop} {F : SystemFault → Disk → Prop}
    {f : Location → Disk → OnDisk α} (hfault : ∀ e, Refusal p e → F e d)
    (hf : ∀ l, p.Clean → d.locate base p = .ok l → Leads (f l d) d P F) :
    Leads (do
      let l ← locate base p
      let d ← get
      f l d) d P F := by
  have hplace := (leads_locate base p d).mono (fun _ _ h => h) (G := F)
    fun e d' h => h.1 ▸ hfault e h.2
  apply hplace.bind
  rintro l d' ⟨rfl, hclean, hlocate⟩
  apply leads_get.bind
  rintro d₁ d₂ ⟨rfl, rfl⟩
  exact hf l hclean hlocate

/-- Asking for permission changes nothing. -/
theorem leads_permit (l : Location) (p : Path) (d : Disk) :
    Leads (permit l p) d (fun _ d' => d = d') fun e d' => d' = d ∧ Refusal p e := by
  unfold permit
  apply leads_get.bind
  rintro d₁ d₂ ⟨rfl, rfl⟩
  cases d.limits.opening d.entries l with
  | none => exact rfl
  | some reason => exact ⟨rfl, .refused _ _⟩

/-- A directory that was made is there, and all others still are. A failure leaves the disk as it
    was. -/
theorem leads_makeDirectory (base : Location) (p : Path) (d : Disk) :
    Leads (makeDirectory base p) d
      (fun _ d' => d.Keeps d' ∧ d'.isDirectory base p = true ∧ p.Clean)
      fun e d' => d' = d ∧ Refusal p e := by
  unfold makeDirectory
  refine leads_located (fun e he => ⟨rfl, he⟩) fun l hclean hlocate => ?_
  cases hfound : d.find? l with
  | some e => exact leads_throw ⟨rfl, .refused _ _⟩
  | none =>
    have hne : d.find? l ≠ some .directory := by simp [hfound]
    have hkeeps := Disk.keeps_put hne .directory
    have hput : (d.put l .directory).find? l = some .directory :=
      Disk.find?_put_self (Disk.ne_nil_of_find? hne) .directory
    apply (leads_permit l p d).bind
    rintro _ _ rfl
    exact ⟨hkeeps, Disk.isDirectory_iff.mpr ⟨hclean, l, hkeeps.locate hlocate, hput⟩, hclean⟩

/-! ### Directories that stay -/

/-- More directories may be missing of a path than can be made at once. -/
def TooDeep (d : Disk) (p : Path) (e : SystemFault) : Prop :=
  e = .tooDeep ∧ ∃ most ∈ d.limits.climbing, most < p.parts.length

theorem TooDeep.of_keeps {d₀ : Disk} (hd : d₀.Keeps d) {e : SystemFault} (h : TooDeep d p e) :
    TooDeep d₀ p e := by
  obtain ⟨he, most, hmost, hdeep⟩ := h
  exact ⟨he, most, hd.limits ▸ hmost, hdeep⟩

section keeps
variable {d₀ : Disk}

/-- A directory that cannot be made may be there already. -/
theorem leads_ensureDirectory (hd : d₀.Keeps d) (base : Location) (p : Path) :
    Leads (ensureDirectory base p) d (fun _ d' => d₀.Keeps d' ∧ d'.isDirectory base p = true)
      fun e d' => d₀.Keeps d' ∧ Refusal p e := by
  unfold ensureDirectory
  refine ((leads_makeDirectory base p d).mono (fun _ d' h => ⟨hd.trans h.1, h.2.1⟩)
    fun _ _ h => h).tryCatch fun fault d' h => ?_
  obtain ⟨rfl, hfault⟩ := h
  split
  case h_2 =>
    show Leads (if (!d'.isDirectory base p) = true then throw _ else pure ()) d' _ _
    cases hthere : d'.isDirectory base p with
    | true => exact ⟨hd, hthere⟩
    | false => exact ⟨hd, hfault⟩
  all_goals exact leads_throw ⟨hd, hfault⟩

/-- A directory is made with some of those above it, or there are more of them. -/
theorem leads_ensureDirectoriesFrom (hd : d₀.Keeps d) (base : Location) (p : Path) (more : Bool)
    (parents : Nat) :
    Leads (ensureDirectoriesFrom base p more parents) d
      (fun _ d' => d₀.Keeps d' ∧ d'.isDirectory base p = true)
      fun e d' => d₀.Keeps d' ∧ (Refusal p e ∨ e = .tooDeep ∧ more = true) := by
  induction parents generalizing p d with
  | zero =>
    unfold ensureDirectoriesFrom
    refine (leads_ensureDirectory hd base p).tryCatch fun fault d' h => ?_
    split
    · exact leads_throw ⟨h.1, .inr ⟨rfl, rfl⟩⟩
    · exact leads_throw ⟨h.1, .inl h.2⟩
  | succ parents ih =>
    have hhere : ∀ d', d₀.Keeps d' → Leads (ensureDirectory base p) d'
        (fun _ d'' => d₀.Keeps d'' ∧ d''.isDirectory base p = true)
        fun e d'' => d₀.Keeps d'' ∧ (Refusal p e ∨ e = .tooDeep ∧ more = true) :=
      fun d' hd' => (leads_ensureDirectory hd' base p).mono (fun _ _ h => h)
        fun _ _ h => ⟨h.1, .inl h.2⟩
    unfold ensureDirectoriesFrom
    refine (leads_ensureDirectory hd base p).tryCatch fun fault d' h => ?_
    split
    · refine ((ih h.1 p.parent).mono (fun _ _ h' => h') fun e d'' h' => ?_).bind
        fun _ d'' h' => hhere d'' h'.1
      exact ⟨h'.1, h'.2.imp_left fun hrefusal => hrefusal.mono fun hclean => hclean.parent⟩
    · exact leads_throw ⟨h.1, .inl h.2⟩

theorem leads_ensureDirectories (hd : d₀.Keeps d) (base : Location) (p : Path) :
    Leads (ensureDirectories base p) d (fun _ d' => d₀.Keeps d' ∧ d'.isDirectory base p = true)
      fun e d' => d₀.Keeps d' ∧ (Refusal p e ∨ TooDeep d p e) := by
  unfold ensureDirectories
  apply leads_get.bind
  rintro d₁ d₂ ⟨rfl, rfl⟩
  refine (leads_ensureDirectoriesFrom hd base p _ _).mono (fun _ _ h => h) fun e d' h => ?_
  refine ⟨h.1, h.2.imp_right ?_⟩
  rintro ⟨rfl, hmore⟩
  cases hmost : d.limits.climbing with
  | none => simp [hmost] at hmore
  | some most => exact ⟨rfl, most, hmost, by simpa [hmost] using hmore⟩

end keeps

/-! ### Writing -/

/-- Nothing was changed but the file or the pipe at a location. -/
structure ChangedAt (d : Disk) (l : Location) (d' : Disk) : Prop where
  elsewhere : ∀ l', l' ≠ l → d'.find? l' = d.find? l'
  noDirectory : d.find? l ≠ some .directory
  limits : d'.limits = d.limits

theorem ChangedAt.keeps {d' : Disk} (h : ChangedAt d l d') : d.Keeps d' where
  directories l' hl' := by
    have hne : l' ≠ l := by
      rintro rfl
      exact h.noDirectory hl'
    rw [h.elsewhere l' hne, hl']
  limits := h.limits

theorem ChangedAt.trans {d' d'' : Disk} (h : ChangedAt d l d') (h' : ChangedAt d' l d'') :
    ChangedAt d l d'' where
  elsewhere l' hl' := (h'.elsewhere l' hl').trans (h.elsewhere l' hl')
  noDirectory := h.noDirectory
  limits := h'.limits.trans h.limits

theorem changedAt_refl (h : d.find? l ≠ some .directory) : ChangedAt d l d := ⟨fun _ _ => rfl, h, rfl⟩

theorem changedAt_put (h : d.find? l ≠ some .directory) (e : Entry) : ChangedAt d l (d.put l e) :=
  ⟨fun _ hne => Disk.find?_put_of_ne hne e, h, rfl⟩

/-- What was written at a location: a file holds it now, in place of another one or of nothing; or it
    went into a pipe, which is still there. -/
inductive Wrote (d : Disk) (l : Location) (octets : List UInt8) (d' : Disk) : Prop where
  /-- A file holds it. -/
  | file (hbefore : d.find? l = none ∨ ∃ content, d.find? l = some (.file content))
      (hafter : d'.find? l = some (.file (.plain octets)))
  /-- It went into a pipe. -/
  | pipe {number : Nat} (hbefore : d.find? l = some (.pipe number))
      (hafter : d'.find? l = some (.pipe number))

/-- What keeps octets from being taken in: the system takes no more, or they are none. -/
inductive Stuck (d : Disk) (octets : List UInt8) : SystemFault → Prop where
  /-- The system takes no more. -/
  | broken (reason : Reason) : Stuck d octets (.broken reason)
  /-- The text cannot be put in octets. -/
  | notEncoded {words : String} {tree : Tree} {l : Location} {taken : Nat}
      (hfilling : d.limits.filling tree l octets = some ⟨taken, .notEncoded words⟩) :
      Stuck d octets (.notEncoded words)

theorem Stuck.of_keeps {d₀ : Disk} (hd : d₀.Keeps d) {octets : List UInt8} {e : SystemFault}
    (h : Stuck d octets e) : Stuck d₀ octets e := by
  cases h with
  | broken reason => exact .broken reason
  | notEncoded hfilling => exact .notEncoded (hd.limits ▸ hfilling)

/-- A file that is opened for writing is empty, whatever it was before. -/
theorem leads_openForWriting (base : Location) (p : Path) (d : Disk) :
    Leads (openForWriting base p) d
      (fun l d' => p.Clean ∧ d.locate base p = .ok l ∧ ChangedAt d l d' ∧ Wrote d l [] d')
      fun e d' => d' = d ∧ Refusal p e := by
  unfold openForWriting
  refine leads_located (fun e he => ⟨rfl, he⟩) fun l hclean hlocate => ?_
  have hpermit := leads_permit l p d
  split
  case h_1 => exact leads_throw ⟨rfl, .refused _ _⟩
  case h_2 number hpipe =>
    apply hpermit.bind
    rintro _ _ rfl
    exact leads_pure ⟨hclean, hlocate, changedAt_refl (by simp [hpipe]), .pipe hpipe hpipe⟩
  case h_3 hdirectory hpipe =>
    apply hpermit.bind
    rintro _ _ rfl
    refine ⟨hclean, hlocate, changedAt_put hdirectory _, .file ?_ ?_⟩
    · cases hfound : d.find? l with
      | none => exact .inl rfl
      | some e =>
        cases e with
        | directory => exact absurd hfound hdirectory
        | file content => exact .inr ⟨content, rfl⟩
        | pipe number => exact absurd hfound (hpipe number)
    · exact Disk.find?_put_self (Disk.ne_nil_of_find? hdirectory) _

/-- What is open takes in octets, or a beginning of them. -/
theorem leads_fill {octets before : List UInt8} {d₀ : Disk} (hopen : Wrote d₀ l before d) :
    Leads (fill l octets) d
      (fun _ d' => ChangedAt d l d' ∧ Wrote d₀ l (before ++ octets) d')
      fun e d' => ∃ taken, taken <+: octets ∧ ChangedAt d l d' ∧ Wrote d₀ l (before ++ taken) d'
        ∧ Stuck d octets e := by
  have hpart : ∀ n, octets.take n <+: octets := fun n => List.take_prefix n octets
  unfold fill
  apply leads_get.bind
  rintro d₁ d₂ ⟨rfl, rfl⟩
  extract_lets overflow taken finish
  -- what was taken in is all, unless something keeps the rest from it
  have hfinish : ∀ d', ChangedAt d l d' → Wrote d₀ l (before ++ taken) d' →
      Leads (finish ()) d' (fun _ d'' => ChangedAt d l d'' ∧ Wrote d₀ l (before ++ octets) d'')
        fun e d'' => ∃ taken, taken <+: octets ∧ ChangedAt d l d''
          ∧ Wrote d₀ l (before ++ taken) d'' ∧ Stuck d octets e := by
    intro d' hchanged hwrote
    cases hoverflow : overflow with
    | none =>
      have htaken : taken = octets := by simp [taken, hoverflow]
      have hfinish : finish () = pure () := by simp only [finish, hoverflow]
      rw [hfinish]
      exact leads_pure ⟨hchanged, htaken ▸ hwrote⟩
    | some o =>
      have htaken : taken = octets.take o.taken := by simp [taken, hoverflow]
      have hfinish : finish () = throw o.trouble.fault := by simp only [finish, hoverflow]
      rw [hfinish]
      refine leads_throw ⟨taken, htaken ▸ hpart _, hchanged, hwrote, ?_⟩
      cases htrouble : o.trouble with
      | refused reason => exact .broken reason
      | notEncoded words =>
        have hfilling : d.limits.filling d.entries l octets = some ⟨o.taken, .notEncoded words⟩ := by
          rw [← htrouble]
          exact hoverflow
        exact .notEncoded hfilling
  cases hopen with
  | file hbefore hafter =>
    rw [hafter]
    have hdirectory : d.find? l ≠ some .directory := by simp [hafter]
    apply hfinish
    · exact changedAt_put hdirectory _
    · exact .file hbefore (Disk.find?_put_self (Disk.ne_nil_of_find? hdirectory) _)
  | @pipe number hbefore hafter =>
    rw [hafter]
    apply hfinish
    · exact ⟨fun _ _ => rfl, by simp [hafter], rfl⟩
    · exact .pipe hbefore hafter

/-- A file that was written holds what was written. If the writing fails, then it was not opened, and
    nothing was changed; or it holds a beginning. -/
theorem leads_writeFile (base : Location) (p : Path) (octets : List UInt8) (d : Disk) :
    Leads (writeFile base p octets) d
      (fun _ d' => p.Clean ∧ ∃ l, d.locate base p = .ok l ∧ ChangedAt d l d' ∧ Wrote d l octets d')
      fun e d' => (d' = d ∧ Refusal p e) ∨ p.Clean ∧ Stuck d octets e ∧ ∃ l taken,
        d.locate base p = .ok l ∧ taken <+: octets ∧ ChangedAt d l d' ∧ Wrote d l taken d' := by
  unfold writeFile
  refine ((leads_openForWriting base p d).mono (fun _ _ h => h) fun _ _ h => .inl h).bind
    fun l d₁ h => ?_
  obtain ⟨hclean, hlocate, hchanged, hwrote⟩ := h
  refine (leads_fill hwrote).mono (fun _ d' h => ?_) fun e d' h => .inr ?_
  · exact ⟨hclean, l, hlocate, hchanged.trans h.1, h.2⟩
  · obtain ⟨taken, htaken, hchanged', hwrote', hstuck⟩ := h
    exact ⟨hclean, hstuck.of_keeps hchanged.keeps, l, taken, hlocate, htaken,
      hchanged.trans hchanged', hwrote'⟩

/-- However the writing of a file ends, directories are still directories. -/
theorem leads_writeFile_keeps (base : Location) (p : Path) (octets : List UInt8) (d : Disk) :
    Leads (writeFile base p octets) d (fun _ d' => d.Keeps d') fun _ d' => d.Keeps d' := by
  apply (leads_writeFile base p octets d).mono
  · intro _ d' h
    obtain ⟨-, l, -, hchanged, -⟩ := h
    exact hchanged.keeps
  · intro e d' h
    obtain ⟨rfl, -⟩ | ⟨-, -, l, taken, -, -, hchanged, -⟩ := h
    · exact .refl _
    · exact hchanged.keeps

/-- A file that is opened at its end is still there, or is there now. -/
theorem leads_openForAdding (base : Location) (p : Path) (d : Disk) :
    Leads (openForAdding base p) d
      (fun l d' => d.locate base p = .ok l ∧ ChangedAt d l d' ∧ d'.find? l ≠ some .directory)
      fun _ d' => d' = d := by
  unfold openForAdding
  refine leads_located (fun _ _ => rfl) fun l _ hlocate => ?_
  have hpermit : Leads (permit l p) d (fun _ d' => d = d') fun _ d' => d' = d :=
    (leads_permit l p d).mono (fun _ _ h => h) fun _ _ h => h.1
  split
  case h_1 => exact leads_throw rfl
  case h_2 e hother hfound =>
    have hdirectory : d.find? l ≠ some .directory := by
      rw [hfound]
      exact fun h => hother (Option.some.inj h)
    apply hpermit.bind
    rintro _ _ rfl
    exact leads_pure ⟨hlocate, changedAt_refl hdirectory, hdirectory⟩
  case h_3 hmissing =>
    have hdirectory : d.find? l ≠ some .directory := by simp [hmissing]
    apply hpermit.bind
    rintro _ _ rfl
    refine ⟨hlocate, changedAt_put hdirectory _, ?_⟩
    change (d.put l _).find? l ≠ _
    rw [Disk.find?_put_self (Disk.ne_nil_of_find? hdirectory)]
    simp

/-- What is filled is changed at its place, whatever is open there. -/
theorem changedAt_fill (octets : List UInt8) (hdirectory : d.find? l ≠ some .directory) :
    Leads (fill l octets) d (fun _ d' => ChangedAt d l d') fun _ d' => ChangedAt d l d' := by
  cases hfound : d.find? l with
  | none =>
    unfold fill
    apply leads_get.bind
    rintro d₁ d₂ ⟨rfl, rfl⟩
    rw [hfound]
    exact changedAt_refl hdirectory
  | some e =>
    cases e with
    | directory => exact absurd hfound hdirectory
    | file content =>
      have hopen : Wrote d l content.octets d := .file (.inr ⟨content, hfound⟩) hfound
      exact (leads_fill hopen).mono (fun _ _ h => h.1) fun _ _ ⟨_, _, h, _⟩ => h
    | pipe number =>
      have hopen : Wrote d l [] d := .pipe hfound hfound
      exact (leads_fill hopen).mono (fun _ _ h => h.1) fun _ _ ⟨_, _, h, _⟩ => h

/-- What is added at the end of a file changes nothing else. -/
theorem leads_appendFile (base : Location) (p : Path) (octets : List UInt8) (d : Disk) :
    Leads (appendFile base p octets) d
      (fun _ d' => d' = d ∨ ∃ l, d.locate base p = .ok l ∧ ChangedAt d l d')
      fun _ d' => d' = d ∨ ∃ l, d.locate base p = .ok l ∧ ChangedAt d l d' := by
  unfold appendFile
  apply ((leads_openForAdding base p d).mono (fun _ _ h => h) fun _ _ h => .inl h).bind
  intro l d₁ h
  obtain ⟨hlocate, hchanged, hdirectory⟩ := h
  apply (changedAt_fill octets hdirectory).mono
  · exact fun _ _ h => .inr ⟨l, hlocate, hchanged.trans h⟩
  · exact fun _ _ h => .inr ⟨l, hlocate, hchanged.trans h⟩

theorem leads_appendFile_keeps (base : Location) (p : Path) (octets : List UInt8) (d : Disk) :
    Leads (appendFile base p octets) d (fun _ d' => d.Keeps d') fun _ d' => d.Keeps d' := by
  have hkeeps : ∀ d', (d' = d ∨ ∃ l, d.locate base p = .ok l ∧ ChangedAt d l d') →
      d.Keeps d' := by
    intro d' h
    obtain rfl | ⟨l, -, hchanged⟩ := h
    · exact .refl _
    · exact hchanged.keeps
  exact (leads_appendFile base p octets d).mono (fun _ d' => hkeeps d') fun _ d' => hkeeps d'

/-! ### What is there, and what is missing -/

/-- Nothing is made where there is something. -/
theorem makeDirectory_of_found {e : Entry} (hclean : p.Clean) (hlocate : d.locate base p = .ok l)
    (hfound : d.find? l = some e) :
    makeDirectory base p d = .error (.refused .alreadyThere p.toString) d := by
  unfold makeDirectory
  refine (bind_of_ok (locate_of_located hclean hlocate)).trans ((bind_of_ok rfl).trans ?_)
  rw [hfound]
  rfl

/-- A directory that is there is left as it is. -/
theorem ensureDirectory_of_isDirectory (h : d.isDirectory base p = true) :
    ensureDirectory base p d = .ok () d := by
  obtain ⟨hclean, l, hlocate, hfound⟩ := Disk.isDirectory_iff.mp h
  unfold ensureDirectory
  refine (tryCatch_of_error (makeDirectory_of_found hclean hlocate hfound)).trans
    ((bind_of_ok rfl).trans ?_)
  rw [if_neg (by simp [h])]
  rfl

theorem ensureDirectories_of_isDirectory (h : d.isDirectory base p = true) :
    ensureDirectories base p d = .ok () d := by
  have hfrom : ∀ more parents, ensureDirectoriesFrom base p more parents d = .ok () d := by
    intro more parents
    cases parents with
    | zero => exact tryCatch_of_ok (ensureDirectory_of_isDirectory h)
    | succ parents => exact tryCatch_of_ok (ensureDirectory_of_isDirectory h)
  unfold ensureDirectories
  exact (bind_of_ok rfl).trans (hfrom _ _)

/-- Anything else in its place keeps a directory from being made. -/
theorem ensureDirectories_of_blocked {e : Entry} (hclean : p.Clean)
    (hlocate : d.locate base p = .ok l) (hfound : d.find? l = some e) (he : e ≠ .directory) :
    ensureDirectories base p d = .error (.refused .alreadyThere p.toString) d := by
  have hnone : d.isDirectory base p = false := by
    refine Bool.eq_false_iff.mpr fun hthere => he ?_
    obtain ⟨-, l', hlocate', hdirectory⟩ := Disk.isDirectory_iff.mp hthere
    rw [hlocate, Except.ok.injEq] at hlocate'
    rw [← hlocate', hfound] at hdirectory
    exact Option.some.inj hdirectory
  have honce : ensureDirectory base p d = .error (.refused .alreadyThere p.toString) d := by
    unfold ensureDirectory
    refine (tryCatch_of_error (makeDirectory_of_found hclean hlocate hfound)).trans
      ((bind_of_ok rfl).trans ?_)
    rw [if_pos (by simp [hnone])]
    rfl
  have hfrom : ∀ more parents, ensureDirectoriesFrom base p more parents d
      = .error (.refused .alreadyThere p.toString) d := by
    intro more parents
    cases parents with
    | zero =>
      refine (tryCatch_of_error honce).trans ?_
      cases more with
      | true => rfl
      | false => rfl
    | succ parents => exact tryCatch_of_error honce
  unfold ensureDirectories
  exact (bind_of_ok rfl).trans (hfrom _ _)

theorem permit_of_free (hopening : d.limits.opening d.entries l = none) (p : Path) :
    permit l p d = .ok () d := by
  unfold permit
  refine (bind_of_ok rfl).trans ?_
  rw [hopening]
  rfl

/-- What is missing is put where its path leads, if nothing keeps it from that. -/
theorem makeDirectory_of_missing (hclean : p.Clean) (hlocate : d.locate base p = .ok l)
    (hmissing : d.find? l = none) (hopening : d.limits.opening d.entries l = none) :
    makeDirectory base p d = .ok () (d.put l .directory) := by
  unfold makeDirectory
  refine (bind_of_ok (locate_of_located hclean hlocate)).trans ((bind_of_ok rfl).trans ?_)
  rw [hmissing]
  exact bind_of_ok (permit_of_free hopening p)

section writing
variable (hclean : p.Clean) (hlocate : d.locate base p = .ok l)
  (hfree : d.find? l = none ∨ ∃ content, d.find? l = some (.file content))
  (hopening : d.limits.opening d.entries l = none) {octets : List UInt8}

include hclean hlocate hfree hopening in
theorem openForWriting_of_free :
    openForWriting base p d = .ok l (d.put l (.file (.plain []))) := by
  have hpermit := permit_of_free hopening p
  unfold openForWriting
  refine (bind_of_ok (locate_of_located hclean hlocate)).trans ((bind_of_ok rfl).trans ?_)
  obtain hmissing | ⟨content, hfound⟩ := hfree
  · rw [hmissing]
    exact (bind_of_ok hpermit).trans rfl
  · rw [hfound]
    exact (bind_of_ok hpermit).trans rfl

include hclean hlocate hfree hopening in
/-- A file takes in what is written to it, or as much of that as the system takes. -/
theorem writeFile_of_free {overflow : Option Overflow}
    (hfilling : ∀ tree, d.limits.filling tree l octets = overflow) :
    ∃ d', ChangedAt d l d'
      ∧ d'.find? l
        = some (.file (.plain (overflow.elim octets fun o => octets.take o.taken)))
      ∧ writeFile base p octets d
        = overflow.elim (.ok () d') fun o => .error o.trouble.fault d' := by
  have hdirectory : d.find? l ≠ some .directory := by
    obtain hmissing | ⟨content, hfound⟩ := hfree
    · simp [hmissing]
    · simp [hfound]
  have hl : l ≠ [] := Disk.ne_nil_of_find? hdirectory
  let opened := d.put l (.file (.plain []))
  have hopened : opened.find? l = some (.file (.plain [])) := Disk.find?_put_self hl _
  let taken := overflow.elim octets fun o => octets.take o.taken
  have hfilled : opened.find? l ≠ some .directory := by simp [hopened]
  refine ⟨opened.put l (.file (.plain taken)), ?_, Disk.find?_put_self hl _, ?_⟩
  · exact (changedAt_put hdirectory _).trans (changedAt_put hfilled _)
  · have hfree' : opened.limits.filling opened.entries l octets = overflow := hfilling _
    unfold writeFile
    refine (bind_of_ok (openForWriting_of_free hclean hlocate hfree hopening)).trans ?_
    unfold fill
    refine (bind_of_ok rfl).trans ?_
    rw [hopened, hfree']
    cases overflow with
    | none => rfl
    | some o => rfl

end writing

end OnDisk

end CallExcerpt
