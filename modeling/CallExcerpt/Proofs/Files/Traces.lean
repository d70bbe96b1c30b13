import CallExcerpt.Proofs.Files.Disk
import CallExcerpt.Proofs.Table
import CallExcerpt.World

/-! # What is left on a disk

    A journal tells which files were written, in order, and what they were left
    with: a write that breaks off leaves a beginning. A disk is told by it, but
    for what lies apart, if each location is as the last write that led there has
    left it, or as it was, or is a directory that had to be made.

    * `Path.location`: where a path leads, by its names alone.
    * `Write`, `Write.lastAt`: the entries of a journal, and the last one at a
      location.
    * `Disk.Change`, `Disk.Told`: what became of a location, and of a disk.
    * `leads_makeDirectory_told`, `leads_ensureDirectories_told`,
      `leads_writeFile_told`, `leads_appendFile_told`: what the operations add to a
      journal, whether they succeed or not.
    * `find?_removeTree`: what is left when a directory is removed.
-/

namespace CallExcerpt

open Success (Leads leads_throw leads_get)

/-! ## Where a path leads -/

/-- The location that the names of a path lead to from a working directory, whatever is there. -/
def Path.location (base : Location) (p : Path) : Location :=
  match p.anchor with
  | .relative => World.collapse base p.parts
  | _ => World.collapse [] p.parts

/-- A path leads through a location: its names up to some point lead there. -/
def Path.Passes (base : Location) (p : Path) (l : Location) : Prop :=
  ∃ k, ({ p with parts := p.parts.take k } : Path).location base = l

theorem Path.passes_location (base : Location) (p : Path) : p.Passes base (p.location base) := by
  refine ⟨p.parts.length, ?_⟩
  rw [List.take_length]

theorem Path.Passes.of_parent {base : Location} {p : Path} {l : Location}
    (h : p.parent.Passes base l) : p.Passes base l := by
  obtain ⟨k, hk⟩ := h
  refine ⟨min k (p.parts.length - 1), ?_⟩
  rw [← hk, ← List.take_take, ← List.dropLast_eq_take]
  rfl

namespace World

/-- Names without double dots lead down. -/
theorem collapse_of_no_dots {l : Location} {names : List String} (h : ".." ∉ names) :
    collapse l names = l ++ names := by
  induction names generalizing l with
  | nil => simp [collapse]
  | cons name names ih =>
    obtain ⟨hname, hrest⟩ : ".." ≠ name ∧ ".." ∉ names := by simpa using h
    rw [collapse, if_neg (Ne.symm hname), ih hrest, List.append_assoc]
    rfl

theorem location_pathOf {l : Location} (h : ".." ∉ l) (base : Location) :
    (pathOf l).location base = l := by
  show collapse [] l = l
  rw [collapse_of_no_dots h, List.nil_append]

end World

namespace Disk

variable {d : Disk} {base l : Location}

theorem location_of_follow {names : List String} {l' : Location} (h : d.follow l names = .ok l') :
    World.collapse l names = l' := by
  induction names generalizing l with
  | nil =>
    cases h
    rfl
  | cons name names ih =>
    rw [Disk.follow] at h
    split at h
    · cases h
    · rw [World.collapse]
      split at h
      case h_1 => cases h
      case h_2 =>
        split at h
        case isTrue hup => rw [if_pos hup, ih h]
        case isFalse hdown =>
          rw [if_neg hdown]
          split at h
          · cases h
          · exact ih h
    · cases h

/-- Whether a path leads anywhere depends on the disk, but not where it leads. -/
theorem location_of_locate {p : Path} (h : d.locate base p = .ok l) : p.location base = l := by
  obtain ⟨anchor, parts⟩ := p
  unfold Disk.locate at h
  split at h
  · cases h
  · cases anchor with
    | relative => exact location_of_follow h
    | root => exact location_of_follow h
    | doubleRoot => exact location_of_follow h

end Disk

/-! ## Journals -/

/-- A file that was written, with what it was left with. -/
inductive Write where
  /-- A text of the program. -/
  | text (path : Path) (octets : List UInt8)
  /-- A drawing of the layout engine. -/
  | drawing (path : Path) (octets : List UInt8)

namespace Write

/-- The path to which it was written. -/
def path : Write → Path
  | .text p _ | .drawing p _ => p

/-- What was written. -/
def octets : Write → List UInt8
  | .text _ octets | .drawing _ octets => octets

/-- The write that left something else. -/
def leaving : Write → List UInt8 → Write
  | .text p _, octets => .text p octets
  | .drawing p _, octets => .drawing p octets

@[simp]
theorem path_leaving (w : Write) (octets : List UInt8) : (w.leaving octets).path = w.path := by
  cases w <;> rfl

@[simp]
theorem octets_leaving (w : Write) (octets : List UInt8) : (w.leaving octets).octets = octets := by
  cases w <;> rfl

/-- A text with its path. -/
def text? : Write → Option (Path × List UInt8)
  | .text p octets => some (p, octets)
  | .drawing _ _ => none

/-- What the last write that led to a location wrote there. -/
def lastAt (base l : Location) (journal : List Write) : Option (List UInt8) :=
  journal.reverse.findSome? fun w => if w.path.location base = l then some w.octets else none

variable {base l : Location}

theorem lastAt_append (journal later : List Write) :
    lastAt base l (journal ++ later) = (lastAt base l later).or (lastAt base l journal) := by
  simp [lastAt, List.findSome?_append]

theorem lastAt_singleton (w : Write) :
    lastAt base l [w] = if w.path.location base = l then some w.octets else none := by
  unfold lastAt
  rw [List.reverse_singleton, List.findSome?_singleton]

/-- Where no drawing led, the texts tell alone. -/
theorem lastAt_of_undrawn {journal : List Write}
    (h : ∀ p octets, .drawing p octets ∈ journal → p.location base ≠ l) :
    lastAt base l journal
      = lastAt base l ((journal.filterMap text?).map fun t => .text t.1 t.2) := by
  induction journal with
  | nil => rfl
  | cons w journal ih =>
    have hrest := ih fun p octets hp => h p octets (List.mem_cons_of_mem _ hp)
    cases w with
    | text p t =>
      show lastAt base l ([.text p t] ++ journal)
        = lastAt base l ([.text p t] ++ (journal.filterMap text?).map fun t => .text t.1 t.2)
      rw [lastAt_append, lastAt_append, hrest]
    | drawing p octets =>
      have hnone : lastAt base l [.drawing p octets] = none := by
        rw [lastAt_singleton]
        exact if_neg (h p octets (List.mem_cons_self ..))
      show lastAt base l ([.drawing p octets] ++ journal) = _
      rw [lastAt_append, hnone, Option.or_none, hrest]
      rfl

end Write

/-! ## Disks that are told by a journal -/

namespace Disk

/-- What became of an entry, given what the last write there wrote, if one led there. -/
inductive Change (needed : Prop) (before after : Option Entry) : Option (List UInt8) → Prop where
  /-- It is as it was. -/
  | same (h : after = before) : Change needed before after none
  /-- A directory that was needed was missing. -/
  | made (hneeded : needed) (hbefore : before = none) (hafter : after = some .directory) :
      Change needed before after none
  /-- A file was written, in place of another one or of nothing. -/
  | written {octets} (hbefore : before = none ∨ ∃ content, before = some (.file content))
      (hafter : after = some (.file (.plain octets))) : Change needed before after (some octets)
  /-- There was a pipe, and it is still there. -/
  | queued {octets number} (hbefore : before = some (.pipe number)) (hafter : after = before) :
      Change needed before after (some octets)

section change
variable {needed : Prop} {before between after : Option Entry} {x y : Option (List UInt8)}

theorem Change.mono (h : Change needed before after x) {needed' : Prop}
    (hneeded : needed → needed') : Change needed' before after x := by
  cases h with
  | same h => exact .same h
  | made hn hbefore hafter => exact .made (hneeded hn) hbefore hafter
  | written hbefore hafter => exact .written hbefore hafter
  | queued hbefore hafter => exact .queued hbefore hafter

/-- What was done later tells, and what was done before if nothing was done later. -/
theorem Change.trans (h : Change needed before between x) (h' : Change needed between after y) :
    Change needed before after (y.or x) := by
  cases h with
  | same hsame =>
    rw [Option.or_none]
    exact hsame ▸ h'
  | made hneeded hbefore hbetween =>
    subst hbetween
    -- a directory stays
    cases h' with
    | same hsame => exact .made hneeded hbefore hsame
    | made _ hnone => cases hnone
    | written hfile => simp at hfile
    | queued hpipe => cases hpipe
  | written hbefore hbetween =>
    subst hbetween
    cases h' with
    | same hsame => exact .written hbefore hsame
    | made _ hnone => cases hnone
    | written _ hafter => exact .written hbefore hafter
    | queued hpipe => cases hpipe
  | queued hbefore hbetween =>
    subst hbefore hbetween
    cases h' with
    | same hsame => exact .queued rfl hsame
    | made _ hnone => cases hnone
    | written hfile => simp at hfile
    | queued _ hsame => exact .queued rfl hsame

end change

/-- But for what lies apart, a disk is told by a journal: which files were written there, and in
    which order. Of the directories, those that were needed may be new. -/
def Told (base : Location) (apart needed : Location → Prop) (journal : List Write)
    (d d' : Disk) : Prop :=
  ∀ l, ¬ apart l → Change (needed l) (d.find? l) (d'.find? l) (Write.lastAt base l journal)

section told
variable {base : Location} {apart needed : Location → Prop} {journal : List Write}
  {d d' d'' : Disk}

theorem Told.refl (d : Disk) : Told base apart needed [] d d := fun _ _ => .same rfl

theorem Told.append (h : Told base apart needed journal d d') {later : List Write}
    (h' : Told base apart needed later d' d'') :
    Told base apart needed (journal ++ later) d d'' := by
  intro l hl
  rw [Write.lastAt_append]
  exact (h l hl).trans (h' l hl)

/-- Nothing is added to a journal by what is done apart. -/
theorem Told.aside (h : Told base apart needed journal d d')
    (hsame : ∀ l, ¬ apart l → d''.find? l = d'.find? l) : Told base apart needed journal d d'' := by
  intro l hl
  rw [hsame l hl]
  exact h l hl

theorem Told.put_aside (h : Told base apart needed journal d d') {l : Location} (hl : apart l)
    (e : Entry) : Told base apart needed journal d (d'.put l e) := by
  apply h.aside
  intro l' hl'
  apply find?_put_of_ne
  rintro rfl
  exact hl' hl

theorem Told.mono (h : Told base apart needed journal d d') {needed' : Location → Prop}
    (hneeded : ∀ l, needed l → needed' l) : Told base apart needed' journal d d' :=
  fun l hl => (h l hl).mono (hneeded l)

/-- A directory that was needed is made. -/
theorem Told.directory (h : Told base apart needed journal d d') {l : Location}
    (hneeded : ¬ apart l → needed l) (hmissing : d'.find? l = none) :
    Told base apart needed journal d (d'.put l .directory) := by
  have hl : l ≠ [] := by
    refine ne_nil_of_find? (d := d') ?_
    simp [hmissing]
  have hstep : Told base apart needed [] d' (d'.put l .directory) := by
    intro l' hl'
    by_cases hhere : l' = l
    · subst hhere
      exact .made (hneeded hl') hmissing (find?_put_self hl _)
    · exact .same (find?_put_of_ne hhere _)
  simpa using h.append hstep

/-- A file is written, or something goes into a pipe. -/
theorem Told.wrote (h : Told base apart needed journal d d') (w : Write)
    (hchanged : OnDisk.ChangedAt d' (w.path.location base) d'')
    (hwrote : OnDisk.Wrote d' (w.path.location base) w.octets d'') :
    Told base apart needed (journal ++ [w]) d d'' := by
  refine h.append fun l _ => ?_
  rw [Write.lastAt_singleton]
  by_cases hhere : w.path.location base = l
  · rw [if_pos hhere, ← hhere]
    cases hwrote with
    | file hbefore hafter => exact .written hbefore hafter
    | pipe hbefore hafter => exact .queued hbefore (hafter.trans hbefore.symm)
  · rw [if_neg hhere]
    exact .same (hchanged.elsewhere l (Ne.symm hhere))

/-- What is changed apart is not told of. -/
theorem Told.changed_aside (h : Told base apart needed journal d d') {l : Location} (hl : apart l)
    (hchanged : OnDisk.ChangedAt d' l d'') : Told base apart needed journal d d'' := by
  apply h.aside
  intro l' hl'
  apply hchanged.elsewhere
  rintro rfl
  exact hl' hl

end told

/-! ### A directory that is removed -/

theorem find?_removeTree (d : Disk) {place : Location} (hplace : place ≠ [])
    (kept : Location → Bool) (l : Location) :
    (d.removeTree place kept).find? l
      = if place <+: l ∧ kept l = false then none else d.find? l := by
  have hentries : (d.removeTree place kept).entries.lookup l
      = if place <+: l ∧ kept l = false then none else d.entries.lookup l := by
    show (d.entries.filter fun e => !place.isPrefixOf e.1 || kept e.1).lookup l = _
    rw [Table.lookup_filter fun k => !place.isPrefixOf k || kept k]
    by_cases hgone : place <+: l ∧ kept l = false
    · rw [if_pos hgone, List.isPrefixOf_iff_prefix.mpr hgone.1, hgone.2]
      rfl
    · have hstays : (!place.isPrefixOf l || kept l) = true := by
        rw [← List.isPrefixOf_iff_prefix] at hgone
        cases hbelow : place.isPrefixOf l with
        | true => simpa [hbelow] using hgone
        | false => rfl
      rw [if_neg hgone, hstays]
      rfl
  rw [find?, find?, hentries]
  cases l with
  | nil => simp [hplace]
  | cons name rest => rfl

end Disk

/-! ## What the operations add -/

namespace OnDisk

variable {base : Location} {apart needed : Location → Prop} {journal : List Write} {d₀ d : Disk}
  {p : Path}

/-- A directory is put where its path leads, if nothing is there. -/
theorem leads_makeDirectory_put (base : Location) (p : Path) (d : Disk) :
    Leads (makeDirectory base p) d
      (fun _ d' => d.find? (p.location base) = none ∧ d' = d.put (p.location base) .directory)
      fun _ d' => d' = d := by
  unfold makeDirectory
  refine leads_located (fun _ _ => rfl) fun l _ hlocate => ?_
  obtain rfl := Disk.location_of_locate hlocate
  cases hfound : d.find? (p.location base) with
  | some e => exact leads_throw rfl
  | none =>
    refine ((leads_permit _ p d).mono (fun _ _ h => h) fun _ _ h => h.1).bind ?_
    rintro _ _ rfl
    exact ⟨rfl, rfl⟩

theorem leads_makeDirectory_told (hd : Disk.Told base apart needed journal d₀ d)
    (hneeded : ¬ apart (p.location base) → needed (p.location base)) :
    Leads (makeDirectory base p) d (fun _ d' => Disk.Told base apart needed journal d₀ d')
      fun _ d' => Disk.Told base apart needed journal d₀ d' := by
  refine (leads_makeDirectory_put base p d).mono (fun _ d' h => ?_) fun _ d' h => ?_
  · obtain ⟨hmissing, rfl⟩ := h
    exact hd.directory hneeded hmissing
  · rw [h]
    exact hd

theorem leads_ensureDirectory_told (hd : Disk.Told base apart needed journal d₀ d)
    (hneeded : ¬ apart (p.location base) → needed (p.location base)) :
    Leads (ensureDirectory base p) d (fun _ d' => Disk.Told base apart needed journal d₀ d')
      fun _ d' => Disk.Told base apart needed journal d₀ d' := by
  unfold ensureDirectory
  refine (leads_makeDirectory_told hd hneeded).tryCatch fun fault d' h => ?_
  split
  case h_2 =>
    show Leads (if (!d'.isDirectory base p) = true then throw _ else pure ()) d' _ _
    cases hthere : d'.isDirectory base p with
    | true => exact h
    | false => exact h
  all_goals exact leads_throw h

/-- All directories that are made for a path are ones that it leads through. -/
theorem leads_ensureDirectoriesFrom_told (hd : Disk.Told base apart needed journal d₀ d)
    (hneeded : ∀ l, p.Passes base l → ¬ apart l → needed l) (more : Bool) (parents : Nat) :
    Leads (ensureDirectoriesFrom base p more parents) d
      (fun _ d' => Disk.Told base apart needed journal d₀ d')
      fun _ d' => Disk.Told base apart needed journal d₀ d' := by
  induction parents generalizing p d with
  | zero =>
    unfold ensureDirectoriesFrom
    refine (leads_ensureDirectory_told hd (hneeded _ (p.passes_location base))).tryCatch
      fun fault d' h => ?_
    split
    · exact leads_throw h
    · exact leads_throw h
  | succ parents ih =>
    have hhere := hneeded _ (p.passes_location base)
    unfold ensureDirectoriesFrom
    refine (leads_ensureDirectory_told hd hhere).tryCatch fun fault d' h => ?_
    split
    · have hparent : ∀ l, p.parent.Passes base l → ¬ apart l → needed l :=
        fun l hl => hneeded l hl.of_parent
      exact (ih h hparent).bind fun _ d'' h' => leads_ensureDirectory_told h' hhere
    · exact leads_throw h

theorem leads_ensureDirectories_told (hd : Disk.Told base apart needed journal d₀ d)
    (hneeded : ∀ l, p.Passes base l → ¬ apart l → needed l) :
    Leads (ensureDirectories base p) d (fun _ d' => Disk.Told base apart needed journal d₀ d')
      fun _ d' => Disk.Told base apart needed journal d₀ d' := by
  unfold ensureDirectories
  apply leads_get.bind
  rintro d₁ d₂ ⟨rfl, rfl⟩
  exact leads_ensureDirectoriesFrom_told hd hneeded _ _

/-- What the writing of a file adds to a journal: what was written, or a beginning of it, unless the
    file lies apart. -/
structure Adds (base : Location) (apart needed : Location → Prop) (journal : List Write)
    (d₀ : Disk) (w : Write) (d : Disk) : Prop where
  told : Disk.Told base apart needed (journal ++ [w]) d₀ d
  aside : apart (w.path.location base) → Disk.Told base apart needed journal d₀ d

theorem adds_of_wrote (hd : Disk.Told base apart needed journal d₀ d) {w : Write} {l : Location}
    {d' : Disk} (hlocate : d.locate base w.path = .ok l) (hchanged : ChangedAt d l d')
    (hwrote : Wrote d l w.octets d') : Adds base apart needed journal d₀ w d' := by
  obtain rfl := Disk.location_of_locate hlocate
  exact ⟨hd.wrote w hchanged hwrote, fun hapart => hd.changed_aside hapart hchanged⟩

/-- A file that was written stands in the journal. One that could not be opened does not; and if the
    writing breaks off after that, a beginning does. -/
theorem leads_writeFile_told (hd : Disk.Told base apart needed journal d₀ d) (w : Write) :
    Leads (writeFile base w.path w.octets) d
      (fun _ d' => w.path.Clean ∧ Adds base apart needed journal d₀ w d')
      fun e d' => (Disk.Told base apart needed journal d₀ d' ∧ Refusal w.path e)
        ∨ w.path.Clean ∧ Stuck d w.octets e ∧ ∃ taken, taken <+: w.octets
          ∧ Adds base apart needed journal d₀ (w.leaving taken) d' := by
  refine (leads_writeFile base w.path w.octets d).mono (fun _ d' h => ?_) fun e d' h => ?_
  · obtain ⟨hclean, l, hlocate, hchanged, hwrote⟩ := h
    exact ⟨hclean, adds_of_wrote hd hlocate hchanged hwrote⟩
  · obtain ⟨rfl, hrefusal⟩ | ⟨hclean, hstuck, l, taken, hlocate, htaken, hchanged, hwrote⟩ := h
    · exact .inl ⟨hd, hrefusal⟩
    · refine .inr ⟨hclean, hstuck, taken, htaken, adds_of_wrote hd (l := l) ?_ hchanged ?_⟩
      · simpa using hlocate
      · simpa using hwrote

/-- What is added at the end of a file that lies apart is not told of. -/
theorem leads_appendFile_told (hd : Disk.Told base apart needed journal d₀ d)
    (hapart : apart (p.location base)) (octets : List UInt8) :
    Leads (appendFile base p octets) d (fun _ d' => Disk.Told base apart needed journal d₀ d')
      fun _ d' => Disk.Told base apart needed journal d₀ d' := by
  have htold : ∀ d', (d' = d ∨ ∃ l, d.locate base p = .ok l ∧ ChangedAt d l d') →
      Disk.Told base apart needed journal d₀ d' := by
    rintro d' (rfl | ⟨l, hlocate, hchanged⟩)
    · exact hd
    · obtain rfl := Disk.location_of_locate hlocate
      exact hd.changed_aside hapart hchanged
  exact (leads_appendFile base p octets d).mono (fun _ _ h => htold _ h) fun _ _ h => htold _ h

end OnDisk

end CallExcerpt
