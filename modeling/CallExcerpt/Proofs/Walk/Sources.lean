import CallExcerpt.Proofs.Walk.Reach

/-! # What an excerpt tells of its arrows

    A tally is kept while arrows are drawn and taken back. At the end it says
    what the arrows that are left say by themselves: their number, the symbols
    at their ends, and the source files of these. Files are noted when a symbol
    comes in and stay noted when it is dropped, which does no harm: a symbol has
    one file, and only those of members are told.

    * `Graph.fileOf`: the source file of a symbol.
    * `Tally.Sourced`: the files that are noted are right, and those of all
      members are there; kept by every move.
    * `Tally.files_ascending`, `Sourced.mem_files_iff`: the files of a tally.
    * `account_of_extract`: the account of an excerpt.
-/

namespace CallExcerpt

/-- The source file of the symbol of a name, if one is declared. -/
def Graph.fileOf (g : Graph) (name : String) : Option String := (g.find? name).bind (·.file)

theorem Graph.fileOf_of_find? {g : Graph} {name : String} {symbol : Symbol}
    (h : g.find? name = some symbol) : g.fileOf symbol.name = symbol.file := by
  rw [Graph.fileOf, Graph.name_of_find? h, h]
  rfl

/-! ## Files that are noted -/

namespace Tally

variable {g : Graph} {t : Tally}

/-- The files that the tally has noted are those of the graph, and it has noted that of each
    member. -/
structure Sourced (g : Graph) (t : Tally) : Prop where
  known : ∀ {name file}, t.sources.lookup name = some file → g.fileOf name = some file
  complete : ∀ name ∈ t.members, t.sources.lookup name = g.fileOf name

theorem sources_add (t : Tally) (name : String) (file : Option String) (other : String) :
    (t.add name file).sources.lookup other
      = if other = name then file.or (t.sources.lookup name) else t.sources.lookup other := by
  cases file with
  | none =>
    show t.sources.lookup other = _
    split
    · next h => rw [h, Option.none_or]
    · rfl
  | some file =>
    show (Table.put name file t.sources).lookup other = _
    by_cases h : other = name
    · rw [if_pos h, h, Table.lookup_put_self, Option.some_or]
    · rw [if_neg h, Table.lookup_put_ne h]

/-- A symbol comes in with its file. -/
theorem Sourced.add (h : t.Sourced g) {name : String} {file : Option String}
    (hfile : g.fileOf name = file) : (t.add name file).Sourced g := by
  -- what was noted for the symbol before is its file as well
  have hhere : file.or (t.sources.lookup name) = g.fileOf name := by
    cases file with
    | some file => rw [hfile, Option.some_or]
    | none =>
      rw [Option.none_or, hfile]
      cases hnoted : t.sources.lookup name with
      | none => rfl
      | some file => exact (h.known hnoted).symm.trans hfile
  constructor
  · intro other file' hnoted
    rw [sources_add] at hnoted
    split at hnoted
    · next hsame => rw [hsame, ← hhere, hnoted]
    · exact h.known hnoted
  · intro other hmem
    rw [sources_add]
    by_cases hsame : other = name
    · rw [if_pos hsame, hsame, hhere]
    · rw [if_neg hsame]
      refine h.complete other ?_
      rw [members_add] at hmem
      split at hmem
      · exact hmem
      · exact (List.mem_append.mp hmem).resolve_right (by simpa using hsame)

theorem sourced_start {root : String} {symbol : Symbol} (hroot : g.find? root = some symbol) :
    (start symbol).Sourced g := by
  refine Sourced.add ⟨?_, ?_⟩ (Graph.fileOf_of_find? hroot)
  · intro name file hnoted
    cases hnoted
  · intro name hmem
    cases hmem

theorem Sourced.retain (h : t.Sourced g) {source target : Symbol}
    (hsource : g.fileOf source.name = source.file) (htarget : g.fileOf target.name = target.file) :
    (t.retain source target).Sourced g := by
  have hboth := (h.add hsource).add htarget
  exact ⟨hboth.known, hboth.complete⟩

@[simp] theorem sources_drop (t : Tally) (name : String) : (t.drop name).sources = t.sources := by
  unfold drop
  split <;> rfl

@[simp] theorem sources_release (t : Tally) (source target : String) :
    (t.release source target).sources = t.sources := by
  show ((t.drop source).drop target).sources = t.sources
  rw [sources_drop, sources_drop]

/-- Dropping symbols leaves what was noted. -/
theorem Sourced.release (h : t.Sourced g) (source target : String) :
    (t.release source target).Sourced g := by
  obtain ⟨p, hp⟩ := exists_filter_release t source target
  constructor
  · intro name file hnoted
    rw [sources_release] at hnoted
    exact h.known hnoted
  · intro name hmem
    rw [hp] at hmem
    rw [sources_release]
    exact h.complete name (List.mem_filter.mp hmem).1

/-! ## The files of a tally -/

/-- The files come in the order of code points, each once. -/
theorem files_ascending (t : Tally) : t.files.Pairwise (· < ·) := by
  have hle : ((t.members.filterMap fun n => t.sources.lookup n).mergeSort Graph.nameLE).Pairwise
      (· ≤ ·) :=
    (List.pairwise_mergeSort Graph.nameLE_trans Graph.nameLE_total _).imp of_decide_eq_true
  have hne : t.files.Nodup := Firsts.nodup_eraseReps (fun _ _ => String.le_antisymm) hle
  refine ((hle.sublist (Firsts.eraseReps_sublist _)).and hne).imp ?_
  rintro a b ⟨hab, hdiffer⟩
  rw [← String.not_le]
  exact fun hba => hdiffer (String.le_antisymm hab hba)

/-- They are the files of the members. -/
theorem Sourced.mem_files_iff (h : t.Sourced g) {file : String} :
    file ∈ t.files ↔ ∃ name ∈ t.members, g.fileOf name = some file := by
  rw [files, Firsts.mem_eraseReps_iff, List.mem_mergeSort, List.mem_filterMap]
  constructor
  · rintro ⟨name, hmem, hfile⟩
    exact ⟨name, hmem, h.known hfile⟩
  · rintro ⟨name, hmem, hfile⟩
    exact ⟨name, hmem, (h.complete name hmem).trans hfile⟩

end Tally

theorem ends_arrows (arrows : List Arrow) :
    Tally.ends (arrows.map Arrow.ends) = arrows.flatMap fun a => [a.source, a.target] := by
  rw [Tally.ends, List.flatMap_map]
  rfl

namespace Walk

variable {g : Graph} {plan : Plan}

/-! ## Extractions -/

/-- Every move leaves the right files noted. -/
theorem sourced_move {w w' : Walk} (h : w.tally.Sourced g) (hm : Move g plan w w') :
    w'.tally.Sourced g := by
  cases hm with
  | keep => exact h
  | takeBack => exact h.release _ _
  | leave => exact h
  | pass => exact h
  | @follow frame rest call pending child _ _ _ hmeets =>
    rw [follow_tally]
    refine h.retain ?_ (Graph.fileOf_of_find? hmeets.found)
    cases hfind : g.find? frame.name with
    | none =>
      show g.fileOf frame.name = none
      rw [Graph.fileOf, hfind]
      rfl
    | some symbol => exact Graph.fileOf_of_find? hfind

theorem OnWay.sourced {root : String} {desk : Desk} {w : Walk} (h : OnWay g plan root desk w) :
    w.tally.Sourced g := by
  obtain ⟨symbol, hroot, hrun⟩ := h
  exact hrun.invariant (I := fun w => w.tally.Sourced g) (fun _ _ => sourced_move)
    (Tally.sourced_start hroot)

/-- What an excerpt tells of its arrows: the members are the root and the ends of the arrows, each
    where it comes first; the files are those of the members, in order and each once; and the number
    of arrows is told. -/
theorem account_of_extract (g : Graph) (plan : Plan) (root : String) (desk desk' : Desk) (w : Walk)
    (hextract : extract g plan root desk = .ok w desk') :
    ∃ own, desk'.sheet.toList = desk.sheet.toList ++ own ∧
      w.tally.members = (root :: own.flatMap fun a => [a.source, a.target]).eraseDups ∧
      w.tally.files.Pairwise (· < ·) ∧
      (∀ file, file ∈ w.tally.files ↔
        ∃ name ∈ w.tally.members, (g.find? name).bind (·.file) = some file) ∧
      w.tally.arrows = own.length := by
  obtain ⟨hw, -, rfl, -⟩ := grows_of_extract hextract
  obtain ⟨hroot, ⟨own, hown, harrows, -⟩, -⟩ := hw.balanced
  -- the sheet has the latest arrow first
  refine ⟨own.reverse, ?_, ?_, w.tally.files_ascending, fun file => hw.sourced.mem_files_iff, ?_⟩
  · simp [Sheet.toList, hown]
  · have hinOrder : w.tally.members = _ := hw.inOrder hown
    rw [hinOrder, hroot, ← List.map_reverse, ends_arrows]
  · rw [harrows, List.length_reverse]

/-- A symbol that is drawn and taken back before the goal is found: it is no member, and its file is
    not told. -/
theorem account_of_dead_end :
    let g := ((({} : Graph).declare { name := "a", file := some "a.c" }).declare
      { name := "x", file := some "x.c" }).declare { name := "d", file := some "d.c" }
    let g := ((g.connect "a" "x" []).connect "a" "b" []).connect "b" "d" []
    ∃ w desk' own, extract g { goal := some "d" } "a" {} = .ok w desk' ∧ desk'.sheet.toList = own ∧
      own.map Arrow.ends = [("a", "b"), ("b", "d")] ∧ w.tally.members = ["a", "b", "d"] ∧
      "d.c" ∈ w.tally.files ∧ "x.c" ∉ w.tally.files ∧ w.tally.arrows = 2 := by
  intro g₀ g
  have hsucceeds : (extract g { goal := some "d" } "a" {} matches .ok _ _) = true := by
    decide +kernel
  have hends : (deskAfter (extract g { goal := some "d" } "a" {})).sheet.toList.map Arrow.ends
      = [("a", "b"), ("b", "d")] := by decide +kernel
  cases hextract : extract g { goal := some "d" } "a" {} with
  | error fault desk' =>
    rw [hextract] at hsucceeds
    cases hsucceeds
  | ok w desk' =>
    obtain ⟨own, hsheet, hmembers, -, hfiles, harrows⟩ :=
      account_of_extract g { goal := some "d" } "a" {} desk' w hextract
    have hown : desk'.sheet.toList = own := hsheet
    rw [hextract] at hends
    replace hends : own.map Arrow.ends = _ := hown ▸ hends
    have hthree : w.tally.members = ["a", "b", "d"] := by
      rw [hmembers, ← ends_arrows, hends]
      decide
    have htwo : own.length = 2 := by
      rw [← List.length_map Arrow.ends, hends]
      rfl
    refine ⟨w, desk', own, rfl, hown, hends, hthree, ?_, ?_, by rw [harrows, htwo]; rfl⟩
    · exact (hfiles "d.c").mpr ⟨"d", by simp [hthree], by decide⟩
    · rw [hfiles, hthree]
      decide

end Walk

end CallExcerpt
