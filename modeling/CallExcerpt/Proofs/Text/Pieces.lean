import CallExcerpt.Text.Blank
import CallExcerpt.Text.Pieces
import Mathlib.Data.List.DropRight

/-! # Pieces and ends of texts

    What taking a text apart and putting it together have to do with each
    other, and what is left of a text that loses its ends.

    * `splitAt_joinWith_of_ne_nil`, `flatMap_splitAt_eq_iff`: what joined texts
      fall into, unless there was none at all.
    * `splitAt_joinWith`: they fall into what they were, unless one of them holds
      the separator.
    * `pieces_append`: of two texts in a row, the first settles all its pieces
      but the last.
    * `pieces_append_of_not_mem`, `getLast?_pieces_append`: a text without
      separators joins the first piece of what follows it, or the last piece
      of what stands before it.
    * `head?_pieces_append`: a text with a separator settles its first piece.
    * `trimBoth_append`: nothing but the ends is lost.
-/

namespace CallExcerpt.Text

variable {sep : Char}

/-! ## Pieces -/

theorem pieces_eq_splitOn (sep : Char) (cs : List Char) : pieces sep cs = cs.splitOn sep := by
  induction cs with
  | nil => simp [pieces]
  | cons c cs ih =>
    rw [List.splitOn, List.splitOnP_cons_eq_if_modifyHead, ← List.splitOn, ← ih]
    by_cases h : c = sep
    · simp [pieces, h]
    · cases hp : pieces sep cs with
      | nil => exact absurd hp (pieces_ne_nil sep cs)
      | cons p ps => simp [pieces, h, hp]

theorem not_mem_of_mem_splitOn {α : Type} [DecidableEq α] {a : α} {l p : List α}
    (h : p ∈ l.splitOn a) : a ∉ p := by
  induction l generalizing p with
  | nil =>
    have hp : p = [] := by simpa using h
    simp [hp]
  | cons b l ih =>
    rw [List.splitOn_cons_eq_if_modifyHead] at h
    by_cases hb : b = a
    · obtain rfl | hmem : p = [] ∨ p ∈ l.splitOn a := by simpa [hb] using h
      · exact List.not_mem_nil
      · exact ih hmem
    · cases hl : l.splitOn a with
      | nil => simp [hb, hl] at h
      | cons q qs =>
        obtain rfl | hmem : p = b :: q ∨ p ∈ qs := by simpa [hb, hl] using h
        · have hq : a ∉ q := ih (by simp [hl])
          simp [hq, Ne.symm hb]
        · exact ih (by simp [hl, hmem])

theorem not_mem_of_mem_pieces {cs p : List Char} (h : p ∈ pieces sep cs) : sep ∉ p := by
  rw [pieces_eq_splitOn] at h
  exact not_mem_of_mem_splitOn h

theorem pieces_of_not_mem {cs : List Char} (h : sep ∉ cs) : pieces sep cs = [cs] := by
  rw [pieces_eq_splitOn, List.splitOn_eq_singleton h]

theorem pieces_cons_ne {c : Char} (h : c ≠ sep) (cs : List Char) :
    pieces sep (c :: cs)
      = (c :: (pieces sep cs).headD []) :: (pieces sep cs).tail := by
  cases hp : pieces sep cs with
  | nil => exact absurd hp (pieces_ne_nil sep cs)
  | cons p ps => simp [pieces, h, hp]

/-- The pieces that are settled once more text may follow, and the text after them. -/
theorem pieces_append (cs ds : List Char) :
    pieces sep (cs ++ ds)
      = (pieces sep cs).dropLast ++ pieces sep ((pieces sep cs).getLast?.getD [] ++ ds) := by
  induction cs with
  | nil => simp [pieces]
  | cons c cs ih =>
    have hne := pieces_ne_nil sep cs
    by_cases hc : c = sep
    · have hlast : ([] :: pieces sep cs).getLast?.getD [] = (pieces sep cs).getLast?.getD [] := by
        rw [List.getLast?_cons_of_ne_nil hne]
      have hdrop : ([] :: pieces sep cs).dropLast = [] :: (pieces sep cs).dropLast :=
        List.dropLast_cons_of_ne_nil hne
      rw [List.cons_append, pieces, if_pos hc, pieces, if_pos hc, hlast, hdrop, ih]
      rfl
    · rw [List.cons_append, pieces_cons_ne hc, pieces_cons_ne hc, ih]
      -- either the first piece of the first text is its last one, or it is settled
      cases hp : pieces sep cs with
      | nil => exact absurd hp hne
      | cons p ps =>
        cases ps with
        | nil => simp [pieces_cons_ne hc]
        | cons q qs => simp [List.dropLast]

theorem pieces_append_sep (cs ds : List Char) :
    pieces sep (cs ++ sep :: ds) = pieces sep cs ++ pieces sep ds := by
  simp only [pieces_eq_splitOn, List.splitOn_append_cons_self]

theorem length_pieces (sep : Char) (cs : List Char) :
    (pieces sep cs).length = cs.count sep + 1 := by
  induction cs with
  | nil => rfl
  | cons c cs ih =>
    by_cases hc : c = sep
    · simp [pieces, hc, ih]
    · have hne : pieces sep cs ≠ [] := pieces_ne_nil sep cs
      rw [pieces_cons_ne hc, List.length_cons, List.length_tail, List.count_cons_of_ne hc, ih]
      omega

/-- A text without separators goes before the first piece of what follows it. -/
theorem pieces_append_of_not_mem {cs : List Char} (h : sep ∉ cs) (ds : List Char) :
    pieces sep (cs ++ ds) = (cs ++ (pieces sep ds).headD []) :: (pieces sep ds).tail := by
  induction cs with
  | nil =>
    cases hp : pieces sep ds with
    | nil => exact absurd hp (pieces_ne_nil sep ds)
    | cons p ps => simp [hp]
  | cons c cs ih =>
    rw [List.mem_cons, not_or] at h
    rw [List.cons_append, pieces_cons_ne (Ne.symm h.1), ih h.2]
    rfl

/-- A text without separators goes after the last piece of what stands before it. -/
theorem getLast?_pieces_append {ds : List Char} (h : sep ∉ ds) (cs : List Char) :
    (pieces sep (cs ++ ds)).getLast? = some ((pieces sep cs).getLast?.getD [] ++ ds) := by
  -- the last piece of the first text holds no separator either
  have hlast : sep ∉ (pieces sep cs).getLast?.getD [] := by
    rw [List.getLast?_eq_some_getLast (pieces_ne_nil sep cs), Option.getD_some]
    exact not_mem_of_mem_pieces (List.getLast_mem _)
  have hone : sep ∉ (pieces sep cs).getLast?.getD [] ++ ds := by
    rw [List.mem_append, not_or]
    exact ⟨hlast, h⟩
  rw [pieces_append, pieces_of_not_mem hone, List.getLast?_append]
  rfl

/-- A text with a separator settles its first piece. -/
theorem head?_pieces_append {cs : List Char} (h : sep ∈ cs) (ds : List Char) :
    (pieces sep (cs ++ ds)).head? = (pieces sep cs).head? := by
  induction cs with
  | nil => cases h
  | cons c cs ih =>
    by_cases hc : c = sep
    · simp [pieces, hc]
    · have hmem : sep ∈ cs := by simpa [Ne.symm hc] using h
      rw [List.cons_append, pieces_cons_ne hc, pieces_cons_ne hc, List.headD_eq_head?_getD,
        List.headD_eq_head?_getD, ih hmem]
      rfl

/-! ## Joining -/

theorem toList_joinWith (sep : Char) (texts : List String) :
    (joinWith sep texts).toList = [sep].intercalate (texts.map String.toList) := by
  rw [joinWith, String.toList_ofList]

theorem joinWith_singleton (sep : Char) (t : String) : joinWith sep [t] = t := by
  rw [← String.toList_inj, toList_joinWith]
  simp [List.intercalate]

theorem toList_joinWith_cons_cons (sep : Char) (t u : String) (texts : List String) :
    (joinWith sep (t :: u :: texts)).toList
      = t.toList ++ sep :: (joinWith sep (u :: texts)).toList := by
  rw [toList_joinWith, toList_joinWith, List.map_cons, List.map_cons, List.intercalate_cons_cons,
    List.append_assoc]
  rfl

theorem pieces_joinWith {texts : List String} (hne : texts ≠ [])
    (h : ∀ t ∈ texts, sep ∉ t.toList) :
    pieces sep (joinWith sep texts).toList = texts.map String.toList := by
  rw [toList_joinWith, pieces_eq_splitOn]
  apply List.splitOn_intercalate
  · simpa using h
  · simpa using hne

theorem splitAt_of_not_mem {s : String} (h : sep ∉ s.toList) : splitAt sep s = [s] := by
  rw [splitAt, pieces_of_not_mem h, List.map_singleton, String.ofList_toList]

theorem joinWith_ne_empty {t : String} (ht : t ≠ "") (texts : List String) :
    joinWith sep (t :: texts) ≠ "" := by
  intro h
  cases texts with
  | nil =>
    rw [joinWith_singleton] at h
    exact ht h
  | cons u texts =>
    have hempty := congrArg String.toList h
    rw [toList_joinWith_cons_cons] at hempty
    simp at hempty

/-- Joined texts fall into their pieces, whatever they hold. -/
theorem splitAt_joinWith_of_ne_nil {texts : List String} (hne : texts ≠ []) :
    splitAt sep (joinWith sep texts) = texts.flatMap (splitAt sep) := by
  induction texts with
  | nil => exact absurd rfl hne
  | cons t texts ih =>
    cases texts with
    | nil => rw [joinWith_singleton, List.flatMap_singleton]
    | cons u texts =>
      have hrest := ih (List.cons_ne_nil u texts)
      rw [List.flatMap_cons, ← hrest, splitAt, toList_joinWith_cons_cons, pieces_append_sep,
        List.map_append]
      rfl

theorem not_mem_of_mem_splitAt {s piece : String} (h : piece ∈ splitAt sep s) :
    sep ∉ piece.toList := by
  obtain ⟨cs, hcs, rfl⟩ := List.mem_map.mp h
  rw [String.toList_ofList]
  exact not_mem_of_mem_pieces hcs

/-- Texts are their own pieces just if none of them holds the separator. -/
theorem flatMap_splitAt_eq_iff {texts : List String} :
    texts.flatMap (splitAt sep) = texts ↔ ∀ t ∈ texts, sep ∉ t.toList := by
  constructor
  · intro h t ht
    rw [← h] at ht
    obtain ⟨u, -, hpiece⟩ := List.mem_flatMap.mp ht
    exact not_mem_of_mem_splitAt hpiece
  · intro h
    have hself : ∀ t ∈ texts, splitAt sep t = [t] := fun t ht => splitAt_of_not_mem (h t ht)
    rw [List.flatMap_congr hself, List.flatMap_singleton']

theorem splitAt_joinWith {texts : List String} (hne : texts ≠ [])
    (h : ∀ t ∈ texts, sep ∉ t.toList) : splitAt sep (joinWith sep texts) = texts :=
  (splitAt_joinWith_of_ne_nil hne).trans (flatMap_splitAt_eq_iff.mpr h)

theorem mem_joinWith_iff {sep c : Char} {texts : List String} (hc : c ≠ sep) :
    c ∈ (joinWith sep texts).toList ↔ ∃ t ∈ texts, c ∈ t.toList := by
  induction texts with
  | nil => simp [joinWith, List.intercalate]
  | cons t texts ih =>
    cases texts with
    | nil => simp [joinWith_singleton]
    | cons u texts =>
      rw [toList_joinWith_cons_cons, List.exists_mem_cons_iff, ← ih, List.mem_append, List.mem_cons]
      simp only [hc, false_or]

/-- Joining the pieces of a text gives the text back. -/
theorem joinWith_splitAt (sep : Char) (s : String) : joinWith sep (splitAt sep s) = s := by
  rw [← String.toList_inj, toList_joinWith, splitAt, List.map_map, pieces_eq_splitOn]
  have hmap : String.toList ∘ String.ofList = id := by
    funext cs
    exact String.toList_ofList
  rw [hmap, List.map_id, List.intercalate_splitOn]

theorem mem_of_mem_splitAt {c : Char} {s piece : String} (h : piece ∈ splitAt sep s)
    (hc : c ∈ piece.toList) : c ∈ s.toList := by
  have hne : c ≠ sep := fun he => not_mem_of_mem_splitAt h (he ▸ hc)
  rw [← joinWith_splitAt sep s, mem_joinWith_iff hne]
  exact ⟨piece, h, hc⟩

/-! ## Ends -/

variable {p : Char → Bool}

theorem trimBoth_eq (p : Char → Bool) (cs : List Char) :
    trimBoth p cs = (cs.dropWhile p).rdropWhile p := rfl

/-- Characters around a text that are taken away. -/
theorem trimBoth_append {before cs after : List Char} (hb : ∀ c ∈ before, p c)
    (ha : ∀ c ∈ after, p c) : trimBoth p (before ++ cs ++ after) = trimBoth p cs := by
  have hafter : ∀ ds : List Char, (ds ++ after).rdropWhile p = ds.rdropWhile p := by
    intro ds
    rw [List.rdropWhile, List.rdropWhile, List.reverse_append,
      List.dropWhile_append_of_pos (by simpa using ha)]
  rw [trimBoth_eq, trimBoth_eq, List.append_assoc, List.dropWhile_append_of_pos hb,
    List.dropWhile_append]
  split
  case isTrue h =>
    have hnil : cs.dropWhile p = [] := by simpa using h
    rw [hnil, List.dropWhile_eq_nil_iff.mpr ha]
  case isFalse h => exact hafter _

/-- What is taken from a text stands at its ends. -/
theorem exists_around (p : Char → Bool) (cs : List Char) :
    ∃ before after, cs = before ++ trimBoth p cs ++ after ∧ (∀ c ∈ before, p c)
      ∧ ∀ c ∈ after, p c := by
  have hend : (cs.dropWhile p).rdropWhile p ++ (cs.dropWhile p).rtakeWhile p = cs.dropWhile p :=
    List.rdropWhile_append_rtakeWhile
  refine ⟨cs.takeWhile p, (cs.dropWhile p).rtakeWhile p, ?_, ?_, ?_⟩
  · rw [trimBoth_eq, List.append_assoc, hend, List.takeWhile_append_dropWhile]
  · intro c hc
    exact List.mem_takeWhile_imp hc
  · intro c hc
    exact List.mem_rtakeWhile_imp hc

theorem mem_of_mem_trimBoth {c : Char} {cs : List Char} (h : c ∈ trimBoth p cs) : c ∈ cs := by
  obtain ⟨before, after, hcs, -, -⟩ := exists_around p cs
  rw [hcs]
  exact List.mem_append_left _ (List.mem_append_right _ h)

/-- A text loses nothing if neither its first nor its last character is taken away. -/
theorem trimBoth_of_ends {cs : List Char} (hfirst : ∀ c ∈ cs.head?, p c = false)
    (hlast : ∀ c ∈ cs.getLast?, p c = false) : trimBoth p cs = cs := by
  have hfront : cs.dropWhile p = cs := by
    cases cs with
    | nil => rfl
    | cons c cs => simp [hfirst c (by simp)]
  rw [trimBoth_eq, hfront, List.rdropWhile_eq_self_iff]
  intro hne
  have := hlast (cs.getLast hne) (by rw [List.getLast?_eq_some_getLast hne]; rfl)
  simp [this]

theorem trimBoth_idempotent (p : Char → Bool) (cs : List Char) :
    trimBoth p (trimBoth p cs) = trimBoth p cs := by
  apply trimBoth_of_ends
  · intro c hc
    -- the first character that is left after the end was taken is the first one before that
    have hprefix : trimBoth p cs <+: cs.dropWhile p := List.rdropWhile_prefix p _
    have hhead := List.head?_dropWhile_not p cs
    have hfirst : (cs.dropWhile p).head? = some c := by
      obtain ⟨rest, hrest⟩ := hprefix
      rw [← hrest, List.head?_append, hc]
      rfl
    rw [hfirst] at hhead
    exact hhead
  · intro c hc
    have hhead := List.head?_dropWhile_not p (cs.dropWhile p).reverse
    rw [trimBoth, List.getLast?_reverse] at hc
    rw [hc] at hhead
    exact hhead

theorem strip_strip (s : String) : strip (strip s) = strip s := by
  rw [strip, strip, String.toList_ofList, trimBoth_idempotent]

end CallExcerpt.Text
