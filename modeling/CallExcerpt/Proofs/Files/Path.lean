import CallExcerpt.Files.Path
import CallExcerpt.Proofs.Text.Pieces

/-! # Paths in writing

    A path that was read holds no empty name, no single dot and no name with
    a slash. Such a path is told apart from all others by its text: what is
    written is read as the path itself.

    * `ofString_toString`: a path read from its own text.
    * `mem_of_mem_parts_ofString`, `mem_toString`: reading and writing a path bring
      in no other characters than slashes and a dot.
    * `splitName_append`: the last dot of a name begins its suffix, if any dot
      does.
    * `exists_tail_of_suffix`, `splitName_of_no_suffix`: names that have a suffix
      and names that have none.
    * `splitName_append_of_no_suffix`: a name without a suffix takes nothing
      from the suffix of what follows it.
    * `Clean`: paths without the character that ends names inside the system,
      and the paths that are made of them.
-/

namespace CallExcerpt.Path

/-- A path as reading gives it. -/
def Normal (p : Path) : Prop := ∀ name ∈ p.parts, name ≠ "" ∧ name ≠ "." ∧ '/' ∉ name.toList

theorem normal_ofString (s : String) : (ofString s).Normal := by
  intro name hname
  obtain ⟨cs, hcs, rfl⟩ := List.mem_map.mp hname
  obtain ⟨hmem, hkept⟩ := List.mem_filter.mp hcs
  obtain ⟨hne, hdot⟩ : cs ≠ [] ∧ cs ≠ ['.'] := by simpa using hkept
  refine ⟨?_, ?_, ?_⟩
  · intro h
    exact hne (by simpa using congrArg String.toList h)
  · intro h
    exact hdot (by simpa using congrArg String.toList h)
  · rw [String.toList_ofList]
    exact Text.not_mem_of_mem_pieces hmem

/-- The names between slashes, without those that say nothing. -/
theorem names_joinWith {parts : List String}
    (h : ∀ name ∈ parts, name ≠ "" ∧ name ≠ "." ∧ '/' ∉ name.toList) :
    ((Text.pieces '/' (Text.joinWith '/' parts).toList).filter fun p => p ≠ [] && p ≠ ['.']).map
      String.ofList = parts := by
  cases parts with
  | nil => rfl
  | cons name rest =>
    rw [Text.pieces_joinWith (by simp) fun t ht => (h t ht).2.2]
    have hkeep : ∀ cs ∈ (name :: rest).map String.toList, cs ≠ [] && cs ≠ ['.'] := by
      intro cs hcs
      obtain ⟨t, ht, rfl⟩ := List.mem_map.mp hcs
      obtain ⟨hne, hdot, -⟩ := h t ht
      have hne' : t.toList ≠ [] := fun he => hne (String.toList_inj.mp he)
      have hdot' : t.toList ≠ ['.'] := fun he => hdot (String.toList_inj.mp he)
      simp [hne', hdot']
    rw [List.filter_eq_self.mpr hkeep, List.map_map]
    simp [Function.comp_def]

/-- Joined names begin with no slash. -/
theorem anchorOf_joinWith {parts : List String}
    (h : ∀ name ∈ parts, name ≠ "" ∧ name ≠ "." ∧ '/' ∉ name.toList) (front : List Char)
    (hfront : front = [] ∨ front = ['/'] ∨ front = ['/', '/']) :
    anchorOf (front ++ (Text.joinWith '/' parts).toList) = anchorOf front := by
  cases parts with
  | nil => simp [Text.joinWith, List.intercalate]
  | cons name rest =>
    obtain ⟨hne, -, hslash⟩ := h name (by simp)
    obtain ⟨c, cs, hcs⟩ : ∃ c cs, name.toList = c :: cs :=
      List.exists_cons_of_ne_nil fun he => hne (String.toList_inj.mp he)
    have hc : c ≠ '/' := fun he => hslash (by simp [hcs, he])
    obtain ⟨ds, hds⟩ : ∃ ds, (Text.joinWith '/' (name :: rest)).toList = c :: ds := by
      cases rest with
      | nil => exact ⟨cs, by rw [Text.joinWith_singleton, hcs]⟩
      | cons next rest =>
        rw [Text.toList_joinWith_cons_cons, hcs]
        exact ⟨_, rfl⟩
    rw [hds]
    obtain rfl | rfl | rfl := hfront
    · simp [anchorOf, hc]
    · simp [anchorOf, hc]
    · simp [anchorOf, hc]

theorem ofString_toString {p : Path} (h : p.Normal) : ofString p.toString = p := by
  obtain ⟨anchor, parts⟩ := p
  have hnames := names_joinWith h
  have hanchor := anchorOf_joinWith h
  cases anchor with
  | relative =>
    cases parts with
    | nil => rfl
    | cons name rest =>
      have htext : (toString ⟨.relative, name :: rest⟩).toList
          = (Text.joinWith '/' (name :: rest)).toList := by
        simp [toString, anchorText]
      rw [ofString, htext, hnames]
      exact congrArg (Path.mk · _) (hanchor [] (.inl rfl))
  | root =>
    have htext : (toString ⟨.root, parts⟩).toList
        = ['/'] ++ (Text.joinWith '/' parts).toList := by
      simp [toString, anchorText]
    rw [ofString, htext, hanchor ['/'] (.inr (.inl rfl))]
    exact congrArg (Path.mk _ ·) hnames
  | doubleRoot =>
    have htext : (toString ⟨.doubleRoot, parts⟩).toList
        = ['/', '/'] ++ (Text.joinWith '/' parts).toList := by
      simp [toString, anchorText]
    rw [ofString, htext, hanchor ['/', '/'] (.inr (.inr rfl))]
    exact congrArg (Path.mk _ ·) hnames

/-- The characters of a path that was read were in its text. -/
theorem mem_of_mem_parts_ofString {s name : String} (h : name ∈ (ofString s).parts) {c : Char}
    (hc : c ∈ name.toList) : c ∈ s.toList := by
  have hpiece : name ∈ Text.splitAt '/' s := by
    obtain ⟨cs, hcs, rfl⟩ := List.mem_map.mp h
    exact List.mem_map_of_mem (List.mem_of_mem_filter hcs)
  exact Text.mem_of_mem_splitAt hpiece hc

/-- Writing a path adds slashes only, and a dot for the working directory. -/
theorem mem_toString {p : Path} {c : Char} (h : c ∈ p.toString.toList) :
    c = '/' ∨ c = '.' ∨ ∃ name ∈ p.parts, c ∈ name.toList := by
  obtain ⟨anchor, parts⟩ := p
  by_cases hslash : c = '/'
  · exact .inl hslash
  · right
    have hjoined : c ∈ (Text.joinWith '/' parts).toList → ∃ name ∈ parts, c ∈ name.toList :=
      (Text.mem_joinWith_iff hslash).mp
    cases anchor with
    | relative =>
      cases parts with
      | nil => exact .inl (by simpa [toString] using h)
      | cons name rest => exact .inr (hjoined (by simpa [toString, anchorText] using h))
    | root => exact .inr (hjoined (by simpa [toString, anchorText, hslash] using h))
    | doubleRoot => exact .inr (hjoined (by simpa [toString, anchorText, hslash] using h))

/-! ## Stem and suffix -/

theorem splitName_of_not_mem {cs : List Char} (hdot : '.' ∉ cs) : splitName cs = (cs, []) := by
  simp [splitName, hdot]

/-- The last dot begins the suffix, if something stands before it and something after it. -/
theorem splitName_append (stem : List Char) {tail : List Char} (hdot : '.' ∉ tail) :
    splitName (stem ++ '.' :: tail)
      = if stem = [] ∨ tail = [] then (stem ++ '.' :: tail, []) else (stem, '.' :: tail) := by
  have hlast : ((stem ++ '.' :: tail).reverse.takeWhile (· ≠ '.')).reverse = tail := by
    have hall : ∀ c ∈ tail.reverse, (c ≠ '.' : Bool) = true := by
      intro c hc
      have hmem : c ∈ tail := List.mem_reverse.mp hc
      have hne : c ≠ '.' := fun heq => hdot (heq ▸ hmem)
      simpa using hne
    rw [List.reverse_append, List.reverse_cons, List.append_assoc,
      List.takeWhile_append_of_pos hall]
    simp
  have hfront : (stem ++ '.' :: tail).take ((stem ++ '.' :: tail).length - tail.length - 1)
      = stem := by
    rw [List.length_append, List.length_cons]
    have hlength : stem.length + (tail.length + 1) - tail.length - 1 = stem.length := by omega
    rw [hlength, List.take_left]
  unfold splitName
  simp only [hlast, hfront]
  simp [or_comm]

/-- A text with a dot falls into what stands before its last dot and what stands after it. -/
theorem exists_last_dot {cs : List Char} (h : '.' ∈ cs) :
    ∃ stem tail, cs = stem ++ '.' :: tail ∧ '.' ∉ tail := by
  induction cs with
  | nil => cases h
  | cons c cs ih =>
    by_cases hlater : '.' ∈ cs
    · obtain ⟨stem, tail, rfl, hdot⟩ := ih hlater
      exact ⟨c :: stem, tail, rfl, hdot⟩
    · have hc : c = '.' := by simpa [hlater, eq_comm] using h
      exact ⟨[], cs, by simp [hc], hlater⟩

/-- A suffix is a dot and something behind it that holds none. -/
theorem exists_tail_of_suffix {cs : List Char} (h : (splitName cs).2 ≠ []) :
    ∃ tail, tail ≠ [] ∧ '.' ∉ tail ∧ (splitName cs).2 = '.' :: tail := by
  by_cases hmem : '.' ∈ cs
  · obtain ⟨stem, tail, rfl, hdot⟩ := exists_last_dot hmem
    rw [splitName_append stem hdot] at h ⊢
    split
    case isTrue hempty => simp [hempty] at h
    case isFalse hfull => exact ⟨tail, fun ht => hfull (.inr ht), hdot, rfl⟩
  · rw [splitName_of_not_mem hmem] at h
    exact absurd rfl h

/-- A name has no suffix if it holds no dot, or none but at its front, or one at its end. -/
theorem splitName_of_no_suffix {cs : List Char} (h : (splitName cs).2 = []) :
    (splitName cs).1 = cs ∧ ('.' ∉ cs ∨ cs.getLast? = some '.'
      ∨ ∃ tail, cs = '.' :: tail ∧ '.' ∉ tail) := by
  by_cases hmem : '.' ∈ cs
  · obtain ⟨stem, tail, rfl, hdot⟩ := exists_last_dot hmem
    rw [splitName_append stem hdot] at h ⊢
    split
    case isTrue hempty =>
      refine ⟨rfl, .inr ?_⟩
      obtain rfl | rfl := hempty
      · exact .inr ⟨tail, rfl, hdot⟩
      · exact .inl (by simp)
    case isFalse hfull => simp [hfull] at h
  · rw [splitName_of_not_mem hmem]
    exact ⟨rfl, .inl hmem⟩

/-- Cutting never takes the first character. -/
theorem splitName_cons (c : Char) (cs : List Char) :
    (splitName (c :: cs)).1 = c :: (splitName (c :: cs)).1.tail := by
  by_cases hmem : '.' ∈ c :: cs
  · obtain ⟨stem, tail, heq, hdot⟩ := exists_last_dot hmem
    rw [heq, splitName_append stem hdot, ← heq]
    split
    case isTrue => rfl
    case isFalse hfull =>
      cases stem with
      | nil => simp at hfull
      | cons d stem =>
        obtain rfl : c = d := (List.cons.inj heq).1
        rfl
  · rw [splitName_of_not_mem hmem]
    rfl

theorem splitName_fst_append_snd (cs : List Char) : (splitName cs).1 ++ (splitName cs).2 = cs := by
  by_cases hmem : '.' ∈ cs
  · obtain ⟨stem, tail, rfl, hdot⟩ := exists_last_dot hmem
    rw [splitName_append stem hdot]
    split
    case isTrue => exact List.append_nil _
    case isFalse => rfl
  · rw [splitName_of_not_mem hmem]
    exact List.append_nil _

theorem splitName_append_of_no_suffix {cs ds : List Char} {c : Char}
    (h : (splitName cs).2 = []) (hend : cs.getLast? ≠ some '.') (hc : c ≠ '.') :
    splitName (cs ++ c :: ds) = (cs ++ (splitName (c :: ds)).1, (splitName (c :: ds)).2) := by
  by_cases hmem : '.' ∈ c :: ds
  · obtain ⟨stem, tail, heq, hdot⟩ := exists_last_dot hmem
    have hstem : stem ≠ [] := by
      rintro rfl
      exact hc (List.cons.inj heq).1
    rw [heq, ← List.append_assoc, splitName_append _ hdot, splitName_append _ hdot]
    by_cases htail : tail = []
    · simp [htail]
    · simp [htail, hstem]
  · rw [splitName_of_not_mem hmem]
    obtain hdot | hlast | ⟨tail, rfl, hdot⟩ := (splitName_of_no_suffix h).2
    · refine splitName_of_not_mem ?_
      rw [List.mem_append, not_or]
      exact ⟨hdot, hmem⟩
    · exact absurd hlast hend
    · have hdot' : '.' ∉ tail ++ c :: ds := by
        rw [List.mem_append, not_or]
        exact ⟨hdot, hmem⟩
      exact splitName_append [] hdot'

/-- A stem has no other characters than its name. -/
theorem mem_name_of_mem_stem {p : Path} {c : Char} (h : c ∈ p.stem.toList) : c ∈ p.name.toList := by
  rw [Path.stem, String.toList_ofList] at h
  rw [← splitName_fst_append_snd p.name.toList]
  exact List.mem_append_left _ h

theorem mem_name_of_mem_suffix {p : Path} {c : Char} (h : c ∈ p.suffix.toList) :
    c ∈ p.name.toList := by
  rw [Path.suffix, String.toList_ofList] at h
  rw [← splitName_fst_append_snd p.name.toList]
  exact List.mem_append_right _ h

/-! ## Names that the system takes -/

/-- A path without the character that ends names inside the system. -/
def Clean (p : Path) : Prop := ∀ name ∈ p.parts, '\x00' ∉ name.toList

instance (p : Path) : Decidable p.Clean :=
  inferInstanceAs (Decidable (∀ name ∈ p.parts, '\x00' ∉ name.toList))

variable {p q : Path}

theorem clean_iff : p.Clean ↔ p.toString.contains '\x00' = false := by
  obtain ⟨anchor, parts⟩ := p
  have hjoined : '\x00' ∈ (Text.joinWith '/' parts).toList ↔ ∃ t ∈ parts, '\x00' ∈ t.toList :=
    Text.mem_joinWith_iff (by decide)
  have hclean : Clean ⟨anchor, parts⟩ ↔ '\x00' ∉ (Text.joinWith '/' parts).toList := by
    rw [hjoined]
    simp [Clean]
  rw [hclean, String.contains_char_eq, decide_eq_false_iff_not]
  cases anchor with
  | relative => cases parts <;> simp [toString, anchorText, Text.joinWith]
  | root => simp [toString, anchorText]
  | doubleRoot => simp [toString, anchorText]

theorem Clean.parent (h : p.Clean) : p.parent.Clean :=
  fun name hname => h name (List.dropLast_subset _ hname)

theorem Clean.child (h : p.Clean) {name : String} (hname : '\x00' ∉ name.toList) :
    (p.child name).Clean := by
  intro part hpart
  obtain hpart | rfl : part ∈ p.parts ∨ part = name := by simpa [Path.child] using hpart
  · exact h part hpart
  · exact hname

theorem Clean.name (h : p.Clean) : '\x00' ∉ p.name.toList := by
  unfold Path.name
  cases hlast : p.parts.getLast? with
  | none => simp
  | some name => exact h name (List.mem_of_getLast? hlast)

theorem Clean.stem (h : p.Clean) : '\x00' ∉ p.stem.toList :=
  fun hmem => h.name (mem_name_of_mem_stem hmem)

theorem Clean.suffix (h : p.Clean) : '\x00' ∉ p.suffix.toList :=
  fun hmem => h.name (mem_name_of_mem_suffix hmem)

theorem parent_withName? {name : String} (hq : p.withName? name = some q) :
    q.parent = p.parent := by
  unfold withName? at hq
  split at hq
  case isTrue => cases hq
  case isFalse =>
    cases hq
    simp [Path.parent]

theorem Clean.withName? (h : p.Clean) {name : String} (hname : '\x00' ∉ name.toList)
    (hq : p.withName? name = some q) : q.Clean := by
  unfold Path.withName? at hq
  split at hq
  case isTrue => cases hq
  case isFalse =>
    cases hq
    exact h.parent.child hname

end CallExcerpt.Path
