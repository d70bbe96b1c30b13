import CallExcerpt.Graph.Basic
import CallExcerpt.Proofs.Text.Pieces

/-! # Tags of call sites

    A tag joins the symbol that is meant with the place of the call. It is read
    back at its first tilde, so that a symbol whose own name holds a tilde, as
    that of a destructor does, is cut there: the call is put down to another
    symbol, at a place that never was.

    * `partition?_push_append`, `not_mem_of_partition?`: the first separator.
    * `Call.readSite_tag`: a tag is read back if the symbol holds no tilde.
    * `Call.locations_tagged`: then the places go to the symbols they are meant for.
    * `Call.locations_tagged_eq_nil`: no tag is read as one of a symbol with a tilde.
-/

namespace CallExcerpt

namespace Text

variable {sep : Char}

/-- What stands before the first separator, and what stands behind it. -/
theorem partition?_push_append {s : String} (h : sep ∉ s.toList) (t : String) :
    partition? sep (s.push sep ++ t) = some (s, t) := by
  have hbefore : ∀ c ∈ s.toList, decide (c ≠ sep) = true := by
    intro c hc
    exact decide_eq_true fun he => h (he ▸ hc)
  have htext : (s.push sep ++ t).toList = s.toList ++ sep :: t.toList := by simp
  have hdrop : (s.toList ++ sep :: t.toList).dropWhile (· ≠ sep) = sep :: t.toList := by
    rw [List.dropWhile_append_of_pos hbefore]
    simp
  have htake : (s.toList ++ sep :: t.toList).takeWhile (· ≠ sep) = s.toList := by
    rw [List.takeWhile_append_of_pos hbefore]
    simp
  simp only [partition?, htext, hdrop, htake, String.ofList_toList]

/-- A text with a separator is cut, at whichever of its separators comes first. -/
theorem exists_partition? {s : String} (h : sep ∈ s.toList) :
    ∃ before after, partition? sep s = some (before, after) ∧ sep ∉ before.toList := by
  cases hrest : s.toList.dropWhile (· ≠ sep) with
  | nil =>
    -- nothing is left only if nothing is the separator
    rw [List.dropWhile_eq_nil_iff] at hrest
    exact absurd (hrest sep h) (by simp)
  | cons c rest =>
    refine ⟨String.ofList (s.toList.takeWhile (· ≠ sep)), String.ofList rest, ?_, ?_⟩
    · simp only [partition?, hrest]
    · rw [String.toList_ofList]
      intro hmem
      have hsatisfies := List.mem_takeWhile_imp hmem
      simp at hsatisfies

end Text

namespace Call

/-- The tag of a place where a symbol is meant. -/
def tag (target place : String) : String := target.push siteSeparator ++ place

/-- The calls from one symbol to another, with a tag for each place and the symbol meant there. -/
def tagged (caller callee : String) (pairs : List (String × String)) : Call :=
  { caller, callee, sites := pairs.map fun p => tag p.1 p.2 }

/-- The places where a symbol is meant, in their order. -/
def placesOf (target : String) (pairs : List (String × String)) : List String :=
  (pairs.filter (·.1 = target)).map (·.2)

variable {target : String} {pairs : List (String × String)}

/-- Tags without a place tell of none. -/
theorem ne_empty_of_mem_locations {c : Call} {p : String} (h : p ∈ c.locations target) : p ≠ "" := by
  obtain ⟨t, -, ht⟩ := List.mem_filterMap.mp h
  dsimp only at ht
  split at ht
  case isTrue hkept =>
    obtain rfl := Option.some.inj ht
    simp at hkept
    exact hkept.2
  case isFalse => cases ht

theorem readSite_tag (c : Call) (h : siteSeparator ∉ target.toList) (place : String) :
    c.readSite (tag target place) = (target, place) := by
  rw [readSite, tag, Text.partition?_push_append h]
  rfl

/-- The symbol that is read from a tag holds no tilde. -/
theorem separator_not_mem_readSite_tag (c : Call) (target place : String) :
    siteSeparator ∉ (c.readSite (tag target place)).1.toList := by
  have hmem : siteSeparator ∈ (tag target place).toList := by simp [tag]
  obtain ⟨before, after, hcut, hbefore⟩ := Text.exists_partition? hmem
  rw [readSite, hcut]
  exact hbefore

theorem locations_tagged (caller callee : String) (hplaces : ∀ p ∈ pairs, p.2 ≠ "")
    (h : ∀ p ∈ pairs, siteSeparator ∉ p.1.toList) (target : String) :
    (tagged caller callee pairs).locations target = placesOf target pairs := by
  have hread : ∀ p ∈ pairs, (tagged caller callee pairs).readSite (tag p.1 p.2) = p :=
    fun p hp => readSite_tag _ (h p hp) p.2
  have hplacesOf : placesOf target pairs
      = pairs.filterMap fun p => if p.1 = target then some p.2 else none := by
    rw [placesOf, ← List.filterMap_eq_map, List.filterMap_filter]
    simp
  have hsites : (tagged caller callee pairs).sites = pairs.map fun p => tag p.1 p.2 := rfl
  rw [locations, hsites, List.filterMap_map, hplacesOf]
  apply List.filterMap_congr
  intro p hp
  have hplace := hplaces p hp
  simp [hread p hp, hplace]

/-- A symbol with a tilde in its name is never found. -/
theorem locations_tagged_eq_nil (caller callee : String) (pairs : List (String × String))
    (h : siteSeparator ∈ target.toList) :
    (tagged caller callee pairs).locations target = [] := by
  rw [locations, List.filterMap_eq_nil_iff]
  intro t ht
  obtain ⟨p, -, rfl⟩ := List.mem_map.mp ht
  have hne : ((tagged caller callee pairs).readSite (tag p.1 p.2)).1 ≠ target := by
    intro he
    exact separator_not_mem_readSite_tag _ p.1 p.2 (he ▸ h)
  simp [hne]

theorem mem_placesOf {p : String × String} (hp : p ∈ pairs) : p.2 ∈ placesOf p.1 pairs := by
  refine List.mem_map_of_mem ?_
  rw [List.mem_filter]
  exact ⟨hp, decide_eq_true rfl⟩

/-- All places go to the symbols they are meant for exactly if no such symbol holds a tilde. -/
theorem locations_tagged_iff (caller callee : String) (hplaces : ∀ p ∈ pairs, p.2 ≠ "") :
    (∀ target, (tagged caller callee pairs).locations target = placesOf target pairs)
      ↔ ∀ p ∈ pairs, siteSeparator ∉ p.1.toList := by
  constructor
  · intro h p hp hmem
    have hplace := mem_placesOf hp
    rw [← h, locations_tagged_eq_nil caller callee pairs hmem] at hplace
    cases hplace
  · exact locations_tagged caller callee hplaces

end Call

end CallExcerpt
