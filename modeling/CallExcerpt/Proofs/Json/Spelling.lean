import CallExcerpt.Json.Basic
import CallExcerpt.Proofs.Text.Numeral

/-! # Which values can be put in words

    A value has a spelling if its whole numbers are not too long and there is
    room for its levels. Both are said here of the value as a whole, without
    regard to the order in which a spelling looks at its parts.

    * `levels`, `wholeNumbers`, `Spellable`, `HasWords`: what is asked.
    * `unspellable?_eq_none_iff`, `wordless?_eq_none_iff`: nothing else keeps a
      value from being put in words.
    * `holdsOf_of_unspellable?`, `holdsOf_of_wordless?`: what is told is so, of a
      value and of all that it is a part of.
-/

namespace CallExcerpt.Json

/-! ## What is asked of a value -/

mutual

/-- The levels of a value: one of its own, and below it those of its deepest part. -/
def levels : Json → Nat
  | .list items => itemLevels items + 1
  | .object members => memberLevels members + 1
  | _ => 1

/-- The levels of the deepest item. -/
def itemLevels : List Json → Nat
  | [] => 0
  | v :: vs => max (levels v) (itemLevels vs)

/-- The levels of the deepest member. -/
def memberLevels : List (String × Json) → Nat
  | [] => 0
  | (_, v) :: ms => max (levels v) (memberLevels ms)

end

mutual

/-- The whole numbers in a value. -/
def wholeNumbers : Json → List Int
  | .int n => [n]
  | .list items => itemNumbers items
  | .object members => memberNumbers members
  | _ => []

/-- The whole numbers in list items. -/
def itemNumbers : List Json → List Int
  | [] => []
  | v :: vs => wholeNumbers v ++ itemNumbers vs

/-- The whole numbers in object members. -/
def memberNumbers : List (String × Json) → List Int
  | [] => []
  | (_, v) :: ms => wholeNumbers v ++ memberNumbers ms

end

/-- All of the numbers can be written. -/
def Writable (numbers : List Int) : Prop := ∀ n ∈ numbers, Text.isWritable n = true

/-- There is room for so many levels. -/
def Fits (room : Option Nat) (levels : Nat) : Prop := ∀ r ∈ room, levels ≤ r

/-- A value that can be spelled where there is room for so many levels. -/
structure Spellable (room : Option Nat) (v : Json) : Prop where
  /-- Its whole numbers are not too long. -/
  writable : Writable v.wholeNumbers
  /-- There is room for its levels. -/
  fits : Fits room v.levels

/-- A value that can be put in words: a text, or a value that can be spelled. -/
def HasWords (room : Option Nat) (v : Json) : Prop := (∃ s, v = .text s) ∨ v.Spellable room

/-! ## Nothing else keeps a value from being spelled -/

theorem writable_append {ns ms : List Int} : Writable (ns ++ ms) ↔ Writable ns ∧ Writable ms :=
  List.forall_mem_append

theorem fits_max {room : Option Nat} {m n : Nat} :
    Fits room (max m n) ↔ Fits room m ∧ Fits room n := by
  simp only [Fits, Nat.max_le]
  exact ⟨fun h => ⟨fun r hr => (h r hr).1, fun r hr => (h r hr).2⟩,
    fun h r hr => ⟨h.1 r hr, h.2 r hr⟩⟩

/-- One level more needs room for one more. -/
theorem fits_succ {room : Option Nat} {n : Nat} :
    Fits room (n + 1) ↔ room ≠ some 0 ∧ Fits (inside room) n := by
  cases room with
  | none => simp [Fits, inside]
  | some r =>
    simp only [Fits, inside, Option.mem_def, Option.map_some, Option.some.injEq, forall_eq', ne_eq]
    omega

theorem fits_zero {room : Option Nat} : Fits room 0 := fun _ _ => Nat.zero_le _

theorem levels_pos (v : Json) : 0 < v.levels := by
  cases v <;> simp [levels]

theorem not_fits_of_full (v : Json) : ¬ Fits (some 0) v.levels := by
  intro hfits
  have hnone := hfits 0 rfl
  have hsome := v.levels_pos
  omega

/-- A value without parts needs room for itself only. -/
theorem fits_one {room : Option Nat} : Fits room 1 ↔ room ≠ some 0 := by
  rw [fits_succ, and_iff_left fits_zero]

theorem unspellable?_some_zero (v : Json) : unspellable? (some 0) v = some (.noRoom "repr") := by
  cases v <;> rfl

section room
variable {room : Option Nat} (hroom : room ≠ some 0)
include hroom

theorem unspellable?_int (n : Int) : unspellable? room (.int n)
    = if Text.isWritable n then none else some .longNumber := by
  rw [unspellable?]
  exact hroom

theorem unspellable?_list (items : List Json) :
    unspellable? room (.list items) = unspellableItem? (inside room) items := by
  rw [unspellable?]
  exact hroom

theorem unspellable?_object (members : List (String × Json)) :
    unspellable? room (.object members) = unspellableMember? (inside room) members := by
  rw [unspellable?]
  exact hroom

/-- A value without parts that is no whole number can be spelled. -/
theorem unspellable?_atom {v : Json} (hint : ∀ n, v ≠ .int n) (hlist : ∀ items, v ≠ .list items)
    (hobject : ∀ members, v ≠ .object members) : unspellable? room v = none := by
  rw [unspellable?] <;> assumption

end room

/-- Where there is room for a value itself, the rest is a matter of its parts. -/
theorem unspellable?_none_of_room {room : Option Nat} {v : Json}
    (h : room ≠ some 0 → (unspellable? room v = none ↔ Writable v.wholeNumbers ∧ Fits room v.levels)) :
    unspellable? room v = none ↔ Writable v.wholeNumbers ∧ Fits room v.levels := by
  by_cases hroom : room = some 0
  · subst hroom
    simp [unspellable?_some_zero, not_fits_of_full v]
  · exact h hroom

mutual

theorem unspellable?_none (room : Option Nat) :
    (v : Json) → (unspellable? room v = none ↔ Writable v.wholeNumbers ∧ Fits room v.levels)
  | .int n => unspellable?_none_of_room fun hroom => by
    simp only [unspellable?_int hroom, levels, fits_one, and_iff_left hroom]
    cases hn : Text.isWritable n <;> simp [wholeNumbers, Writable, hn]
  | .list items => unspellable?_none_of_room fun hroom => by
    rw [unspellable?_list hroom, unspellableItem?_none (inside room) items, levels, fits_succ,
      and_iff_right hroom, wholeNumbers]
  | .object members => unspellable?_none_of_room fun hroom => by
    rw [unspellable?_object hroom, unspellableMember?_none (inside room) members, levels, fits_succ,
      and_iff_right hroom, wholeNumbers]
  | .null | .bool _ | .float _ | .text _ => unspellable?_none_of_room fun hroom => by
    rw [unspellable?_atom hroom (by simp) (by simp) (by simp), levels, fits_one, and_iff_left hroom]
    · simp [wholeNumbers, Writable]
    all_goals simp

theorem unspellableItem?_none (room : Option Nat) : (items : List Json) →
    (unspellableItem? room items = none ↔ Writable (itemNumbers items) ∧ Fits room (itemLevels items))
  | [] => by simp [unspellableItem?, itemNumbers, itemLevels, Writable, fits_zero]
  | v :: vs => by
    rw [unspellableItem?, Option.or_eq_none_iff, unspellable?_none room v,
      unspellableItem?_none room vs, itemNumbers, itemLevels, writable_append, fits_max]
    exact and_and_and_comm

theorem unspellableMember?_none (room : Option Nat) : (members : List (String × Json)) →
    (unspellableMember? room members = none
      ↔ Writable (memberNumbers members) ∧ Fits room (memberLevels members))
  | [] => by simp [unspellableMember?, memberNumbers, memberLevels, Writable, fits_zero]
  | (_, v) :: ms => by
    rw [unspellableMember?, Option.or_eq_none_iff, unspellable?_none room v,
      unspellableMember?_none room ms, memberNumbers, memberLevels, writable_append, fits_max]
    exact and_and_and_comm

end

theorem spellable_iff {room : Option Nat} {v : Json} :
    v.Spellable room ↔ unspellable? room v = none := by
  rw [unspellable?_none]
  exact ⟨fun h => ⟨h.writable, h.fits⟩, fun h => ⟨h.1, h.2⟩⟩

theorem wordless?_of_ne_text {room : Option Nat} {v : Json} (htext : ∀ s, v ≠ .text s) :
    wordless? room v = if room = some 0 then some (.noRoom "str") else unspellable? room v := by
  rw [wordless?]
  exact htext

theorem wordless?_eq_none_iff {room : Option Nat} {v : Json} :
    wordless? room v = none ↔ v.HasWords room := by
  by_cases htext : ∃ s, v = .text s
  · obtain ⟨s, rfl⟩ := htext
    simp [wordless?, HasWords]
  · have hne : ∀ s, v ≠ .text s := fun s h => htext ⟨s, h⟩
    rw [HasWords, or_iff_right htext, wordless?_of_ne_text hne, spellable_iff]
    by_cases hroom : room = some 0
    · subst hroom
      simp [unspellable?_some_zero]
    · rw [if_neg hroom]

/-! ## What is told is so -/

/-- What is told holds of the numbers and levels of a value. -/
def Unspellable.HoldsOf (room : Option Nat) (numbers : List Int) (levels : Nat) : Unspellable → Prop
  | .longNumber => ¬ Writable numbers
  | .noRoom _ => ¬ Fits room levels

section cause
variable {room : Option Nat} {cause : Unspellable} {ns ms : List Int} {m n : Nat}

theorem Unspellable.HoldsOf.left (h : cause.HoldsOf room ns m) :
    cause.HoldsOf room (ns ++ ms) (max m n) := by
  cases cause with
  | longNumber => exact fun hall => h (writable_append.mp hall).1
  | noRoom word => exact fun hfits => h (fits_max.mp hfits).1

theorem Unspellable.HoldsOf.right (h : cause.HoldsOf room ms n) :
    cause.HoldsOf room (ns ++ ms) (max m n) := by
  cases cause with
  | longNumber => exact fun hall => h (writable_append.mp hall).2
  | noRoom word => exact fun hfits => h (fits_max.mp hfits).2

theorem Unspellable.HoldsOf.outside (h : cause.HoldsOf (inside room) ns n) :
    cause.HoldsOf room ns (n + 1) := by
  cases cause with
  | longNumber => exact h
  | noRoom word => exact fun hfits => h (fits_succ.mp hfits).2

end cause

mutual

theorem holdsOf_of_unspellable? {room : Option Nat} {cause : Unspellable} :
    (v : Json) → unspellable? room v = some cause → cause.HoldsOf room v.wholeNumbers v.levels
  | v, h => by
    by_cases hroom : room = some 0
    · subst hroom
      rw [unspellable?_some_zero] at h
      cases h
      exact not_fits_of_full v
    · match v with
      | .int n =>
        rw [unspellable?_int hroom] at h
        split at h
        · cases h
        · next hn =>
          cases h
          exact fun hall => hn (hall n (by simp [wholeNumbers]))
      | .list items =>
        rw [unspellable?_list hroom] at h
        exact (holdsOf_of_unspellableItem? items h).outside
      | .object members =>
        rw [unspellable?_object hroom] at h
        exact (holdsOf_of_unspellableMember? members h).outside
      | .null | .bool _ | .float _ | .text _ =>
        rw [unspellable?_atom hroom (by simp) (by simp) (by simp)] at h
        cases h

theorem holdsOf_of_unspellableItem? {room : Option Nat} {cause : Unspellable} :
    (items : List Json) → unspellableItem? room items = some cause →
      cause.HoldsOf room (itemNumbers items) (itemLevels items)
  | v :: vs, h => by
    rw [unspellableItem?] at h
    obtain h | ⟨-, h⟩ := Option.or_eq_some_iff.mp h
    · exact (holdsOf_of_unspellable? v h).left
    · exact (holdsOf_of_unspellableItem? vs h).right

theorem holdsOf_of_unspellableMember? {room : Option Nat} {cause : Unspellable} :
    (members : List (String × Json)) → unspellableMember? room members = some cause →
      cause.HoldsOf room (memberNumbers members) (memberLevels members)
  | (_, v) :: ms, h => by
    rw [unspellableMember?] at h
    obtain h | ⟨-, h⟩ := Option.or_eq_some_iff.mp h
    · exact (holdsOf_of_unspellable? v h).left
    · exact (holdsOf_of_unspellableMember? ms h).right

end

theorem holdsOf_of_wordless? {room : Option Nat} {cause : Unspellable} {v : Json}
    (h : wordless? room v = some cause) : cause.HoldsOf room v.wholeNumbers v.levels := by
  by_cases htext : ∃ s, v = .text s
  · obtain ⟨s, rfl⟩ := htext
    cases h
  · rw [wordless?_of_ne_text fun s h => htext ⟨s, h⟩] at h
    by_cases hroom : room = some 0
    · subst hroom
      cases h
      exact not_fits_of_full v
    · rw [if_neg hroom] at h
      exact holdsOf_of_unspellable? v h

/-! ## The parts of a value -/

theorem of_mem_items {v : Json} {items : List Json} (h : v ∈ items) :
    v.wholeNumbers ⊆ itemNumbers items ∧ v.levels ≤ itemLevels items := by
  induction items with
  | nil => cases h
  | cons w ws ih =>
    rw [itemNumbers, itemLevels]
    cases h with
    | head => exact ⟨List.subset_append_left _ _, Nat.le_max_left _ _⟩
    | tail _ h =>
      obtain ⟨hnumbers, hlevels⟩ := ih h
      exact ⟨List.Subset.trans hnumbers (List.subset_append_right _ _),
        hlevels.trans (Nat.le_max_right _ _)⟩

theorem of_lookup_members {key : String} {v : Json} {members : List (String × Json)}
    (h : lookup key members = some v) :
    v.wholeNumbers ⊆ memberNumbers members ∧ v.levels ≤ memberLevels members := by
  induction members with
  | nil => cases h
  | cons m ms ih =>
    obtain ⟨k, w⟩ := m
    rw [memberNumbers, memberLevels]
    by_cases hkey : k = key
    · have hsame : w = v := by simpa [lookup, hkey] using h
      subst hsame
      exact ⟨List.subset_append_left _ _, Nat.le_max_left _ _⟩
    · have hrest : lookup key ms = some v := by simpa [lookup, hkey] using h
      obtain ⟨hnumbers, hlevels⟩ := ih hrest
      exact ⟨List.Subset.trans hnumbers (List.subset_append_right _ _),
        hlevels.trans (Nat.le_max_right _ _)⟩

theorem Unspellable.HoldsOf.of_part {room : Option Nat} {cause : Unspellable} {v w : Json}
    (h : cause.HoldsOf room v.wholeNumbers v.levels) (hnumbers : v.wholeNumbers ⊆ w.wholeNumbers)
    (hlevels : v.levels ≤ w.levels) : cause.HoldsOf room w.wholeNumbers w.levels := by
  cases cause with
  | longNumber => exact fun hall => h fun n hn => hall n (hnumbers hn)
  | noRoom word => exact fun hfits => h fun r hr => hlevels.trans (hfits r hr)

/-- What keeps an item from being spelled is so of the list. -/
theorem Unspellable.HoldsOf.of_mem {room : Option Nat} {cause : Unspellable} {v : Json}
    {items : List Json} (h : cause.HoldsOf room v.wholeNumbers v.levels) (hv : v ∈ items) :
    cause.HoldsOf room (Json.list items).wholeNumbers (Json.list items).levels :=
  h.of_part (of_mem_items hv).1 ((of_mem_items hv).2.trans (Nat.le_succ _))

/-- What keeps a member from being spelled is so of the object. -/
theorem Unspellable.HoldsOf.of_lookup {room : Option Nat} {cause : Unspellable} {key : String}
    {v : Json} {members : List (String × Json)} (h : cause.HoldsOf room v.wholeNumbers v.levels)
    (hv : lookup key members = some v) :
    cause.HoldsOf room (Json.object members).wholeNumbers (Json.object members).levels :=
  h.of_part (of_lookup_members hv).1 ((of_lookup_members hv).2.trans (Nat.le_succ _))

end CallExcerpt.Json
