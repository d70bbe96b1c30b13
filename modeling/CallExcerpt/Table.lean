/-! # Ordered tables

    Pairs of a key and a value in the order in which the keys came first.
    `List.lookup` is the view that the laws speak of.
-/

namespace CallExcerpt.Table

variable {κ β : Type} [DecidableEq κ]

/-- The table with a value for a key: a key that is there keeps its place, a new one goes last. -/
def put (key : κ) (value : β) : List (κ × β) → List (κ × β)
  | [] => [(key, value)]
  | (k, v) :: rest => if k = key then (k, value) :: rest else (k, v) :: put key value rest

/-- The table without a key. -/
def erase (key : κ) (table : List (κ × β)) : List (κ × β) := table.filter (·.1 ≠ key)

/-- The keys in their order. -/
def keys (table : List (κ × β)) : List κ := table.map (·.1)

@[simp] theorem lookup_put_self [BEq κ] [LawfulBEq κ] (key : κ) (value : β)
    (table : List (κ × β)) : (put key value table).lookup key = some value := by
  induction table with
  | nil => simp [put]
  | cons e rest ih =>
    obtain ⟨k, v⟩ := e
    by_cases h : k = key
    · simp [put, h]
    · have h' : (key == k) = false := by simpa using Ne.symm h
      simp [put, h, List.lookup_cons, h', ih]

theorem lookup_put_ne [BEq κ] [LawfulBEq κ] {key other : κ} (h : other ≠ key) (value : β)
    (table : List (κ × β)) : (put key value table).lookup other = table.lookup other := by
  induction table with
  | nil =>
    have h' : (other == key) = false := by simpa using h
    simp [put, List.lookup_cons, h']
  | cons e rest ih =>
    obtain ⟨k, v⟩ := e
    by_cases hk : k = key
    · have h' : (other == k) = false := by simpa [hk] using h
      subst hk
      simp [put, List.lookup_cons, h']
    · simp only [put, hk, if_false, List.lookup_cons, ih]

theorem lookup_erase_self (key : κ) (table : List (κ × β)) :
    (erase key table).lookup key = none := by
  rw [List.lookup_eq_none_iff]
  intro e he
  have hne : e.1 ≠ key := by simpa using (List.mem_filter.mp he).2
  simpa using Ne.symm hne

theorem lookup_erase_ne {key other : κ} (h : other ≠ key) (table : List (κ × β)) :
    (erase key table).lookup other = table.lookup other := by
  unfold erase
  induction table with
  | nil => rfl
  | cons e rest ih =>
    obtain ⟨k, v⟩ := e
    by_cases hk : k = key
    · have h' : (other == key) = false := by simpa using h
      simp [hk, List.lookup_cons, h', ← ih]
    · simp [hk, List.lookup_cons, ← ih]

theorem mem_keys_iff {key : κ} {table : List (κ × β)} :
    key ∈ keys table ↔ (table.lookup key).isSome = true := by
  rw [List.lookup_isSome_iff, keys, List.mem_map]
  constructor
  · rintro ⟨e, he, rfl⟩
    exact ⟨e, he, beq_self_eq_true _⟩
  · rintro ⟨e, he, hk⟩
    exact ⟨e, he, (eq_of_beq hk).symm⟩

end CallExcerpt.Table
