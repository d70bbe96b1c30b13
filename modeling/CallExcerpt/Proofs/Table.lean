import CallExcerpt.Proofs.Firsts
import CallExcerpt.Table

/-! # Keys of tables

    What putting entries into a table, and taking them out, does to the order
    of its keys, what is found after several entries in a row, and which
    entries can change places.
-/

namespace CallExcerpt.Table

variable {κ β : Type} [DecidableEq κ]

/-- A new key goes last. -/
theorem put_of_not_mem {key : κ} {table : List (κ × β)} (h : key ∉ keys table) (value : β) :
    put key value table = table ++ [(key, value)] := by
  induction table with
  | nil => rfl
  | cons e rest ih =>
    obtain ⟨k, v⟩ := e
    obtain ⟨hk, hrest⟩ : key ≠ k ∧ key ∉ keys rest := by simpa [keys] using h
    simp [put, Ne.symm hk, ih hrest]

theorem keys_put_of_not_mem {key : κ} {table : List (κ × β)} (h : key ∉ keys table) (value : β) :
    keys (put key value table) = keys table ++ [key] := by
  rw [put_of_not_mem h, keys, List.map_append]
  rfl

/-- A table after entries with different keys: each entry is found, and else what was there. -/
theorem lookup_foldl_put {entries : List (κ × β)} (h : (keys entries).Nodup) (table : List (κ × β))
    (key : κ) :
    (entries.foldl (fun t e => put e.1 e.2 t) table).lookup key
      = (entries.lookup key).or (table.lookup key) := by
  induction entries generalizing table with
  | nil => rfl
  | cons e rest ih =>
    obtain ⟨k, v⟩ := e
    obtain ⟨hfresh, hrest⟩ := List.nodup_cons.mp h
    rw [List.foldl_cons, ih hrest]
    by_cases hk : key = k
    · subst hk
      have hnone : rest.lookup key = none := by
        rw [← Option.not_isSome_iff_eq_none, ← mem_keys_iff]
        exact hfresh
      simp [hnone]
    · have hbeq : (key == k) = false := by simpa using hk
      simp [List.lookup_cons, hbeq, lookup_put_ne hk]

theorem keys_put_of_mem {key : κ} {table : List (κ × β)} (h : key ∈ keys table) (value : β) :
    keys (put key value table) = keys table := by
  induction table with
  | nil => cases h
  | cons e rest ih =>
    obtain ⟨k, v⟩ := e
    by_cases hk : k = key
    · simp [put, keys, hk]
    · have hrest : key ∈ keys rest := by simpa [keys, Ne.symm hk] using h
      have hput := ih hrest
      simp only [keys] at hput
      simp [put, keys, hk, hput]

theorem keys_put {table : List (κ × β)} (h : (keys table).Nodup) (key : κ) (value : β) :
    keys (put key value table) = (keys table ++ [key]).eraseDups := by
  rw [Firsts.eraseDups_concat, Firsts.eraseDups_of_nodup h]
  by_cases hmem : key ∈ keys table
  · rw [if_pos hmem, keys_put_of_mem hmem]
  · rw [if_neg hmem, keys_put_of_not_mem hmem]

theorem mem_keys_put_iff {key other : κ} {value : β} {table : List (κ × β)} :
    other ∈ keys (put key value table) ↔ other = key ∨ other ∈ keys table := by
  by_cases hmem : key ∈ keys table
  · rw [keys_put_of_mem hmem]
    exact ⟨.inr, fun h => h.elim (fun heq => heq ▸ hmem) id⟩
  · rw [keys_put_of_not_mem hmem, List.mem_append, List.mem_singleton, or_comm]

/-- Of two values for one key the later one stays. -/
theorem put_put (key : κ) (value later : β) (table : List (κ × β)) :
    put key later (put key value table) = put key later table := by
  induction table with
  | nil => simp [put]
  | cons e rest ih =>
    obtain ⟨k, v⟩ := e
    by_cases hk : k = key
    · simp [put, hk]
    · simp [put, hk, ih]

/-- To put what is there changes nothing. -/
theorem put_of_lookup [BEq κ] [LawfulBEq κ] {key : κ} {value : β} {table : List (κ × β)}
    (h : table.lookup key = some value) : put key value table = table := by
  induction table with
  | nil => cases h
  | cons e rest ih =>
    obtain ⟨k, v⟩ := e
    rw [List.lookup_cons] at h
    by_cases hk : k = key
    · have hbeq : (key == k) = true := by simpa using hk.symm
      rw [hbeq] at h
      obtain rfl : v = value := Option.some.inj h
      simp [put, hk]
    · have hbeq : (key == k) = false := by simpa using Ne.symm hk
      rw [hbeq] at h
      simp [put, hk, ih h]

/-- Values for two keys can change places if one of the keys is there, so that at most the other
    one goes last. -/
theorem put_comm {key other : κ} (hne : key ≠ other) {table : List (κ × β)}
    (hmem : key ∈ keys table) (value value' : β) :
    put key value (put other value' table) = put other value' (put key value table) := by
  induction table with
  | nil => cases hmem
  | cons e rest ih =>
    obtain ⟨k, v⟩ := e
    by_cases hk : k = key
    · subst hk
      simp [put, hne]
    · by_cases ho : k = other
      · subst ho
        simp [put, hk]
      · have hrest : key ∈ keys rest := by simpa [keys, Ne.symm hk] using hmem
        simp [put, hk, ho, ih hrest]

theorem keys_erase (key : κ) (table : List (κ × β)) :
    keys (erase key table) = (keys table).filter (· ≠ key) := by
  simp only [keys, erase, List.filter_map]
  rfl

/-- Of a table that keeps some keys with all their values, these are found as before. -/
theorem lookup_filter [BEq κ] [LawfulBEq κ] (keep : κ → Bool) (key : κ) (table : List (κ × β)) :
    (table.filter fun e => keep e.1).lookup key = if keep key then table.lookup key else none := by
  induction table with
  | nil => simp
  | cons e rest ih =>
    obtain ⟨k, v⟩ := e
    by_cases hk : key = k
    · subst hk
      cases hkeep : keep key with
      | true => simp [hkeep]
      | false => simpa [hkeep] using ih
    · have hbeq : (key == k) = false := by simpa using hk
      rw [List.filter_cons, List.lookup_cons, hbeq]
      split
      · rw [List.lookup_cons, hbeq]
        exact ih
      · exact ih

/-- Where each key stands once, a table finds just its entries. -/
theorem lookup_eq_some_iff_mem {table : List (κ × β)} (h : (keys table).Nodup) {key : κ}
    {value : β} : table.lookup key = some value ↔ (key, value) ∈ table := by
  induction table with
  | nil => simp
  | cons e rest ih =>
    obtain ⟨k, v⟩ := e
    obtain ⟨hfresh, hrest⟩ := List.nodup_cons.mp h
    rw [List.mem_cons, ← ih hrest]
    by_cases hk : key = k
    · subst hk
      have hnone : rest.lookup key = none := by
        rw [← Option.not_isSome_iff_eq_none, ← mem_keys_iff]
        exact hfresh
      simp [hnone, eq_comm]
    · have hbeq : (key == k) = false := by simpa using hk
      simp [List.lookup_cons, hbeq, hk]

end CallExcerpt.Table
