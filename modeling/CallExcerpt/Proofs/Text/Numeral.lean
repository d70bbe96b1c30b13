import CallExcerpt.Proofs.Text.Pieces
import CallExcerpt.Text.Numeral
import Mathlib.Data.Nat.Init

/-! # Whole numbers read back

    A whole number in plain decimal writing, with a minus sign if it is below
    zero, is read as itself, as long as it has not too many digits. A number
    that was read from any other spelling has no more digits in plain writing
    than its spelling had.
-/

namespace CallExcerpt.Text

/-! ## Digits -/

theorem isDigit_iff {c : Char} : c.isDigit = true ↔ 48 ≤ c.toNat ∧ c.toNat ≤ 57 := by
  simp only [Char.isDigit, Bool.and_eq_true, decide_eq_true_eq, UInt32.le_iff_toNat_le, Char.toNat]
  rfl

theorem digitValue?_of_isDigit {c : Char} (h : c.isDigit = true) :
    digitValue? c = some (c.toNat - 48) := by
  obtain ⟨hlow, hhigh⟩ := isDigit_iff.mp h
  have hfirst : zeroDigits.find? (fun z => z ≤ c.toNat && c.toNat < z + 10) = some 48 := by
    rw [zeroDigits, List.find?_cons_of_pos]
    simpa using ⟨hlow, by omega⟩
  rw [digitValue?, hfirst]
  rfl

theorem digitsOf?_of_isDigit {cs : List Char} (h : ∀ c ∈ cs, c.isDigit = true) :
    digitsOf? false cs = some (cs.map fun c => c.toNat - 48) := by
  induction cs with
  | nil => rfl
  | cons c cs ih =>
    rw [digitsOf?, digitValue?_of_isDigit (h c (by simp)),
      ih fun d hd => h d (List.mem_cons_of_mem c hd)]
    rfl

theorem digitsOf?_lead_of_isDigit {cs : List Char} (hne : cs ≠ [])
    (h : ∀ c ∈ cs, c.isDigit = true) :
    digitsOf? true cs = some (cs.map fun c => c.toNat - 48) := by
  cases cs with
  | nil => exact absurd rfl hne
  | cons c cs =>
    rw [digitsOf?, digitValue?_of_isDigit (h c (by simp)),
      digitsOf?_of_isDigit fun d hd => h d (List.mem_cons_of_mem c hd)]
    rfl

theorem ofDigits_map (cs : List Char) :
    ofDigits (cs.map fun c => c.toNat - 48) = Nat.ofDigitChars 10 cs 0 := by
  rw [ofDigits, List.foldl_map]
  rfl

/-! ## Decimal writing -/

theorem isDigit_of_mem_toDigits {n : Nat} {c : Char} (h : c ∈ Nat.toDigits 10 n) :
    c.isDigit = true :=
  Nat.isDigit_of_mem_toDigits (by decide) (by decide) h

theorem isWritable_iff {n : Int} : isWritable n = true ↔ n.natAbs < Nat.pow 10 maxDigits := by
  -- for any number of digits, so that the power stays as it is
  have hdigits : ∀ size, 0 < size →
      ((Nat.toDigits 10 n.natAbs).length ≤ size ↔ n.natAbs < Nat.pow 10 size) :=
    fun size hsize => Nat.length_toDigits_le_iff (by decide) hsize
  rw [isWritable, decide_eq_true_iff]
  exact hdigits maxDigits (by decide)

theorem readNatural?_toDigits {n : Nat} (h : (Nat.toDigits 10 n).length ≤ maxDigits) :
    readNatural? (Nat.toDigits 10 n) = some n := by
  have hdigits : digitsOf? true (Nat.toDigits 10 n)
      = some ((Nat.toDigits 10 n).map fun c => c.toNat - 48) :=
    digitsOf?_lead_of_isDigit Nat.toDigits_ne_nil fun _ => isDigit_of_mem_toDigits
  have hvalue : ofDigits ((Nat.toDigits 10 n).map fun c => c.toNat - 48) = n := by
    rw [ofDigits_map]
    exact Nat.ofDigitChars_toDigits (by decide) (by decide)
  simp only [readNatural?, hdigits, Option.bind_eq_bind, Option.bind_some, List.length_map, h,
    if_true, hvalue]

/-- The characters of a whole number in writing. -/
theorem toList_toString_int (n : Int) :
    (toString n).toList = (if n < 0 then ['-'] else []) ++ Nat.toDigits 10 n.natAbs := by
  cases n with
  | ofNat m =>
    have h : ¬ Int.ofNat m < 0 := by simp
    rw [if_neg h]
    show (Nat.repr m).toList = Nat.toDigits 10 m
    exact Nat.toList_repr
  | negSucc m =>
    rw [if_pos (Int.negSucc_lt_zero m)]
    show ("-" ++ Nat.repr (m + 1)).toList = ['-'] ++ Nat.toDigits 10 (m + 1)
    rw [String.toList_append, Nat.toList_repr]
    rfl

theorem mem_toString_int {n : Int} {c : Char} (h : c ∈ (toString n).toList) :
    c = '-' ∨ c.isDigit = true := by
  rw [toList_toString_int] at h
  rcases List.mem_append.mp h with hsign | hdigit
  · split at hsign
    · exact .inl (by simpa using hsign)
    · cases hsign
  · exact .inr (isDigit_of_mem_toDigits hdigit)

/-- Neither a sign nor a digit is a blank. -/
theorem isNumberBlank_toString_int {n : Int} {c : Char} (h : c ∈ (toString n).toList) :
    isNumberBlank c = false := by
  rcases mem_toString_int h with rfl | hdigit
  · decide
  · obtain ⟨hlow, hhigh⟩ := isDigit_iff.mp hdigit
    have hblank : isBlank c = false := by
      simp only [isBlank, Bool.or_eq_false_iff, Bool.and_eq_false_iff, decide_eq_false_iff_not]
      omega
    simp [isNumberBlank, hblank]

theorem readInteger?_toString {n : Int} (h : (Nat.toDigits 10 n.natAbs).length ≤ maxDigits) :
    readInteger? (toString n) = some n := by
  have htrim : trimBoth isNumberBlank (toString n).toList = (toString n).toList :=
    trimBoth_of_ends (fun c hc => isNumberBlank_toString_int (List.mem_of_mem_head? hc))
      fun c hc => isNumberBlank_toString_int (List.mem_of_mem_getLast? hc)
  have hread := readNatural?_toDigits h
  rw [readInteger?, htrim, toList_toString_int]
  by_cases hneg : n < 0
  · rw [if_pos hneg]
    show (readNatural? (Nat.toDigits 10 n.natAbs)).map (fun m => -Int.ofNat m) = some n
    rw [hread]
    simp only [Option.map_some, Option.some.injEq, Int.ofNat_eq_natCast]
    omega
  · rw [if_neg hneg, List.nil_append]
    -- the first digit is no sign
    obtain ⟨d, ds, hds⟩ := List.exists_cons_of_ne_nil (Nat.toDigits_ne_nil (b := 10) (n := n.natAbs))
    have hd : d.isDigit = true := isDigit_of_mem_toDigits (n := n.natAbs) (by simp [hds])
    have hvalue : (readNatural? (Nat.toDigits 10 n.natAbs)).map Int.ofNat = some n := by
      rw [hread]
      simp only [Option.map_some, Option.some.injEq, Int.ofNat_eq_natCast]
      omega
    rw [hds] at hvalue ⊢
    split
    case h_1 heq => simp_all
    case h_2 heq => simp_all
    case h_3 => exact hvalue

/-! ## Other spellings -/

theorem digitValue?_lt {c : Char} {d : Nat} (h : digitValue? c = some d) : d < 10 := by
  obtain ⟨z, hz, rfl⟩ := Option.map_eq_some_iff.mp h
  have hrange : z ≤ c.toNat ∧ c.toNat < z + 10 := by simpa using List.find?_some hz
  omega

theorem lt_of_digitsOf? {lead : Bool} {cs : List Char} {digits : List Nat}
    (h : digitsOf? lead cs = some digits) : ∀ d ∈ digits, d < 10 := by
  induction cs generalizing lead digits with
  | nil =>
    cases lead with
    | true => cases h
    | false =>
      cases h
      exact List.forall_mem_nil _
  | cons c cs ih =>
    rw [digitsOf?] at h
    split at h
    case h_1 d hd =>
      obtain ⟨rest, hrest, rfl⟩ := Option.map_eq_some_iff.mp h
      exact List.forall_mem_cons.mpr ⟨digitValue?_lt hd, ih hrest⟩
    case h_2 =>
      split at h
      case isTrue => exact ih h
      case isFalse => cases h

/-- A spelling begins with a digit. -/
theorem ne_nil_of_digitsOf? {cs : List Char} {digits : List Nat}
    (h : digitsOf? true cs = some digits) : digits ≠ [] := by
  cases cs with
  | nil => cases h
  | cons c cs =>
    rw [digitsOf?] at h
    split at h
    case h_1 d _ =>
      obtain ⟨rest, -, rfl⟩ := Option.map_eq_some_iff.mp h
      exact List.cons_ne_nil d rest
    case h_2 =>
      split at h
      case isTrue hlead => simp at hlead
      case isFalse => cases h

theorem length_toDigits_of_lt {d : Nat} (hd : d < 10) : (Nat.toDigits 10 d).length = 1 := by
  rw [Nat.toDigits_of_lt_base hd]
  rfl

/-- One more digit makes the plain writing longer by one at most. -/
theorem length_toDigits_mul_add_le (n : Nat) {d : Nat} (hd : d < 10) :
    (Nat.toDigits 10 (10 * n + d)).length ≤ (Nat.toDigits 10 n).length + 1 := by
  rcases Nat.eq_zero_or_pos n with rfl | hn
  · rw [Nat.mul_zero, Nat.zero_add, length_toDigits_of_lt hd]
    omega
  · rw [← Nat.toDigits_append_toDigits (by decide) hn hd, List.length_append,
      length_toDigits_of_lt hd]

theorem length_toDigits_foldl_le {digits : List Nat} (h : ∀ d ∈ digits, d < 10) (n : Nat) :
    (Nat.toDigits 10 (digits.foldl (fun n d => 10 * n + d) n)).length
      ≤ (Nat.toDigits 10 n).length + digits.length := by
  induction digits generalizing n with
  | nil => exact Nat.le_refl _
  | cons d digits ih =>
    obtain ⟨hd, hrest⟩ := List.forall_mem_cons.mp h
    have hstep := length_toDigits_mul_add_le n hd
    have hmore := ih hrest (10 * n + d)
    rw [List.foldl_cons, List.length_cons]
    omega

/-- Digits make a number that is written with no more of them: zeros at the front are lost. -/
theorem length_toDigits_ofDigits_le {digits : List Nat} (hne : digits ≠ [])
    (h : ∀ d ∈ digits, d < 10) : (Nat.toDigits 10 (ofDigits digits)).length ≤ digits.length := by
  cases digits with
  | nil => exact absurd rfl hne
  | cons d digits =>
    obtain ⟨hd, hrest⟩ := List.forall_mem_cons.mp h
    have hfirst := length_toDigits_of_lt hd
    have hmore := length_toDigits_foldl_le hrest (10 * 0 + d)
    rw [Nat.mul_zero, Nat.zero_add] at hmore
    rw [ofDigits, List.foldl_cons, List.length_cons, Nat.mul_zero, Nat.zero_add]
    omega

theorem length_toDigits_of_readNatural? {cs : List Char} {n : Nat}
    (h : readNatural? cs = some n) : (Nat.toDigits 10 n).length ≤ maxDigits := by
  unfold readNatural? at h
  obtain ⟨digits, hdigits, h⟩ := Option.bind_eq_some_iff.mp h
  split at h
  case isTrue hmax =>
    cases h
    exact (length_toDigits_ofDigits_le (ne_nil_of_digitsOf? hdigits)
      (lt_of_digitsOf? hdigits)).trans hmax
  case isFalse => cases h

/-- A number that was read can be written. -/
theorem length_toDigits_of_readInteger? {s : String} {n : Int} (h : readInteger? s = some n) :
    (Nat.toDigits 10 n.natAbs).length ≤ maxDigits := by
  unfold readInteger? at h
  split at h
  all_goals
    obtain ⟨m, hm, rfl⟩ := Option.map_eq_some_iff.mp h
    simpa using length_toDigits_of_readNatural? hm

end CallExcerpt.Text
