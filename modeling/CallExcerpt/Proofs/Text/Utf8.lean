import CallExcerpt.Text.Utf8
import Mathlib.Data.List.Basic
import Mathlib.Data.List.Induction
import Mathlib.Tactic.Common

/-! # What octets say

    The decoder that never fails reads UTF-8 as it is defined: by the octets
    of the characters. `Reads` says what some octets say so far and which of
    them wait at their end, without a decoder: the octets of a character say
    that character, the longest run of octets that could have begun one says
    the replacement character, and so does an octet that begins none.

    * `reads_iff_feed`: the decoder reads what the octets say, all of it, and
      holds what waits.
    * `means_iff_decodeLossy`: the same for octets that are all there.
    * `feed_append`: cuts do not matter.
    * `feed_encode`: a text is read from its own octets.
    * `exists_reads_of_prefix`: so is the beginning of a text from the beginning
      of its octets, wherever they are cut.
-/

namespace CallExcerpt.Text.Utf8

/-! ## The octets of a character -/

/-- The octets of a code point. -/
def spell (v : Nat) : List Nat :=
  if v ≤ 0x7F then [v]
  else if v ≤ 0x7FF then [v / 64 + 0xC0, v % 64 + 0x80]
  else if v ≤ 0xFFFF then [v / 4096 + 0xE0, v / 64 % 64 + 0x80, v % 64 + 0x80]
  else [v / 262144 + 0xF0, v / 4096 % 64 + 0x80, v / 64 % 64 + 0x80, v % 64 + 0x80]

theorem octets_encodeChar (c : Char) :
    (String.utf8EncodeChar c).map UInt8.toNat = spell c.toNat := by
  have hlt : c.toNat < 0x110000 := by
    rcases c.valid with h | h
    · exact Nat.lt_trans h (by decide)
    · exact h.2
  unfold String.utf8EncodeChar spell
  simp only [Char.toNat] at hlt ⊢
  split
  · simp only [List.map_cons, List.map_nil, UInt8.toNat_ofNat', List.cons.injEq, and_true]
    omega
  · split
    · simp only [List.map_cons, List.map_nil, UInt8.toNat_ofNat', List.cons.injEq, and_true]
      omega
    · split
      · simp only [List.map_cons, List.map_nil, UInt8.toNat_ofNat', List.cons.injEq, and_true]
        omega
      · simp only [List.map_cons, List.map_nil, UInt8.toNat_ofNat', List.cons.injEq, and_true]
        omega

/-- An octet that goes on with a character. -/
def Tail (b : Nat) : Prop := 0x80 ≤ b ∧ b ≤ 0xBF

/-- A second octet that goes on with what a first one began. It leaves out the long spellings, the
    surrogates and what lies beyond the last code point. -/
def Second (a b : Nat) : Prop :=
  Tail b ∧ (a = 0xE0 → 0xA0 ≤ b) ∧ (a = 0xED → b ≤ 0x9F) ∧ (a = 0xF0 → 0x90 ≤ b)
    ∧ (a = 0xF4 → b ≤ 0x8F)

/-- A run of octets that begins a character, or is one. -/
def Begun : List Nat → Prop
  | [] => True
  | [a] => a < 0x80 ∨ (0xC2 ≤ a ∧ a ≤ 0xF4)
  | [a, b] => (0xC2 ≤ a ∧ a ≤ 0xF4) ∧ Second a b
  | [a, b, c] => (0xE0 ≤ a ∧ a ≤ 0xF4) ∧ Second a b ∧ Tail c
  | [a, b, c, d] => (0xF0 ≤ a ∧ a ≤ 0xF4) ∧ Second a b ∧ Tail c ∧ Tail d
  | _ => False

theorem codePoint_one (a : Nat) : codePoint [a] = a := rfl

theorem codePoint_two (a b : Nat) : codePoint [a, b] = (a - 0xC0) * 64 + (b - 0x80) := rfl

theorem codePoint_three (a b c : Nat) :
    codePoint [a, b, c] = ((a - 0xE0) * 64 + (b - 0x80)) * 64 + (c - 0x80) := rfl

theorem codePoint_four (a b c d : Nat) :
    codePoint [a, b, c, d]
      = (((a - 0xF0) * 64 + (b - 0x80)) * 64 + (c - 0x80)) * 64 + (d - 0x80) := rfl

theorem lengthFrom_eq_some_iff {a n : Nat} :
    lengthFrom a = some n
      ↔ (n = 1 ∧ a < 0x80) ∨ (n = 2 ∧ 0xC2 ≤ a ∧ a ≤ 0xDF) ∨ (n = 3 ∧ 0xE0 ≤ a ∧ a ≤ 0xEF)
        ∨ (n = 4 ∧ 0xF0 ≤ a ∧ a ≤ 0xF4) := by
  unfold lengthFrom
  grind

theorem isWhole_one_iff {a : Nat} : isWhole [a] = true ↔ a < 0x80 := by
  simp [isWhole, lengthFrom_eq_some_iff]

theorem isWhole_two_iff {a b : Nat} : isWhole [a, b] = true ↔ 0xC2 ≤ a ∧ a ≤ 0xDF := by
  simp [isWhole, lengthFrom_eq_some_iff]

theorem isWhole_three_iff {a b c : Nat} : isWhole [a, b, c] = true ↔ 0xE0 ≤ a ∧ a ≤ 0xEF := by
  simp [isWhole, lengthFrom_eq_some_iff]

theorem isWhole_four_iff {a b c d : Nat} :
    isWhole [a, b, c, d] = true ↔ 0xF0 ≤ a ∧ a ≤ 0xF4 := by
  simp [isWhole, lengthFrom_eq_some_iff]

theorem continues_nil_iff {a : Nat} : continues [] a = true ↔ Begun [a] := by
  simp only [continues, lengthFrom, Begun]
  grind

theorem continues_one_iff {a b : Nat} : continues [a] b = true ↔ Second a b := by
  simp only [continues, secondRange, Second, Tail]
  grind

theorem continues_more_iff {a b c : Nat} {more : List Nat} :
    continues (a :: b :: more) c = true ↔ Tail c := by
  simp [continues, Tail]

/-- A run goes on exactly if it is no whole character and the octet may come next. -/
theorem begun_append_singleton_iff (held : List Nat) (b : Nat) :
    Begun (held ++ [b]) ↔ Begun held ∧ isWhole held = false ∧ continues held b = true := by
  rw [← Bool.not_eq_true]
  match held with
  | [] => simp [Begun, isWhole, continues_nil_iff]
  | [x] =>
    simp only [List.cons_append, List.nil_append, Begun, isWhole_one_iff, continues_one_iff]
    grind
  | [x, y] =>
    simp only [List.cons_append, List.nil_append, Begun, isWhole_two_iff, continues_more_iff]
    grind
  | [x, y, z] =>
    simp only [List.cons_append, List.nil_append, Begun, isWhole_three_iff, continues_more_iff]
    grind
  | [x, y, z, w] =>
    simp only [List.cons_append, List.nil_append, Begun, isWhole_four_iff]
    grind
  | _ :: _ :: _ :: _ :: _ :: _ => simp [Begun]

theorem begun_of_append {run tail : List Nat} (h : Begun (run ++ tail)) : Begun run := by
  induction tail using List.reverseRecOn with
  | nil => simpa using h
  | append_singleton tail b ih =>
    rw [← List.append_assoc, begun_append_singleton_iff] at h
    exact ih h.1

theorem not_isWhole_of_append {run tail : List Nat} (h : Begun (run ++ tail))
    (hne : tail ≠ []) : isWhole run = false := by
  obtain ⟨b, tail, rfl⟩ := List.exists_cons_of_ne_nil hne
  have hb : Begun ((run ++ [b]) ++ tail) := by simpa using h
  exact ((begun_append_singleton_iff run b).mp (begun_of_append hb)).2.1

/-- The octets of a code point are one whole character, and give the code point back. -/
theorem begun_spell {v : Nat} (hv : v.isValidChar) :
    Begun (spell v) ∧ isWhole (spell v) = true ∧ codePoint (spell v) = v := by
  have hv : v < 0xD800 ∨ (0xDFFF < v ∧ v < 0x110000) := hv
  unfold spell
  split_ifs with h1 h2 h3
  · exact ⟨Or.inl (by omega), isWhole_one_iff.mpr (by omega), rfl⟩
  · simp only [Begun, Second, Tail, isWhole_two_iff, codePoint_two]
    omega
  · simp only [Begun, Second, Tail, isWhole_three_iff, codePoint_three]
    omega
  · simp only [Begun, Second, Tail, isWhole_four_iff, codePoint_four]
    omega

/-- A whole character is the octets of its code point. -/
theorem spell_codePoint {run : List Nat} (hb : Begun run) (hw : isWhole run = true) :
    (codePoint run).isValidChar ∧ spell (codePoint run) = run := by
  show (codePoint run < 0xD800 ∨ (0xDFFF < codePoint run ∧ codePoint run < 0x110000)) ∧ _
  match run with
  | [] => cases hw
  | [a] =>
    have ha : a < 0x80 := isWhole_one_iff.mp hw
    show (a < 0xD800 ∨ _) ∧ spell a = [a]
    exact ⟨Or.inl (by omega), by rw [spell, if_pos (by omega)]⟩
  | [a, b] =>
    simp only [Begun, Second, Tail, isWhole_two_iff] at hb hw
    rw [codePoint_two, spell, if_neg (by omega), if_pos (by omega)]
    simp only [List.cons.injEq, and_true]
    omega
  | [a, b, c] =>
    simp only [Begun, Second, Tail, isWhole_three_iff] at hb hw
    rw [codePoint_three, spell, if_neg (by omega), if_neg (by omega), if_pos (by omega)]
    simp only [List.cons.injEq, and_true]
    omega
  | [a, b, c, d] =>
    simp only [Begun, Second, Tail] at hb
    rw [codePoint_four, spell, if_neg (by omega), if_neg (by omega), if_neg (by omega)]
    simp only [List.cons.injEq, and_true]
    omega
  | _ :: _ :: _ :: _ :: _ :: _ => cases hb

/-- The least octet that may come second. -/
def leastSecond (a : Nat) : Nat := if a = 0xE0 then 0xA0 else if a = 0xF0 then 0x90 else 0x80

theorem second_leastSecond (a : Nat) : Second a (leastSecond a) := by
  unfold Second Tail leastSecond
  split_ifs <;> omega

/-- What begins a character has an end that makes it one. -/
theorem exists_whole_of_begun {run : List Nat} (h : Begun run) :
    ∃ tail, Begun (run ++ tail) ∧ isWhole (run ++ tail) = true := by
  have htail : Tail 0x80 := ⟨Nat.le_refl _, by decide⟩
  -- one octet, with as many after it as it asks for; then what is begun with more octets
  have two : ∀ a b, 0xC2 ≤ a → a ≤ 0xF4 → Second a b →
      ∃ tail, Begun ([a, b] ++ tail) ∧ isWhole ([a, b] ++ tail) = true := by
    intro a b hlow hhigh hb
    by_cases h2 : a ≤ 0xDF
    · exact ⟨[], ⟨⟨hlow, hhigh⟩, hb⟩, isWhole_two_iff.mpr ⟨hlow, h2⟩⟩
    · by_cases h3 : a ≤ 0xEF
      · exact ⟨[0x80], ⟨⟨by omega, hhigh⟩, hb, htail⟩, isWhole_three_iff.mpr ⟨by omega, h3⟩⟩
      · exact ⟨[0x80, 0x80], ⟨⟨by omega, hhigh⟩, hb, htail, htail⟩,
          isWhole_four_iff.mpr ⟨by omega, hhigh⟩⟩
  match run, h with
  | [], _ => exact ⟨[0x20], Or.inl (by decide), by decide⟩
  | [a], h =>
    rcases h with h1 | ⟨hlow, hhigh⟩
    · exact ⟨[], Or.inl h1, isWhole_one_iff.mpr h1⟩
    · obtain ⟨tail, hb, hw⟩ := two a (leastSecond a) hlow hhigh (second_leastSecond a)
      exact ⟨leastSecond a :: tail, hb, hw⟩
  | [a, b], ⟨⟨hlow, hhigh⟩, hb⟩ => exact two a b hlow hhigh hb
  | [a, b, c], ⟨⟨hlow, hhigh⟩, hb, hc⟩ =>
    by_cases h3 : a ≤ 0xEF
    · exact ⟨[], ⟨⟨hlow, hhigh⟩, hb, hc⟩, isWhole_three_iff.mpr ⟨hlow, h3⟩⟩
    · exact ⟨[0x80], ⟨⟨by omega, hhigh⟩, hb, hc, htail⟩, isWhole_four_iff.mpr ⟨by omega, hhigh⟩⟩
  | [a, b, c, d], h => exact ⟨[], h, isWhole_four_iff.mpr h.1⟩

/-! ## What octets say -/

/-- A run that begins a character, or is one. -/
def Begins (run : List UInt8) : Prop := ∃ c : Char, run <+: String.utf8EncodeChar c

/-- A run that begins a character and lacks the rest of it. -/
def Unfinished (run : List UInt8) : Prop :=
  run ≠ [] ∧ ∃ (c : Char) (rest : List UInt8), rest ≠ [] ∧ String.utf8EncodeChar c = run ++ rest

/-- What may stand at the end of octets without saying anything: nothing, the beginning of a
    character, or that of a surrogate. -/
def Waits (run : List UInt8) : Prop :=
  run = [] ∨ Unfinished run ∨ isSurrogateStart (run.map UInt8.toNat) = true

/-- What octets say as far as they go, and those that wait at their end for more. -/
inductive Reads : List UInt8 → List Char → List UInt8 → Prop where
  /-- All that is left waits. -/
  | stop {rest : List UInt8} : Waits rest → Reads rest [] rest
  /-- A character. -/
  | char {c : Char} {octets rest : List UInt8} {text : List Char} :
      Reads octets text rest → Reads (String.utf8EncodeChar c ++ octets) (c :: text) rest
  /-- The longest run that could have begun a character. -/
  | broken {run octets rest : List UInt8} {b : UInt8} {text : List Char} :
      Unfinished run → ¬ Begins (run ++ [b]) → ¬ Waits (run ++ b :: octets) →
      Reads (b :: octets) text rest → Reads (run ++ b :: octets) (replacement :: text) rest
  /-- An octet that begins no character. -/
  | stray {b : UInt8} {octets rest : List UInt8} {text : List Char} :
      ¬ Begins [b] → Reads octets text rest → Reads (b :: octets) (replacement :: text) rest

/-- What octets say that are all there. -/
inductive Means : List UInt8 → List Char → Prop where
  /-- No octets say nothing. -/
  | nil : Means [] []
  /-- A character. -/
  | char {c : Char} {octets : List UInt8} {text : List Char} :
      Means octets text → Means (String.utf8EncodeChar c ++ octets) (c :: text)
  /-- The longest run that could have begun a character. -/
  | broken {run octets : List UInt8} {text : List Char} :
      Unfinished run → (∀ b ∈ octets.head?, ¬ Begins (run ++ [b])) → Means octets text →
      Means (run ++ octets) (replacement :: text)
  /-- An octet that begins no character. -/
  | stray {b : UInt8} {octets : List UInt8} {text : List Char} :
      ¬ Begins [b] → Means octets text → Means (b :: octets) (replacement :: text)

theorem toNat_injective : Function.Injective (List.map UInt8.toNat) :=
  List.map_injective_iff.mpr fun _ _ h => UInt8.toNat_inj.mp h

theorem toNat_ofNat {v : Nat} (h : v.isValidChar) : (Char.ofNat v).toNat = v := by
  rw [Char.ofNat, dif_pos h]
  rfl

/-- What is begun by octets is begun by those of a character. -/
theorem exists_encodeChar_of_begun {run : List UInt8} (h : Begun (run.map UInt8.toNat)) :
    ∃ (c : Char) (tail : List UInt8), String.utf8EncodeChar c = run ++ tail := by
  obtain ⟨tail, hb, hw⟩ := exists_whole_of_begun h
  obtain ⟨hvalid, hspell⟩ := spell_codePoint hb hw
  have hchar := octets_encodeChar (Char.ofNat (codePoint (run.map UInt8.toNat ++ tail)))
  rw [toNat_ofNat hvalid, hspell, List.map_eq_append_iff] at hchar
  obtain ⟨run', tail', heq, hrun, -⟩ := hchar
  exact ⟨_, tail', by rw [heq, toNat_injective hrun]⟩

theorem begins_iff {run : List UInt8} : Begins run ↔ Begun (run.map UInt8.toNat) := by
  constructor
  · rintro ⟨c, tail, htail⟩
    have hspell := begun_spell c.valid
    rw [← Char.toNat, ← octets_encodeChar, ← htail, List.map_append] at hspell
    exact begun_of_append hspell.1
  · intro h
    obtain ⟨c, tail, hc⟩ := exists_encodeChar_of_begun h
    exact ⟨c, tail, hc.symm⟩

theorem isWhole_encodeChar (c : Char) :
    Begun ((String.utf8EncodeChar c).map UInt8.toNat)
      ∧ isWhole ((String.utf8EncodeChar c).map UInt8.toNat) = true
      ∧ codePoint ((String.utf8EncodeChar c).map UInt8.toNat) = c.toNat := by
  rw [octets_encodeChar]
  exact begun_spell c.valid

theorem unfinished_iff {run : List UInt8} :
    Unfinished run
      ↔ run ≠ [] ∧ Begun (run.map UInt8.toNat) ∧ isWhole (run.map UInt8.toNat) = false := by
  constructor
  · rintro ⟨hne, c, rest, hrest, hc⟩
    have hb := (isWhole_encodeChar c).1
    rw [hc, List.map_append] at hb
    exact ⟨hne, begun_of_append hb, not_isWhole_of_append hb (by simpa using hrest)⟩
  · rintro ⟨hne, hb, hw⟩
    obtain ⟨c, tail, hc⟩ := exists_encodeChar_of_begun hb
    refine ⟨hne, c, tail, ?_, hc⟩
    rintro rfl
    have hwhole := (isWhole_encodeChar c).2.1
    rw [hc, List.append_nil, hw] at hwhole
    cases hwhole

/-- A run that is begun is a whole character or lacks the rest of one. -/
theorem eq_encodeChar_or_unfinished {run : List UInt8} (hne : run ≠ []) (h : Begins run) :
    (∃ c, run = String.utf8EncodeChar c) ∨ Unfinished run := by
  obtain ⟨c, tail, hc⟩ := h
  cases tail with
  | nil => exact .inl ⟨c, by simpa using hc⟩
  | cons b tail => exact .inr ⟨hne, c, b :: tail, by simp, hc.symm⟩

theorem isSurrogateStart_iff {held : List Nat} :
    isSurrogateStart held = true ↔ ∃ b, held = [0xED, b] ∧ 0xA0 ≤ b ∧ b ≤ 0xBF := by
  constructor
  · intro h
    unfold isSurrogateStart at h
    split at h
    · exact ⟨_, rfl, by simpa using h⟩
    · cases h
  · rintro ⟨b, rfl, hlow, hhigh⟩
    simp [isSurrogateStart, hlow, hhigh]

/-- The start of a surrogate is an octet that begins characters, and one that goes on with none of
    them and begins none. -/
theorem exists_of_isSurrogateStart {run : List UInt8}
    (h : isSurrogateStart (run.map UInt8.toNat) = true) :
    ∃ a b, run = [a, b] ∧ Unfinished [a] ∧ ¬ Begins [a, b] ∧ ¬ Begins [b] := by
  obtain ⟨x, hx, hlow, hhigh⟩ := isSurrogateStart_iff.mp h
  obtain ⟨a, b, rfl⟩ : ∃ a b, run = [a, b] := by
    rw [← List.length_eq_two, ← List.length_map UInt8.toNat, hx]
    rfl
  obtain ⟨ha, hb⟩ : a.toNat = 0xED ∧ b.toNat = x := by simpa using hx
  refine ⟨a, b, rfl, ?_, ?_, ?_⟩
  · rw [unfinished_iff, List.map_singleton, ha]
    exact ⟨by simp, Or.inr (by decide), by decide⟩
  · rw [begins_iff]
    rintro ⟨-, hsecond⟩
    have := hsecond.2.2.1 ha
    omega
  · rw [begins_iff]
    simp only [List.map_cons, List.map_nil, Begun]
    omega

/-! ## One octet more -/

theorem not_isSurrogateStart_of_begun {held : List Nat} (h : Begun held) :
    isSurrogateStart held = false := by
  rw [← Bool.not_eq_true, isSurrogateStart_iff]
  rintro ⟨b, rfl, hlow, -⟩
  have hhigh : b ≤ 0x9F := h.2.2.2.1 rfl
  omega

theorem start_of_not_begun {b : Nat} (h : ¬ Begun [b]) :
    Decoder.start b = ([replacement], {}) := by
  have hnone : lengthFrom b = none := by
    have hb := continues_nil_iff.not.mpr h
    simpa [continues] using hb
  rw [Decoder.start, hnone]

namespace Decoder

theorem step_nil (b : Nat) : step {} b = start b := rfl

/-- An octet that goes on with what is held. -/
theorem step_of_begun {held : List Nat} {b : Nat} (h : Begun (held ++ [b])) :
    step ⟨held⟩ b
      = if isWhole (held ++ [b]) then ([Char.ofNat (codePoint (held ++ [b]))], {})
        else ([], ⟨held ++ [b]⟩) := by
  cases held with
  | nil =>
    obtain ⟨n, hn⟩ : ∃ n, lengthFrom b = some n :=
      Option.isSome_iff_exists.mp (continues_nil_iff.mpr h)
    show start b = _
    by_cases h1 : n = 1
    · simp [start, hn, h1, isWhole, codePoint_one]
    · simp [start, hn, h1, isWhole]
  | cons a more =>
    obtain ⟨hheld, -, hcontinues⟩ := (begun_append_singleton_iff _ b).mp h
    have hsurrogate := not_isSurrogateStart_of_begun hheld
    simp [step, hcontinues, hsurrogate]

/-- An octet that nothing held can go on with. -/
theorem step_of_not_begun {held : List Nat} {b : Nat} (hne : held ≠ []) (hb : Begun held)
    (hw : isWhole held = false) (h : ¬ Begun (held ++ [b]))
    (hs : isSurrogateStart (held ++ [b]) = false) :
    step ⟨held⟩ b = (replacement :: (start b).1, (start b).2) := by
  have hcontinues : continues held b = false := by
    rw [begun_append_singleton_iff] at h
    simpa [hb, hw] using h
  have hempty : held.isEmpty = false := by simpa using hne
  have habandoned : abandoned held = [replacement] := by
    simp [abandoned, hempty, not_isSurrogateStart_of_begun hb]
  simp [step, hempty, hcontinues, hs, habandoned]

/-- The second octet of a surrogate waits. -/
theorem step_to_surrogate {held : List Nat} {b : Nat}
    (hs : isSurrogateStart (held ++ [b]) = true) :
    step ⟨held⟩ b = ([], ⟨held ++ [b]⟩) := by
  obtain ⟨x, hx, hlow, -⟩ := isSurrogateStart_iff.mp hs
  obtain ⟨rfl, rfl⟩ : held = [0xED] ∧ b = x := by
    have hsplit : held ++ [b] = [0xED] ++ [x] := hx
    simpa using List.append_inj' hsplit rfl
  have hcontinues : continues [0xED] b = false := by
    rw [← Bool.not_eq_true, continues_one_iff]
    intro hsecond
    have hhigh : b ≤ 0x9F := hsecond.2.2.1 rfl
    omega
  simp only [step, List.isEmpty_cons, Bool.false_eq_true, if_false, hcontinues, Bool.false_and, hs,
    if_true]

/-- The start of a surrogate is given up with the next octet, whatever that is. -/
theorem step_of_surrogate {held : List Nat} (hs : isSurrogateStart held = true) (b : Nat) :
    step ⟨held⟩ b = (replacement :: replacement :: (start b).1, (start b).2) := by
  obtain ⟨x, rfl, -⟩ := isSurrogateStart_iff.mp hs
  have hthree : isSurrogateStart [0xED, x, b] = false := rfl
  simp only [step, List.isEmpty_cons, Bool.false_eq_true, if_false, hs, Bool.not_true,
    Bool.and_false, List.cons_append, List.nil_append, hthree, abandoned, if_true]

/-- A character of one octet ends whatever is held. -/
theorem step_of_lt {b : Nat} (h : b < 0x80) (d : Decoder) :
    d.step b = (abandoned d.held ++ [Char.ofNat b], {}) := by
  have hstart : start b = ([Char.ofNat b], {}) := by
    have hone : lengthFrom b = some 1 := lengthFrom_eq_some_iff.mpr (.inl ⟨rfl, h⟩)
    simp [start, hone]
  have hs : ∀ held : List Nat, isSurrogateStart (held ++ [b]) = false := by
    intro held
    rw [← Bool.not_eq_true, isSurrogateStart_iff]
    rintro ⟨x, hx, hlow, -⟩
    have hsplit : held ++ [b] = [0xED] ++ [x] := hx
    obtain ⟨-, hbx⟩ : held = [0xED] ∧ b = x := by simpa using List.append_inj' hsplit rfl
    omega
  obtain ⟨held⟩ := d
  cases held with
  | nil => exact hstart
  | cons a more =>
    have hcontinues : continues (a :: more) b = false := by
      rw [← Bool.not_eq_true]
      cases more with
      | nil =>
        rw [continues_one_iff, Second, Tail]
        omega
      | cons x more =>
        rw [continues_more_iff, Tail]
        omega
    simp only [step, List.isEmpty_cons, Bool.false_eq_true, if_false, hcontinues, Bool.false_and,
      hs, hstart]

/-! ## Octets in a row -/

/-- Octets may come in two parts. -/
theorem feed_append (d : Decoder) (octets more : List UInt8) :
    d.feed (octets ++ more)
      = ((d.feed octets).1 ++ ((d.feed octets).2.feed more).1,
          ((d.feed octets).2.feed more).2) := by
  induction octets generalizing d with
  | nil => simp [feed]
  | cons b octets ih => simp [feed, ih]

theorem feed_cons (d : Decoder) (b : UInt8) (octets : List UInt8) :
    d.feed (b :: octets)
      = ((d.step b.toNat).1 ++ ((d.step b.toNat).2.feed octets).1,
          ((d.step b.toNat).2.feed octets).2) := rfl

theorem feed_singleton (d : Decoder) (b : UInt8) : d.feed [b] = d.step b.toNat := by
  simp [feed]

/-- What begins a character and lacks its rest waits. -/
theorem feed_of_begun {run : List UInt8} (hb : Begun (run.map UInt8.toNat))
    (hw : isWhole (run.map UInt8.toNat) = false) :
    feed {} run = ([], ⟨run.map UInt8.toNat⟩) := by
  induction run using List.reverseRecOn with
  | nil => rfl
  | append_singleton run b ih =>
    rw [List.map_append, List.map_singleton] at hb hw
    obtain ⟨hrun, hwhole, -⟩ := (begun_append_singleton_iff _ _).mp hb
    rw [feed_append, ih hrun hwhole, feed_singleton, step_of_begun hb, hw]
    simp

theorem feed_surrogateStart {run : List UInt8}
    (hs : isSurrogateStart (run.map UInt8.toNat) = true) :
    feed {} run = ([], ⟨run.map UInt8.toNat⟩) := by
  obtain ⟨a, b, rfl, ha, -, -⟩ := exists_of_isSurrogateStart hs
  obtain ⟨-, hbegun, hwhole⟩ := unfinished_iff.mp ha
  have hsplit : [a, b] = [a] ++ [b] := rfl
  rw [hsplit, feed_append, feed_of_begun hbegun hwhole, feed_singleton]
  show ([] ++ (step ⟨[a.toNat]⟩ b.toNat).1, (step ⟨[a.toNat]⟩ b.toNat).2) = _
  rw [step_to_surrogate hs]
  rfl

/-- The octets of a character give that character. -/
theorem feed_encodeChar (c : Char) : feed {} (String.utf8EncodeChar c) = ([c], {}) := by
  obtain ⟨hb, hw, hcode⟩ := isWhole_encodeChar c
  rcases List.eq_nil_or_concat (String.utf8EncodeChar c) with hnil | ⟨run, b, hrun⟩
  · simp [hnil, isWhole] at hw
  · rw [List.concat_eq_append] at hrun
    rw [hrun] at hb hw hcode ⊢
    rw [List.map_append, List.map_singleton] at hb hw hcode
    obtain ⟨hbegun, hwhole, -⟩ := (begun_append_singleton_iff _ _).mp hb
    rw [feed_append, feed_of_begun hbegun hwhole, feed_singleton, step_of_begun hb, hw, hcode]
    simp [Char.ofNat_toNat]

/-- A run that nothing goes on with gives the replacement character, and what follows is read afresh.
    The start of a surrogate at the very end still waits. -/
theorem feed_broken {run octets : List UInt8} {b : UInt8} (h : Unfinished run)
    (hb : ¬ Begins (run ++ [b]))
    (hmore : isSurrogateStart ((run ++ [b]).map UInt8.toNat) = true → octets ≠ []) :
    feed {} (run ++ b :: octets)
      = (replacement :: (feed {} (b :: octets)).1, (feed {} (b :: octets)).2) := by
  obtain ⟨hne, hbegun, hwhole⟩ := unfinished_iff.mp h
  have hheld : run.map UInt8.toNat ≠ [] := by simpa using hne
  have hnot : ¬ Begun (run.map UInt8.toNat ++ [b.toNat]) := by
    rw [begins_iff, List.map_append, List.map_singleton] at hb
    exact hb
  rw [List.map_append, List.map_singleton] at hmore
  rw [feed_append, feed_of_begun hbegun hwhole, feed_cons {} b octets, step_nil]
  by_cases hs : isSurrogateStart (run.map UInt8.toNat ++ [b.toNat]) = true
  · obtain ⟨next, octets, rfl⟩ := List.exists_cons_of_ne_nil (hmore hs)
    have hstart : start b.toNat = ([replacement], {}) := by
      rw [← List.map_singleton, ← List.map_append] at hs
      obtain ⟨x, y, hxy, -, -, hy⟩ := exists_of_isSurrogateStart hs
      have hsplit : run ++ [b] = [x] ++ [y] := hxy
      obtain ⟨-, rfl⟩ : run = [x] ∧ b = y := by simpa using List.append_inj' hsplit rfl
      exact start_of_not_begun fun hb => hy (begins_iff.mpr hb)
    rw [feed_cons, step_to_surrogate hs, hstart]
    simp only [feed_cons, step_of_surrogate hs, step_nil]
    simp
  · have hno := Bool.not_eq_true _ ▸ hs
    rw [feed_cons, step_of_not_begun hheld hbegun hwhole hnot hno]
    simp

theorem feed_stray {b : UInt8} (h : ¬ Begins [b]) (octets : List UInt8) :
    feed {} (b :: octets) = (replacement :: (feed {} octets).1, (feed {} octets).2) := by
  rw [feed_cons, step_nil, start_of_not_begun (fun hb => h (begins_iff.mpr hb))]
  rfl

theorem feed_char (c : Char) (octets : List UInt8) :
    feed {} (String.utf8EncodeChar c ++ octets) = (c :: (feed {} octets).1, (feed {} octets).2) := by
  rw [feed_append, feed_encodeChar]
  rfl

theorem feed_of_waits {run : List UInt8} (h : Waits run) :
    feed {} run = ([], ⟨run.map UInt8.toNat⟩) := by
  rcases h with rfl | hrun | hs
  · rfl
  · obtain ⟨-, hb, hw⟩ := unfinished_iff.mp hrun
    exact feed_of_begun hb hw
  · exact feed_surrogateStart hs

end Decoder

/-! ## Reading is what the decoder does -/

theorem feed_of_reads {octets rest : List UInt8} {text : List Char} (h : Reads octets text rest) :
    Decoder.feed {} octets = (text, ⟨rest.map UInt8.toNat⟩) := by
  induction h with
  | stop hwaits => exact Decoder.feed_of_waits hwaits
  | char _ ih => rw [Decoder.feed_char, ih]
  | broken hrun hb hwaits _ ih =>
    rw [Decoder.feed_broken hrun hb, ih]
    rintro hs rfl
    exact hwaits (.inr (.inr hs))
  | stray hb _ ih => rw [Decoder.feed_stray hb, ih]

/-- All octets say something, after whatever waits. -/
theorem exists_reads (octets : List UInt8) :
    ∀ run, Waits run → ∃ text rest, Reads (run ++ octets) text rest := by
  induction octets with
  | nil =>
    intro run hrun
    exact ⟨[], run, by simpa using Reads.stop hrun⟩
  | cons b octets ih =>
    -- an octet that goes on with a run makes it a character, or a run that waits
    have onward : ∀ run, Begins (run ++ [b]) →
        ∃ text rest, Reads (run ++ b :: octets) text rest := by
      intro run hb
      rcases eq_encodeChar_or_unfinished (by simp) hb with ⟨c, hc⟩ | hun
      · obtain ⟨text, rest, hreads⟩ := ih [] (.inl rfl)
        have hchar := Reads.char (c := c) hreads
        exact ⟨c :: text, rest, by simpa [← hc] using hchar⟩
      · obtain ⟨text, rest, hreads⟩ := ih (run ++ [b]) (.inr (.inl hun))
        exact ⟨text, rest, by simpa using hreads⟩
    have afresh : ∃ text rest, Reads (b :: octets) text rest := by
      by_cases hb : Begins [b]
      · exact onward [] hb
      · obtain ⟨text, rest, hreads⟩ := ih [] (.inl rfl)
        exact ⟨_, rest, .stray hb hreads⟩
    intro run hrun
    by_cases hwaits : Waits (run ++ b :: octets)
    · exact ⟨[], _, .stop hwaits⟩
    by_cases hb : Begins (run ++ [b])
    · exact onward run hb
    obtain ⟨text, rest, hreads⟩ := afresh
    rcases hrun with rfl | hun | hs
    · exact ⟨text, rest, hreads⟩
    · exact ⟨_, rest, .broken hun hb hwaits hreads⟩
    · obtain ⟨x, y, rfl, hx, hxy, hy⟩ := exists_of_isSurrogateStart hs
      have hafter : Reads (y :: b :: octets) (replacement :: text) rest := .stray hy hreads
      have hsplit : [x, y] ++ b :: octets = [x] ++ y :: b :: octets := rfl
      rw [hsplit] at hwaits ⊢
      exact ⟨_, rest, .broken hx hxy hwaits hafter⟩

theorem reads_iff_feed {octets rest : List UInt8} {text : List Char} :
    Reads octets text rest ↔ Decoder.feed {} octets = (text, ⟨rest.map UInt8.toNat⟩) := by
  constructor
  · exact feed_of_reads
  · intro h
    obtain ⟨text', rest', hreads⟩ := exists_reads octets [] (.inl rfl)
    have hfeed := feed_of_reads hreads
    rw [List.nil_append] at hreads hfeed
    rw [h, Prod.mk.injEq, Decoder.mk.injEq] at hfeed
    obtain ⟨rfl, hrest⟩ := hfeed
    rwa [toNat_injective hrest]

theorem decodeLossy_eq (octets : List UInt8) :
    decodeLossy octets
      = (Decoder.feed {} octets).1 ++ abandoned (Decoder.feed {} octets).2.held := rfl

/-- Nothing but replacements is read from octets that are given up. -/
theorem eq_replacement_of_mem_abandoned {held : List Nat} {c : Char} (h : c ∈ abandoned held) :
    c = replacement := by
  unfold abandoned at h
  split at h
  · cases h
  · split at h
    · simpa using h
    · simpa using h

theorem abandoned_of_unfinished {run : List UInt8} (h : Unfinished run) :
    abandoned (run.map UInt8.toNat) = [replacement] := by
  obtain ⟨hne, hb, -⟩ := unfinished_iff.mp h
  simp [abandoned, hne, not_isSurrogateStart_of_begun hb]

theorem abandoned_of_surrogateStart {held : List Nat} (h : isSurrogateStart held = true) :
    abandoned held = [replacement, replacement] := by
  obtain ⟨x, rfl, -⟩ := isSurrogateStart_iff.mp h
  rw [abandoned, h]
  rfl

/-- What some octets say so far, and what is given up for those that wait. -/
theorem means_of_reads {octets rest : List UInt8} {text : List Char} (h : Reads octets text rest) :
    Means octets (text ++ abandoned (rest.map UInt8.toNat)) := by
  induction h with
  | @stop rest hwaits =>
    rcases hwaits with rfl | hrun | hs
    · exact .nil
    · have hbroken : Means (rest ++ []) [replacement] := .broken hrun (by simp) .nil
      simpa [abandoned_of_unfinished hrun] using hbroken
    · rw [abandoned_of_surrogateStart hs]
      obtain ⟨a, b, rfl, ha, hab, hb⟩ := exists_of_isSurrogateStart hs
      have hsecond : Means [b] [replacement] := .stray hb .nil
      have hboth : Means ([a] ++ [b]) [replacement, replacement] :=
        .broken ha (by simpa using hab) hsecond
      exact hboth
  | char _ ih => exact .char ih
  | broken hrun hb _ _ ih => exact .broken hrun (by simpa using hb) ih
  | stray hb _ ih => exact .stray hb ih

theorem decodeLossy_of_waits {run : List UInt8} (h : Waits run) :
    decodeLossy run = abandoned (run.map UInt8.toNat) := by
  rw [decodeLossy_eq, Decoder.feed_of_waits h]
  rfl

theorem decodeLossy_char (c : Char) (octets : List UInt8) :
    decodeLossy (String.utf8EncodeChar c ++ octets) = c :: decodeLossy octets := by
  rw [decodeLossy_eq, Decoder.feed_char]
  rfl

theorem decodeLossy_stray {b : UInt8} (h : ¬ Begins [b]) (octets : List UInt8) :
    decodeLossy (b :: octets) = replacement :: decodeLossy octets := by
  rw [decodeLossy_eq, Decoder.feed_stray h]
  rfl

theorem decodeLossy_broken {run octets : List UInt8} (h : Unfinished run)
    (hnext : ∀ b ∈ octets.head?, ¬ Begins (run ++ [b])) :
    decodeLossy (run ++ octets) = replacement :: decodeLossy octets := by
  cases octets with
  | nil =>
    rw [List.append_nil, decodeLossy_of_waits (.inr (.inl h)), abandoned_of_unfinished h]
    rfl
  | cons b octets =>
    by_cases hmore : isSurrogateStart ((run ++ [b]).map UInt8.toNat) = true → octets ≠ []
    · rw [decodeLossy_eq, Decoder.feed_broken h (hnext b rfl) hmore]
      rfl
    · -- the start of a surrogate at the end: both of its octets are given up together
      obtain ⟨hs, rfl⟩ : isSurrogateStart ((run ++ [b]).map UInt8.toNat) = true ∧ octets = [] := by
        simpa using hmore
      rw [decodeLossy_of_waits (.inr (.inr hs)), abandoned_of_surrogateStart hs]
      obtain ⟨x, y, hxy, -, -, hy⟩ := exists_of_isSurrogateStart hs
      have hsplit : run ++ [b] = [x] ++ [y] := hxy
      obtain ⟨-, rfl⟩ : run = [x] ∧ b = y := by simpa using List.append_inj' hsplit rfl
      rw [decodeLossy_stray hy]
      rfl

theorem means_iff_decodeLossy {octets : List UInt8} {text : List Char} :
    Means octets text ↔ decodeLossy octets = text := by
  constructor
  · intro h
    induction h with
    | nil => rfl
    | char _ ih => rw [decodeLossy_char, ih]
    | broken hrun hnext _ ih => rw [decodeLossy_broken hrun hnext, ih]
    | stray hb _ ih => rw [decodeLossy_stray hb, ih]
  · rintro rfl
    obtain ⟨text, rest, hreads⟩ := exists_reads octets [] (.inl rfl)
    rw [List.nil_append] at hreads
    rw [decodeLossy_eq, feed_of_reads hreads]
    exact means_of_reads hreads

/-! ## Texts -/

/-- A text is read from its octets. -/
theorem feed_encode (s : String) : Decoder.feed {} (encode s) = (s.toList, {}) := by
  have hchars : ∀ cs : List Char,
      Decoder.feed {} (cs.flatMap String.utf8EncodeChar) = (cs, {}) := by
    intro cs
    induction cs with
    | nil => rfl
    | cons c cs ih => rw [List.flatMap_cons, Decoder.feed_char, ih]
  exact hchars s.toList

/-- Texts in a row are read from their octets in a row. -/
theorem feed_flatMap_encode (texts : List String) :
    Decoder.feed {} (texts.flatMap encode) = (texts.flatMap String.toList, {}) := by
  induction texts with
  | nil => rfl
  | cons text texts ih =>
    rw [List.flatMap_cons, Decoder.feed_append, feed_encode, ih]
    rfl

/-- The octets of texts in a row are those of their characters in a row. -/
theorem flatMap_encode (texts : List String) :
    texts.flatMap encode = (texts.flatMap String.toList).flatMap String.utf8EncodeChar := by
  rw [List.flatMap_assoc]
  rfl

/-! ## Beginnings of texts -/

/-- Octets that begin a text are those of whole characters of it, and perhaps a part of the next
    one. -/
theorem exists_reads_of_prefix {octets : List UInt8} {text : List Char}
    (h : octets <+: text.flatMap String.utf8EncodeChar) :
    ∃ front rest, front <+: text ∧ octets = front.flatMap String.utf8EncodeChar ++ rest
      ∧ (rest = [] ∨ Unfinished rest) ∧ Reads octets front rest := by
  induction text generalizing octets with
  | nil =>
    obtain rfl : octets = [] := by simpa using h
    exact ⟨[], [], List.prefix_rfl, rfl, .inl rfl, .stop (.inl rfl)⟩
  | cons c text ih =>
    have hwhole : ∀ more, more <+: text.flatMap String.utf8EncodeChar →
        octets = String.utf8EncodeChar c ++ more →
        ∃ front rest, front <+: c :: text ∧ octets = front.flatMap String.utf8EncodeChar ++ rest
          ∧ (rest = [] ∨ Unfinished rest) ∧ Reads octets front rest := by
      rintro more hmore rfl
      obtain ⟨front, rest, hfront, rfl, hrest, hreads⟩ := ih hmore
      refine ⟨c :: front, rest, ?_, ?_, hrest, .char hreads⟩
      · exact (List.prefix_cons_inj c).mpr hfront
      · simp
    obtain ⟨left, hleft⟩ := h
    rw [List.flatMap_cons] at hleft
    rcases List.append_eq_append_iff.mp hleft with ⟨lacking, hc, -⟩ | ⟨more, hc, hmore⟩
    · -- the octets end with the first character or within it
      by_cases hlacks : lacking = []
      · exact hwhole [] (List.nil_prefix) (by simpa [hlacks] using hc.symm)
      · have hrest : octets = [] ∨ Unfinished octets := by
          by_cases hempty : octets = []
          · exact .inl hempty
          · exact .inr ⟨hempty, c, lacking, hlacks, hc⟩
        exact ⟨[], octets, List.nil_prefix, rfl, hrest, .stop (hrest.imp_right .inl)⟩
    · exact hwhole more ⟨left, hmore.symm⟩ hc

/-- A text that begins with a character of one octet is read whole, whatever waits before it. -/
theorem feed_append_text (octets : List UInt8) {c : Char} (hc : c.toNat < 0x80)
    (text : List Char) :
    Decoder.feed {} (octets ++ (c :: text).flatMap String.utf8EncodeChar)
      = (decodeLossy octets ++ c :: text, {}) := by
  obtain ⟨b, hb, hcode⟩ : ∃ b, String.utf8EncodeChar c = [b] ∧ b.toNat = c.toNat := by
    have hspell := octets_encodeChar c
    rw [spell, if_pos (by omega)] at hspell
    exact List.map_eq_singleton_iff.mp hspell
  have hlow : b.toNat < 0x80 := by omega
  have hchar : Char.ofNat b.toNat = c := by rw [hcode, Char.ofNat_toNat]
  have htext : Decoder.feed {} (text.flatMap String.utf8EncodeChar) = (text, {}) := by
    have h := feed_encode (String.ofList text)
    rwa [encode, String.toList_ofList] at h
  rw [List.flatMap_cons, hb, List.singleton_append, Decoder.feed_append, Decoder.feed_cons,
    Decoder.step_of_lt hlow, hchar, htext, decodeLossy_eq]
  simp

end CallExcerpt.Text.Utf8
