import CallExcerpt.Proofs.Text.Utf8

/-! # Octets that are a text

    The decoder that says where it stops takes the octets of texts and nothing
    else. It holds the octets of a character that is not complete, and stops at
    the first octet that cannot come next, or at an end that cuts a character.

    * `decodeFrom_of_begun`, `decodeFrom_char`: the octets of one character.
    * `append_eq_of_decodeFrom`: what is decoded is all that there was.
    * `decode_eq_ok_iff`: both directions.
-/

namespace CallExcerpt.Text.Utf8

variable {octets : List UInt8} {cs : List Char}

theorem begun_nil : Begun (([] : List UInt8).map UInt8.toNat) := by simp [Begun]

theorem decodeFrom_nil (position : Nat) : decodeFrom position [] [] = .ok [] := rfl

theorem decodeFrom_of_continues (position : Nat) {held : List Nat} {b : UInt8}
    (h : continues held b.toNat = true) (octets : List UInt8) :
    decodeFrom position held (b :: octets)
      = if isWhole (held ++ [b.toNat]) then
          (decodeFrom (position + 1) [] octets).map
            (Char.ofNat (codePoint (held ++ [b.toNat])) :: ·)
        else decodeFrom (position + 1) (held ++ [b.toNat]) octets := by
  rw [decodeFrom.eq_def]
  exact if_pos h

/-- An octet that cannot come next ends it. -/
theorem decodeFrom_of_not_continues (position : Nat) {held : List Nat} {b : UInt8}
    (h : ¬ continues held b.toNat = true) (octets : List UInt8) :
    ∃ fault, decodeFrom position held (b :: octets) = .error fault := by
  rw [decodeFrom.eq_def]
  dsimp only
  rw [if_neg h]
  cases held with
  | nil => exact ⟨_, rfl⟩
  | cons lead held => exact ⟨_, rfl⟩

/-- What begins a character and lacks its rest is held. -/
theorem decodeFrom_of_begun (position : Nat) {run : List UInt8} (hb : Begun (run.map UInt8.toNat))
    (hw : isWhole (run.map UInt8.toNat) = false) (octets : List UInt8) :
    decodeFrom position [] (run ++ octets)
      = decodeFrom (position + run.length) (run.map UInt8.toNat) octets := by
  induction run using List.reverseRecOn generalizing octets with
  | nil => rfl
  | append_singleton run b ih =>
    rw [List.map_append, List.map_singleton] at hb hw ⊢
    obtain ⟨hrun, hwhole, hcontinues⟩ := (begun_append_singleton_iff _ _).mp hb
    rw [List.append_assoc, ih hrun hwhole, List.singleton_append,
      decodeFrom_of_continues _ hcontinues, hw, if_neg (by simp), List.length_append,
      List.length_singleton, Nat.add_assoc]

/-- The octets of a character give that character. -/
theorem decodeFrom_char (position : Nat) (c : Char) (octets : List UInt8) :
    decodeFrom position [] (String.utf8EncodeChar c ++ octets)
      = (decodeFrom (position + (String.utf8EncodeChar c).length) [] octets).map (c :: ·) := by
  obtain ⟨hb, hw, hcode⟩ := isWhole_encodeChar c
  rcases List.eq_nil_or_concat (String.utf8EncodeChar c) with hnil | ⟨run, b, hrun⟩
  · simp [hnil, isWhole] at hw
  · rw [List.concat_eq_append] at hrun
    rw [hrun] at hb hw hcode ⊢
    rw [List.map_append, List.map_singleton] at hb hw hcode
    obtain ⟨hbegun, hwhole, hcontinues⟩ := (begun_append_singleton_iff _ _).mp hb
    rw [List.append_assoc, decodeFrom_of_begun position hbegun hwhole, List.singleton_append,
      decodeFrom_of_continues _ hcontinues, hw, if_pos rfl, hcode, Char.ofNat_toNat,
      List.length_append, List.length_singleton, Nat.add_assoc]

theorem decodeFrom_flatMap (position : Nat) (cs : List Char) :
    decodeFrom position [] (cs.flatMap String.utf8EncodeChar) = .ok cs := by
  induction cs generalizing position with
  | nil => exact decodeFrom_nil position
  | cons c cs ih =>
    rw [List.flatMap_cons, decodeFrom_char, ih]
    rfl

/-- A run that is one whole character is the octets of the character of its code point. -/
theorem encodeChar_of_isWhole {run : List UInt8} (hb : Begun (run.map UInt8.toNat))
    (hw : isWhole (run.map UInt8.toNat) = true) :
    String.utf8EncodeChar (Char.ofNat (codePoint (run.map UInt8.toNat))) = run := by
  obtain ⟨hvalid, hspell⟩ := spell_codePoint hb hw
  apply toNat_injective
  rw [octets_encodeChar, toNat_ofNat hvalid, hspell]

/-- What is decoded is what was held, and all octets that came. -/
theorem append_eq_of_decodeFrom {position : Nat} {held : List UInt8}
    (hb : Begun (held.map UInt8.toNat)) (hw : isWhole (held.map UInt8.toNat) = false)
    (h : decodeFrom position (held.map UInt8.toNat) octets = .ok cs) :
    held ++ octets = cs.flatMap String.utf8EncodeChar := by
  induction octets generalizing position held cs with
  | nil =>
    cases held with
    | nil =>
      rw [List.map_nil, decodeFrom_nil, Except.ok.injEq] at h
      rw [← h]
      rfl
    | cons b held => cases h
  | cons b octets ih =>
    have hjoined : (held ++ [b]).map UInt8.toNat = held.map UInt8.toNat ++ [b.toNat] := by simp
    by_cases hcontinues : continues (held.map UInt8.toNat) b.toNat = true
    · rw [decodeFrom_of_continues _ hcontinues] at h
      have hbegun : Begun ((held ++ [b]).map UInt8.toNat) := by
        rw [hjoined]
        exact (begun_append_singleton_iff _ _).mpr ⟨hb, hw, hcontinues⟩
      rw [← hjoined] at h
      cases hwhole : isWhole ((held ++ [b]).map UInt8.toNat) with
      | true =>
        -- the character is complete, and the rest is read afresh
        rw [hwhole, if_pos rfl] at h
        cases hrest : decodeFrom (position + 1) [] octets with
        | error fault =>
          rw [hrest] at h
          cases h
        | ok more =>
          rw [hrest] at h
          cases h
          have hmore : [] ++ octets = more.flatMap String.utf8EncodeChar :=
            ih begun_nil rfl hrest
          rw [List.flatMap_cons, encodeChar_of_isWhole hbegun hwhole, ← hmore]
          simp
      | false =>
        rw [hwhole, if_neg (by simp)] at h
        rw [← ih hbegun hwhole h]
        simp
    · obtain ⟨fault, hfault⟩ := decodeFrom_of_not_continues position hcontinues octets
      rw [hfault] at h
      cases h

/-- The octets of a text, and nothing else, are decoded to it. -/
theorem decode_eq_ok_iff : decode octets = .ok cs ↔ octets = cs.flatMap String.utf8EncodeChar := by
  constructor
  · intro h
    have hall : [] ++ octets = cs.flatMap String.utf8EncodeChar :=
      append_eq_of_decodeFrom begun_nil rfl h
    exact hall
  · rintro rfl
    exact decodeFrom_flatMap 0 cs

end CallExcerpt.Text.Utf8
