import CallExcerpt.Proofs.Request.Wire
import CallExcerpt.Proofs.Success
import CallExcerpt.Proofs.Text.Utf8

/-! # Records that broke off

    A sender may stop within a record. What it has written is no request: until
    the last separator of fields has come there are too few fields, and after
    it the last flag is still missing. A record that follows does not make up
    for that, since its own fields come on top.

    * `Courteous`: all faults of a reading are told to whoever sent the text.
    * `exists_fields_of_decode`: what a text looks like that is a request.
    * `refused_front`: the front of a record is refused.
    * `refused_before`: so is a record with something before it.
    * `BrokenOff`: the octets that were written of a record, and what is read
      from them, the rest of their last character missing.
-/

namespace CallExcerpt.Wire

/-! ## Faults of readings -/

/-- The text is refused as a record. -/
def Refused (text : String) : Prop :=
  ∃ fault, decode text = .error fault ∧ (Failure.record fault).family = .config

/-- If the reading fails, the parameters that were sent are to blame. -/
def Courteous {α : Type} (x : Except Fault α) : Prop :=
  ∀ fault, x = .error fault → (Failure.record fault).family = .config

theorem courteous_ok {α : Type} (a : α) : Courteous (.ok a) := by
  intro fault h
  cases h

theorem courteous_error {α : Type} {fault : Fault}
    (h : (Failure.record fault).family = .config) :
    Courteous (.error fault : Except Fault α) := by
  intro other hother
  cases hother
  exact h

theorem Courteous.bind {α β : Type} {x : Except Fault α} {f : α → Except Fault β}
    (hx : Courteous x) (hf : ∀ a, Courteous (f a)) : Courteous (x >>= f) := by
  cases x with
  | error fault => exact courteous_error (hx fault rfl)
  | ok a => exact hf a

theorem courteous_decodeFlag (field text : String) : Courteous (decodeFlag field text) := by
  unfold decodeFlag
  split
  · exact courteous_ok true
  · split
    · exact courteous_ok false
    · exact courteous_error rfl

theorem courteous_decodeDirection (text : String) : Courteous (decodeDirection text) := by
  unfold decodeDirection
  split
  · exact courteous_ok _
  · exact courteous_error rfl

theorem courteous_decodeDepth (text : String) : Courteous (decodeDepth text) := by
  unfold decodeDepth
  split
  · exact courteous_ok _
  · split
    · exact courteous_ok _
    · exact courteous_error rfl

theorem courteous_decodeFields (texts : List String) : Courteous (decodeFields texts) := by
  unfold decodeFields
  split
  · refine (courteous_decodeDirection _).bind fun _ => (courteous_decodeDepth _).bind fun _ => ?_
    refine (courteous_decodeFlag _ _).bind fun _ => (courteous_decodeFlag _ _).bind fun _ => ?_
    refine (courteous_decodeFlag _ _).bind fun _ => (courteous_decodeFlag _ _).bind fun _ => ?_
    exact courteous_ok _
  · exact courteous_error rfl

/-- A text that is no record is refused as one: nothing else can go wrong with it. -/
theorem courteous_decode (text : String) : Courteous (decode text) := by
  unfold decode
  split
  · exact courteous_error rfl
  · split
    · exact courteous_decodeFields _
    · exact courteous_error rfl

/-- A text is refused unless it is read as a request. -/
theorem refused_of_not_ok {text : String} (h : ∀ r, decode text ≠ .ok r) : Refused text := by
  cases hdecode : decode text with
  | ok r => exact absurd hdecode (h r)
  | error fault => exact ⟨fault, hdecode, courteous_decode text fault hdecode⟩

/-! ## What is read as a request -/

theorem eq_encodeFlag_of_decodeFlag {field text : String} {b : Bool}
    (h : decodeFlag field text = .ok b) : text = encodeFlag b := by
  unfold decodeFlag at h
  split at h
  · next htext =>
    cases h
    exact htext
  · split at h
    · next htext =>
      cases h
      exact htext
    · cases h

/-- A request has eighteen fields, and the last one is a flag. -/
theorem fields_of_decodeFields {texts : List String} {r : Request}
    (h : decodeFields texts = .ok r) :
    texts.length = 18 ∧ texts.getLast? = some (encodeFlag r.keep) := by
  unfold decodeFields at h
  split at h
  · obtain ⟨direction, -, h⟩ := Success.of_bind h
    obtain ⟨maxDepth, -, h⟩ := Success.of_bind h
    obtain ⟨trim, -, h⟩ := Success.of_bind h
    obtain ⟨noExtern, -, h⟩ := Success.of_bind h
    obtain ⟨allLocations, -, h⟩ := Success.of_bind h
    obtain ⟨keep, hkeep, h⟩ := Success.of_bind h
    cases h
    refine ⟨rfl, ?_⟩
    rw [← eq_encodeFlag_of_decodeFlag hkeep]
    rfl
  · cases h

/-- What a text looks like that is read as a request: once the line ends and record separators
    around it are gone, it has eighteen separators of fields, the tag before the first one and a
    flag after the last one. -/
theorem exists_fields_of_decode {text : List Char} {r : Request}
    (h : decode (String.ofList text) = .ok r) :
    ∃ before inner after, text = before ++ inner ++ after
      ∧ (∀ c ∈ before, isAround c = true) ∧ (∀ c ∈ after, isAround c = true)
      ∧ inner.count fieldSeparator = 18
      ∧ (Text.pieces fieldSeparator inner).head? = some tag.toList
      ∧ (Text.pieces fieldSeparator inner).getLast? = some (encodeFlag r.keep).toList := by
  obtain ⟨before, after, htext, hbefore, hafter⟩ := Text.exists_around isAround text
  refine ⟨before, _, after, htext, hbefore, hafter, ?_⟩
  unfold decode at h
  rw [String.toList_ofList] at h
  generalize Text.trimBoth isAround text = inner at h
  cases hpieces : Text.pieces fieldSeparator inner with
  | nil => exact absurd hpieces (Text.pieces_ne_nil fieldSeparator inner)
  | cons first pieces =>
    rw [hpieces, List.map_cons] at h
    simp only at h
    split at h
    · next htag =>
      obtain ⟨hlength, hlast⟩ := fields_of_decodeFields h
      rw [List.length_map] at hlength
      rw [List.getLast?_map] at hlast
      refine ⟨?_, ?_, ?_⟩
      · have hcount := Text.length_pieces fieldSeparator inner
        rw [hpieces, List.length_cons, hlength] at hcount
        omega
      · rw [← htag, String.toList_ofList]
        rfl
      · obtain ⟨flag, hflag, htext⟩ := Option.map_eq_some_iff.mp hlast
        have hne : pieces ≠ [] := by
          intro hnil
          rw [hnil] at hflag
          cases hflag
        rw [List.getLast?_cons_of_ne_nil hne, hflag, ← htext, String.toList_ofList]
    · cases h

/-! ## The front of a record -/

theorem fieldSeparator_not_isAround : isAround fieldSeparator = false := by decide

theorem fieldSeparator_not_mem_of_around {cs : List Char} (h : ∀ c ∈ cs, isAround c = true) :
    fieldSeparator ∉ cs := by
  intro hmem
  have haround := h fieldSeparator hmem
  rw [fieldSeparator_not_isAround] at haround
  cases haround

section body
variable {r : Request}

theorem pieces_body_chars (h : Sendable r) :
    Text.pieces fieldSeparator (body r).toList = (tag :: fieldTexts r).map String.toList := by
  rw [← pieces_body h, List.map_map]
  simp [Function.comp_def]

theorem count_body (h : Sendable r) : (body r).toList.count fieldSeparator = 18 := by
  have hcount := Text.length_pieces fieldSeparator (body r).toList
  rw [pieces_body_chars h] at hcount
  have hlength : ((tag :: fieldTexts r).map String.toList).length = 19 := rfl
  omega

/-- A record begins with a character that does not stand around records. -/
theorem body_eq_cons (r : Request) : ∃ rest, (body r).toList = 'c' :: rest := by
  obtain ⟨middle, hmiddle⟩ := body_ends r
  refine ⟨"allslice/1".toList ++ middle ++ (encodeFlag r.keep).toList, ?_⟩
  rw [hmiddle]
  rfl

theorem eq_nil_of_around_append {before rest : List Char} {c : Char} {cs : List Char}
    (hbefore : ∀ c ∈ before, isAround c = true) (hc : isAround c = false)
    (h : before ++ rest = c :: cs) : before = [] := by
  cases before with
  | nil => rfl
  | cons b before =>
    obtain ⟨rfl, -⟩ := List.cons.inj h
    have hb := hbefore b List.mem_cons_self
    rw [hc] at hb
    cases hb

theorem length_encodeFlag (b : Bool) : (encodeFlag b).toList.length = 1 := by
  cases b
  · rfl
  · rfl

/-- The front of a record is no request: if it holds all separators of fields, nothing is left for
    the last flag. -/
theorem refused_front (h : Sendable r) {front : List Char} (hfront : front <+: (body r).toList)
    (hne : front ≠ (body r).toList) : Refused (String.ofList front) := by
  refine refused_of_not_ok ?_
  intro r' hdecode
  obtain ⟨before, inner, after, rfl, hbefore, hafter, hcount, -, hlast⟩ :=
    exists_fields_of_decode hdecode
  obtain ⟨more, hmore⟩ := hfront
  obtain rfl : before = [] := by
    obtain ⟨rest, hrest⟩ := body_eq_cons r
    rw [hrest, List.append_assoc, List.append_assoc] at hmore
    exact eq_nil_of_around_append hbefore (by decide) hmore
  rw [List.nil_append] at hmore hne
  -- all separators lie in what was read, so that the flag goes on to the end of the record
  have hno_after := fieldSeparator_not_mem_of_around hafter
  have htotal := count_body h
  rw [← hmore] at htotal
  simp only [List.count_append, hcount, List.count_eq_zero.mpr hno_after] at htotal
  have hno_more : fieldSeparator ∉ more := List.count_eq_zero.mp (by omega)
  have hno : fieldSeparator ∉ after ++ more := by
    rw [List.mem_append, not_or]
    exact ⟨hno_after, hno_more⟩
  have hflag : (encodeFlag r'.keep).toList ++ (after ++ more) = (encodeFlag r.keep).toList := by
    have h := pieces_body_chars h
    have hend := Text.getLast?_pieces_append hno inner
    rw [← List.append_assoc, hmore, h, hlast, List.getLast?_map] at hend
    exact (Option.some.inj hend).symm
  have hlengths := congrArg List.length hflag
  simp only [List.length_append, length_encodeFlag] at hlengths
  obtain rfl : more = [] := List.length_eq_zero_iff.mp (by omega)
  exact hne (by simpa using hmore)

/-! ## A record after something else -/

/-- A record with something before it is no request either: its fields are all there, but the first
    one is not the tag. -/
theorem refused_before (h : Sendable r) {c : Char} {cs : List Char} (hc : isAround c = false) :
    Refused (String.ofList (c :: cs ++ (body r).toList)) := by
  refine refused_of_not_ok ?_
  intro r' hdecode
  obtain ⟨before, inner, after, htext, hbefore, hafter, hcount, hfirst, -⟩ :=
    exists_fields_of_decode hdecode
  obtain rfl : before = [] := by
    rw [List.append_assoc, List.cons_append] at htext
    exact eq_nil_of_around_append hbefore hc htext.symm
  rw [List.nil_append] at htext
  -- the record has all separators that a request can have, so that none stands before it
  have htotal := congrArg (List.count fieldSeparator) htext
  have hno_after := fieldSeparator_not_mem_of_around hafter
  simp only [List.count_append, count_body h, hcount, List.count_eq_zero.mpr hno_after] at htotal
  have hno : fieldSeparator ∉ c :: cs := List.count_eq_zero.mp (by omega)
  have hmem : fieldSeparator ∈ inner := List.count_pos_iff.mp (by omega)
  have hhead := Text.head?_pieces_append hmem after
  rw [← htext, hfirst, Text.pieces_append_of_not_mem hno, pieces_body_chars h] at hhead
  have hlengths : (c :: cs ++ tag.toList).length = tag.toList.length :=
    congrArg List.length (Option.some.inj hhead)
  rw [List.length_append, List.length_cons] at hlengths
  omega

/-! ## Octets that were written -/

open Text.Utf8 (Reads Unfinished)

/-- Octets that were written of a record before its sender stopped: some, but not all. -/
structure BrokenOff (record : String) (octets : List UInt8) : Prop where
  begun : octets ≠ []
  front : octets <+: Text.Utf8.encode record
  lacking : octets ≠ Text.Utf8.encode record

theorem encode_push_recordSeparator (text : String) :
    Text.Utf8.encode (text.push recordSeparator)
      = Text.Utf8.encode text ++ String.utf8EncodeChar recordSeparator := by
  simp [Text.Utf8.encode]

/-- What is read from the octets of a record that broke off: characters from its front, and all of
    them only if nothing but the separator at its end is missing. -/
theorem BrokenOff.exists_reads {octets : List UInt8}
    (h : BrokenOff ((body r).push recordSeparator) octets) :
    ∃ cs rest, 'c' :: cs <+: (body r).toList ∧ (rest = [] ∨ Unfinished rest)
      ∧ Reads octets ('c' :: cs) rest
      ∧ ('c' :: cs = (body r).toList ↔ octets = Text.Utf8.encode (body r)) := by
  obtain ⟨hbegun, hfront, hlacking⟩ := h
  have hseparator : String.utf8EncodeChar recordSeparator = [0x1E] := by decide
  rw [encode_push_recordSeparator, hseparator] at hfront hlacking
  have hbody := (List.prefix_concat_iff.mp hfront).resolve_left hlacking
  obtain ⟨text, htext⟩ := body_eq_cons r
  have hfirst : String.utf8EncodeChar 'c' = [0x63] := by decide
  have hoctets : Text.Utf8.encode (body r) = 0x63 :: text.flatMap String.utf8EncodeChar := by
    rw [Text.Utf8.encode, htext, List.flatMap_cons, hfirst, List.singleton_append]
  rw [hoctets] at hbody
  -- the first octet is a character, which is there since something was written
  obtain ⟨more, rfl, hmore⟩ := (List.prefix_cons_iff.mp hbody).resolve_left hbegun
  obtain ⟨cs, rest, hcs, hsplit, hrest, hreads⟩ := Text.Utf8.exists_reads_of_prefix hmore
  have hall : Reads (String.utf8EncodeChar 'c' ++ more) ('c' :: cs) rest := .char hreads
  rw [hfirst, List.singleton_append] at hall
  refine ⟨cs, rest, ?_, hrest, hall, ?_⟩
  · rw [htext]
    exact (List.prefix_cons_inj 'c').mpr hcs
  · constructor
    · intro heq
      rw [htext] at heq
      obtain rfl : cs = text := (List.cons.inj heq).2
      have hlength : (cs.flatMap String.utf8EncodeChar).length ≤ more.length := by
        rw [hsplit, List.length_append]
        omega
      rw [hoctets, hmore.eq_of_length_le hlength]
    · intro heq
      have hwhole := Text.Utf8.feed_encode (body r)
      rw [← heq, Text.Utf8.feed_of_reads hall] at hwhole
      exact (Prod.mk.inj hwhole).1

end body

end CallExcerpt.Wire
