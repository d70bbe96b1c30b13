import CallExcerpt.Channel.Inbox
import CallExcerpt.Proofs.Text.Pieces
import CallExcerpt.Proofs.Text.Utf8
import Mathlib.Data.List.Forall2

/-! # What an inbox makes of what arrives

    An inbox settles record by record what the octets say, whatever the cuts
    between them: reading the octets and cutting the text at its record
    separators comes to the same as cutting the octets and reading each piece.

    * `Says`: the records that octets hold which came before the end of the
      input, in terms of the octets only.
    * `after_of_no_hangUp`, `says_iff`: what an inbox has at any moment, and
      that it settles what the octets say.
    * `withTold`: records that were taken count as if they were still there,
      so that taking changes nothing.
    * `after_of_brings`: an end of the input between records does nothing.
-/

namespace CallExcerpt

namespace Arrival

/-- The octets of an arrival. -/
def payload : Arrival → List UInt8
  | .octets bs => bs
  | .nothing | .hangUp => []

end Arrival

namespace Inbox

open Text (pieces)
open Text.Utf8 (Decoder Means Reads decodeLossy)

/-! ## Octets and records -/

/-- The octet of the record separator. -/
def separatorOctet : UInt8 := 0x1E

/-- The records that some octets hold at the end of the input: the pieces between separators, read
    as UTF-8, unless they are blank; at the end of the last piece octets may wait in vain. -/
def Says (octets : List UInt8) (records : List String) : Prop :=
  ∃ (texts : List (List Char)) (last : List Char) (rest : List UInt8),
    List.Forall₂ Means (octets.splitOn separatorOctet).dropLast texts
    ∧ Reads ((octets.splitOn separatorOctet).getLast?.getD []) last rest
    ∧ records = ((texts ++ [last]).filter fun t => !t.all Text.isBlank).map String.ofList

theorem encodeChar_recordSeparator :
    String.utf8EncodeChar Wire.recordSeparator = [separatorOctet] := by decide

theorem recordSeparator_not_mem_of_means {octets : List UInt8} {text : List Char}
    (h : Means octets text) (hno : separatorOctet ∉ octets) : Wire.recordSeparator ∉ text := by
  have hreplacement : Wire.recordSeparator ≠ Text.Utf8.replacement := by decide
  induction h with
  | nil => exact List.not_mem_nil
  | @char c octets text _ ih =>
    rw [List.mem_append, not_or] at hno
    rw [List.mem_cons, not_or]
    refine ⟨?_, ih hno.2⟩
    rintro rfl
    exact hno.1 (by simp [encodeChar_recordSeparator])
  | broken _ _ _ ih =>
    rw [List.mem_append, not_or] at hno
    exact List.not_mem_cons_of_ne_of_not_mem hreplacement (ih hno.2)
  | stray _ _ ih =>
    exact List.not_mem_cons_of_ne_of_not_mem hreplacement (ih (List.not_mem_of_not_mem_cons hno))

theorem recordSeparator_not_mem_decodeLossy {octets : List UInt8} (hno : separatorOctet ∉ octets) :
    Wire.recordSeparator ∉ decodeLossy octets :=
  recordSeparator_not_mem_of_means (Text.Utf8.means_iff_decodeLossy.mpr rfl) hno

theorem recordSeparator_not_mem_feed {octets : List UInt8} (hno : separatorOctet ∉ octets) :
    Wire.recordSeparator ∉ (Decoder.feed {} octets).1 := by
  intro hmem
  exact recordSeparator_not_mem_decodeLossy hno (List.mem_append_left _ hmem)

/-- What is read up to a separator does not depend on what comes after it. -/
theorem feed_separator (octets more : List UInt8) :
    Decoder.feed {} (octets ++ separatorOctet :: more)
      = (decodeLossy octets ++ Wire.recordSeparator :: (Decoder.feed {} more).1,
          (Decoder.feed {} more).2) := by
  have hseparator : Char.ofNat separatorOctet.toNat = Wire.recordSeparator := by decide
  rw [Decoder.feed_append, Decoder.feed_cons, Decoder.step_of_lt (by decide), hseparator,
    Text.Utf8.decodeLossy_eq]
  simp

/-- Reading the octets and cutting the text comes to the same as cutting the octets and reading
    each piece. -/
theorem pieces_feed (octets : List UInt8) :
    pieces Wire.recordSeparator (Decoder.feed {} octets).1
      = (octets.splitOn separatorOctet).dropLast.map decodeLossy
        ++ [(Decoder.feed {} ((octets.splitOn separatorOctet).getLast?.getD [])).1]
    ∧ (Decoder.feed {} octets).2
      = (Decoder.feed {} ((octets.splitOn separatorOctet).getLast?.getD [])).2 := by
  have hjoined : ∀ ps : List (List UInt8), ps ≠ [] → (∀ p ∈ ps, separatorOctet ∉ p) →
      pieces Wire.recordSeparator (Decoder.feed {} ([separatorOctet].intercalate ps)).1
          = ps.dropLast.map decodeLossy ++ [(Decoder.feed {} (ps.getLast?.getD [])).1]
        ∧ (Decoder.feed {} ([separatorOctet].intercalate ps)).2
          = (Decoder.feed {} (ps.getLast?.getD [])).2 := by
    intro ps hne hno
    induction ps with
    | nil => exact absurd rfl hne
    | cons p ps ih =>
      have hp := hno p List.mem_cons_self
      cases ps with
      | nil =>
        have hone := Text.pieces_of_not_mem (recordSeparator_not_mem_feed hp)
        simpa [List.intercalate] using hone
      | cons q qs =>
        obtain ⟨htexts, hheld⟩ := ih (List.cons_ne_nil _ _) fun r hr => hno r (.tail _ hr)
        have hsplit : [separatorOctet].intercalate (p :: q :: qs)
            = p ++ separatorOctet :: [separatorOctet].intercalate (q :: qs) := by
          rw [List.intercalate_cons_cons]
          simp
        rw [hsplit, feed_separator, Text.pieces_append_sep, htexts, hheld,
          Text.pieces_of_not_mem (recordSeparator_not_mem_decodeLossy hp)]
        simp
  have hback : [separatorOctet].intercalate (octets.splitOn separatorOctet) = octets :=
    List.intercalate_splitOn separatorOctet
  have h := hjoined (octets.splitOn separatorOctet) (List.splitOn_ne_nil _ _)
    fun _ hp => Text.not_mem_of_mem_splitOn hp
  rwa [hback] at h

theorem forall₂_means_iff {octets : List (List UInt8)} {texts : List (List Char)} :
    List.Forall₂ Means octets texts ↔ octets.map decodeLossy = texts := by
  have hiff : (Means : List UInt8 → List Char → Prop) = fun bs t => decodeLossy bs = t := by
    funext bs t
    exact propext Text.Utf8.means_iff_decodeLossy
  rw [hiff, ← List.forall₂_map_left_iff, List.forall₂_eq_eq_eq]

/-- Octets hold the records that are cut from what is read. -/
theorem says_iff {octets : List UInt8} {records : List String} :
    Says octets records
      ↔ Inbox.records (pieces Wire.recordSeparator (Decoder.feed {} octets).1) = records := by
  rw [(pieces_feed octets).1]
  constructor
  · rintro ⟨texts, last, rest, htexts, hlast, rfl⟩
    rw [forall₂_means_iff.mp htexts, Text.Utf8.reads_iff_feed.mp hlast]
    rfl
  · rintro rfl
    obtain ⟨last, rest, hlast⟩ :=
      Text.Utf8.exists_reads ((octets.splitOn separatorOctet).getLast?.getD []) [] (.inl rfl)
    rw [List.nil_append] at hlast
    refine ⟨_, last, rest, forall₂_means_iff.mpr rfl, hlast, ?_⟩
    rw [Text.Utf8.reads_iff_feed.mp hlast]
    rfl

/-! ## Arrivals in a row -/

/-- An inbox after some arrivals, with nothing taken. -/
def after (arrivals : List Arrival) : Inbox := arrivals.foldl accept {}

/-- The octets of some arrivals. -/
def octetsOf (arrivals : List Arrival) : List UInt8 := arrivals.flatMap Arrival.payload

@[simp]
theorem after_append_singleton (arrivals : List Arrival) (a : Arrival) :
    after (arrivals ++ [a]) = (after arrivals).accept a := by
  simp [after]

theorem octetsOf_append_singleton (arrivals : List Arrival) (a : Arrival) :
    octetsOf (arrivals ++ [a]) = octetsOf arrivals ++ a.payload := by
  simp [octetsOf]

/-- An inbox that has read some octets since the last end of the input. -/
def ofOctets (octets : List UInt8) : Inbox where
  decoder := (Decoder.feed {} octets).2
  buffer := (pieces Wire.recordSeparator (Decoder.feed {} octets).1).getLast?.getD []
  pending := records (pieces Wire.recordSeparator (Decoder.feed {} octets).1).dropLast

theorem records_append (ps qs : List (List Char)) :
    records (ps ++ qs) = records ps ++ records qs := by
  simp [records]

theorem addOctets_ofOctets (octets more : List UInt8) :
    (ofOctets octets).addOctets more = ofOctets (octets ++ more) := by
  have hne := Text.pieces_ne_nil Wire.recordSeparator
  simp only [addOctets, addText, ofOctets, Decoder.feed_append]
  -- the text that was read before settles all its pieces but the last
  rw [Text.pieces_append (Decoder.feed {} octets).1, List.dropLast_append_of_ne_nil (hne _),
    records_append, List.getLast?_append_of_ne_nil _ (hne _)]

/-- Whatever arrives before the input ends, its octets are read after the others. -/
theorem accept_ofOctets (octets : List UInt8) {a : Arrival} (ha : a ≠ .hangUp) :
    (ofOctets octets).accept a = ofOctets (octets ++ a.payload) := by
  cases a with
  | nothing =>
    show ofOctets octets = ofOctets (octets ++ [])
    rw [List.append_nil]
  | octets bs => exact addOctets_ofOctets octets bs
  | hangUp => exact absurd rfl ha

/-- Until the input ends, an inbox depends on nothing but the octets that were read. -/
theorem after_of_no_hangUp {arrivals : List Arrival} (h : .hangUp ∉ arrivals) :
    after arrivals = ofOctets (octetsOf arrivals) := by
  induction arrivals using List.reverseRecOn with
  | nil => rfl
  | append_singleton arrivals a ih =>
    rw [List.mem_append, not_or, List.mem_singleton] at h
    rw [after_append_singleton, ih h.1, octetsOf_append_singleton]
    exact accept_ofOctets _ (Ne.symm h.2)

/-- At the end of the input an inbox has settled what the octets say, and starts afresh. -/
theorem finish_ofOctets (octets : List UInt8) :
    (ofOctets octets).finish
      = { pending := records (pieces Wire.recordSeparator (Decoder.feed {} octets).1) } := by
  have hne := Text.pieces_ne_nil Wire.recordSeparator (Decoder.feed {} octets).1
  rw [finish, ofOctets, ← records_append, List.getLast?_eq_some_getLast hne, Option.getD_some,
    List.dropLast_append_getLast hne]

/-! ## Records that are taken -/

/-- An inbox as it would be if the records that were told had not been taken. -/
def withTold (told : List String) (i : Inbox) : Inbox := { i with pending := told ++ i.pending }

/-- What arrives does not depend on what was taken. -/
theorem accept_withTold (told : List String) (i : Inbox) (a : Arrival) :
    (withTold told i).accept a = withTold told (i.accept a) := by
  cases a with
  | nothing => rfl
  | octets bs => simp [accept, addOctets, addText, withTold]
  | hangUp => simp [accept, finish, withTold]

/-- What a receiver is told once it has looked, and the inbox after that. -/
def tell (i : Inbox) : Option String × Inbox :=
  match i.take? with
  | none => (none, i)
  | some (record, i') => (some record, i')

theorem withTold_tell (told : List String) (i : Inbox) :
    withTold (told ++ (tell i).1.toList) (tell i).2 = withTold told i := by
  cases hp : i.pending with
  | nil => simp [tell, take?, hp]
  | cons record rest => simp [tell, take?, hp, withTold]

/-! ## Whole records -/

/-- A record as it is sent: a text that is not blank and holds no separator, with the separator
    after it. -/
def IsRecord (record text : String) : Prop :=
  record = text.push Wire.recordSeparator ∧ Wire.recordSeparator ∉ text.toList
    ∧ ∃ c ∈ text.toList, Text.isBlank c = false

/-- Arrivals bring records: their octets in order, with the input ending between records only. -/
structure Brings (records : List String) (arrivals : List Arrival) : Prop where
  octets : octetsOf arrivals = records.flatMap Text.Utf8.encode
  ends : ∀ before, before ++ [.hangUp] <+: arrivals →
    ∃ sent, sent <+: records ∧ octetsOf before = sent.flatMap Text.Utf8.encode

section records
variable {sent texts : List String}

/-- Records in a row fall into their texts, with nothing after the last one. -/
theorem pieces_of_records (h : List.Forall₂ IsRecord sent texts) :
    pieces Wire.recordSeparator (sent.flatMap String.toList)
      = texts.map String.toList ++ [[]] := by
  induction h with
  | nil => rfl
  | cons hrecord _ ih =>
    obtain ⟨rfl, hno, -⟩ := hrecord
    rw [List.flatMap_cons, String.toList_push, List.append_assoc, List.singleton_append,
      Text.pieces_append_sep, Text.pieces_of_not_mem hno, ih]
    rfl

/-- Whatever comes after records in a row, they fall into their texts. -/
theorem pieces_of_records_append (h : List.Forall₂ IsRecord sent texts) (cs : List Char) :
    pieces Wire.recordSeparator (sent.flatMap String.toList ++ cs)
      = texts.map String.toList ++ pieces Wire.recordSeparator cs := by
  rw [Text.pieces_append, pieces_of_records h, List.dropLast_concat, List.getLast?_concat]
  rfl

/-- A piece that is not blank is kept. -/
theorem records_cons {cs : List Char} {c : Char} (hc : c ∈ cs) (hblank : Text.isBlank c = false)
    (pieces : List (List Char)) : records (cs :: pieces) = String.ofList cs :: records pieces := by
  have hcs : cs.all Text.isBlank = false := List.all_eq_false.mpr ⟨c, hc, by simp [hblank]⟩
  simp [records, hcs]

/-- None of the texts is blank, so all of them are kept. -/
theorem records_of_records (h : List.Forall₂ IsRecord sent texts) :
    records (texts.map String.toList) = texts := by
  induction h with
  | nil => rfl
  | cons hrecord _ ih =>
    obtain ⟨-, -, c, hc, hblank⟩ := hrecord
    rw [List.map_cons, records_cons hc hblank, String.ofList_toList, ih]

/-- An inbox that has read whole records holds their texts and nothing else. -/
theorem ofOctets_of_records (h : List.Forall₂ IsRecord sent texts) :
    ofOctets (sent.flatMap Text.Utf8.encode) = { pending := texts } := by
  have hkept := records_of_records h
  rw [ofOctets, Text.Utf8.feed_flatMap_encode, pieces_of_records h]
  simp [hkept]

/-- The end of the input changes nothing in an inbox that holds whole records only. -/
theorem finish_of_whole (texts : List String) :
    finish { pending := texts } = { pending := texts } := by
  simp [finish, records]

/-- An input that ends between records only is read as if it did not end at all. -/
theorem after_of_brings (h : List.Forall₂ IsRecord sent texts) {arrivals : List Arrival}
    (hbrings : Brings sent arrivals) : after arrivals = { pending := texts } := by
  -- along the arrivals, since what was read at an end must be known to be whole there
  have hprefixes : ∀ before, before <+: arrivals → after before = ofOctets (octetsOf before) := by
    intro before hbefore
    induction before using List.reverseRecOn with
    | nil => rfl
    | append_singleton before a ih =>
      have hfirst := ih ((List.prefix_append before [a]).trans hbefore)
      rw [after_append_singleton, hfirst, octetsOf_append_singleton]
      by_cases ha : a = .hangUp
      · subst ha
        obtain ⟨whole, hwhole, hoctets⟩ := hbrings.ends before hbefore
        obtain ⟨n, rfl⟩ : ∃ n, whole = sent.take n := ⟨_, List.prefix_iff_eq_take.mp hwhole⟩
        have htaken : List.Forall₂ IsRecord (sent.take n) (texts.take n) := List.forall₂_take n h
        show finish _ = ofOctets (_ ++ [])
        rw [List.append_nil, hoctets, ofOctets_of_records htaken]
        exact finish_of_whole _
      · exact accept_ofOctets _ ha
  rw [hprefixes arrivals List.prefix_rfl, hbrings.octets, ofOctets_of_records h]

end records

end Inbox

end CallExcerpt
