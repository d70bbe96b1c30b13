import CallExcerpt.Proofs.Request.Broken
import CallExcerpt.Proofs.Service.Serve

/-! # A sender that stops within a record

    Senders write their records on the pipe, and one of them stops within its
    record. The other records arrive as if nothing had happened, but for the
    one that comes next: it is read together with what was written before it,
    and refused. Nothing is done for a request that nobody sent.

    * `handleRecord_of_refused`: what is refused is logged, and nothing else is
      done.
    * `says_of_tail`, `says_of_torn`: what the octets say if the record is the
      last one, and if another one comes after it.
    * `refuses_broken_record`: what a receiver is told.
-/

namespace CallExcerpt.Service

open Inbox (IsRecord separatorOctet)
open Text (pieces)
open Text.Utf8 (Decoder decodeLossy)
open Wire (BrokenOff Refused recordSeparator)

/-- A record that is refused is logged as a failure of its sender, and leaves everything else as
    it was. -/
theorem handleRecord_of_refused (g : Graph) {text : String} (h : Refused text) (s : Station) :
    ∃ fault, Wire.decode text = .error fault
      ∧ handleRecord g text s
        = .ok [] { s with world := s.world.noted (failureNote (.record fault)) } := by
  obtain ⟨fault, hdecode, -⟩ := h
  exact ⟨fault, hdecode, handleRecord_of_unread hdecode⟩

variable {sent texts : List String} {q r : Request} {part : List UInt8}

theorem recordSeparator_not_mem_front (hq : Wire.Sendable q) {front : List Char}
    (h : front <+: (Wire.body q).toList) : recordSeparator ∉ front :=
  fun hmem => Wire.recordSeparator_not_mem_body hq (h.subset hmem)

/-- A record that breaks off at the end of the input is refused, unless nothing but its separator is
    missing. -/
theorem says_of_tail (hsent : List.Forall₂ IsRecord sent texts) (hq : Wire.Sendable q)
    (hpart : BrokenOff ((Wire.body q).push recordSeparator) part) :
    ∃ torn, Inbox.Says (sent.flatMap Text.Utf8.encode ++ part) (texts ++ [torn])
      ∧ (part = Text.Utf8.encode (Wire.body q) → torn = Wire.body q)
      ∧ (part ≠ Text.Utf8.encode (Wire.body q) → Refused torn) := by
  obtain ⟨cs, rest, hfront, -, hreads, hwhole⟩ := hpart.exists_reads
  have hno := recordSeparator_not_mem_front hq hfront
  refine ⟨String.ofList ('c' :: cs), ?_, ?_, ?_⟩
  · rw [Inbox.says_iff, Decoder.feed_append, Text.Utf8.feed_flatMap_encode,
      Text.Utf8.feed_of_reads hreads, Inbox.pieces_of_records_append hsent,
      Text.pieces_of_not_mem hno, Inbox.records_append, Inbox.records_of_records hsent,
      Inbox.records_cons List.mem_cons_self (by decide)]
    rfl
  · intro heq
    rw [hwhole.mpr heq, String.ofList_toList]
  · intro hne
    exact Wire.refused_front hq hfront fun heq => hne (hwhole.mp heq)

/-- A record that comes after one that broke off is refused together with it. -/
theorem says_of_torn {later texts' : List String} (hsent : List.Forall₂ IsRecord sent texts)
    (hq : Wire.Sendable q) (hpart : BrokenOff ((Wire.body q).push recordSeparator) part)
    (hr : Wire.Sendable r) (hlater : List.Forall₂ IsRecord later texts') :
    ∃ torn, Inbox.Says (sent.flatMap Text.Utf8.encode ++ part
          ++ (((Wire.body r).push recordSeparator) :: later).flatMap Text.Utf8.encode)
        (texts ++ torn :: texts')
      ∧ Refused torn := by
  obtain ⟨cs, rest, hfront, hrest, hreads, -⟩ := hpart.exists_reads
  obtain ⟨text, htext⟩ := Wire.body_eq_cons r
  -- what waits for the rest of its character is given up when the next record begins
  have hlossy : decodeLossy part = 'c' :: (cs ++ Text.Utf8.abandoned (rest.map UInt8.toNat)) := by
    rw [Text.Utf8.decodeLossy_eq, Text.Utf8.feed_of_reads hreads]
    rfl
  have hfeed : (Decoder.feed {} (part
        ++ (((Wire.body r).push recordSeparator) :: later).flatMap Text.Utf8.encode)).1
      = decodeLossy part ++ (Wire.body r).toList
        ++ recordSeparator :: later.flatMap String.toList := by
    rw [Text.Utf8.flatMap_encode, List.flatMap_cons, String.toList_push, htext, List.append_assoc,
      List.cons_append, Text.Utf8.feed_append_text part (by decide)]
    simp
  have hno : recordSeparator ∉ decodeLossy part ++ (Wire.body r).toList := by
    rw [hlossy, ← List.cons_append]
    intro hmem
    rcases List.mem_append.mp hmem with hbroken | hbody
    · rcases List.mem_append.mp hbroken with hread | hgiven
      · exact recordSeparator_not_mem_front hq hfront hread
      · exact absurd (Text.Utf8.eq_replacement_of_mem_abandoned hgiven) (by decide)
    · exact Wire.recordSeparator_not_mem_body hr hbody
  have hfirst : 'c' ∈ decodeLossy part ++ (Wire.body r).toList := by
    rw [hlossy]
    exact List.mem_cons_self
  refine ⟨String.ofList (decodeLossy part ++ (Wire.body r).toList), ?_, ?_⟩
  · rw [Inbox.says_iff, List.append_assoc, Decoder.feed_append, Text.Utf8.feed_flatMap_encode]
    show Inbox.records (pieces recordSeparator (_ ++ (Decoder.feed {} _).1)) = _
    rw [hfeed, Inbox.pieces_of_records_append hsent, Text.pieces_append_sep,
      Text.pieces_of_not_mem hno, Inbox.records_append, Inbox.records_of_records hsent,
      List.singleton_append, Inbox.records_cons hfirst (by decide), Inbox.pieces_of_records hlater,
      Inbox.records_append, Inbox.records_of_records hlater]
    have hnothing : Inbox.records [[]] = [] := by decide
    rw [hnothing, List.append_nil]
  · rw [hlossy]
    exact Wire.refused_before hr (by decide)

/-! ## From the senders to the receiver -/

/-- What was written lacks nothing but the separator at the end of the record. -/
theorem lacks_separator_iff (q : Request) (part : List UInt8) :
    part ++ [separatorOctet] = Text.Utf8.encode ((Wire.body q).push recordSeparator)
      ↔ part = Text.Utf8.encode (Wire.body q) := by
  rw [Wire.encode_push_recordSeparator, Inbox.encodeChar_recordSeparator, List.append_left_inj]

/-- Requests are sent as records in order, but the sender of one of them stops within its record.
    Whatever the cuts, the waits in vain and the openings between them, at the end of the input
    every request before that one was told, and every request after it but the next one. The next
    one was told together with what was written of the broken record, and is refused. If there is
    none, what was written is told on its own: it is refused too, unless nothing but the separator
    at its end was missing. -/
theorem refuses_broken_record (base : Location) (c : Channel) (turns : List Turn)
    (before after : List Request) (sent later : List String) (q : Request) (record : String)
    (part : List UInt8)
    (hsent : List.Forall₂ (fun r record => Wire.encode r = .ok record) before sent)
    (hlater : List.Forall₂ (fun r record => Wire.encode r = .ok record) after later)
    (hencode : Wire.encode q = .ok record) (hpart : BrokenOff record part)
    (hopen : c.reader.isSome) (hfresh : c.inbox = {})
    (hplace : ∀ t ∈ turns, t.disk.InPlace base c.path) :
    ∃ k, Course.run base turns { channel := c } = .ok k
      ∧ ∀ body, k.reads = body ++ [.hangUp] → .hangUp ∉ body →
        Inbox.octetsOf body
          = sent.flatMap Text.Utf8.encode ++ part ++ later.flatMap Text.Utf8.encode →
        ∃ texts torn rest, k.told.reduceOption = texts ++ torn :: rest
          ∧ List.Forall₂ Tells before texts
          ∧ List.Forall₂ Tells after.tail rest
          ∧ (after ≠ [] → Refused torn)
          ∧ (after = [] → part ++ [separatorOctet] ≠ Text.Utf8.encode record → Refused torn)
          ∧ (after = [] → part ++ [separatorOctet] = Text.Utf8.encode record → Tells q torn) := by
  obtain ⟨k, hrun, hsays⟩ := Course.tells_what_octets_say base c turns hopen hfresh hplace
  refine ⟨k, hrun, ?_⟩
  intro body hreads hbody hoctets
  obtain ⟨htold, -, -⟩ := hsays body hreads hbody
  obtain ⟨hq, rfl⟩ := Wire.encode_eq_ok_iff.mp hencode
  have hrecords := isRecord_of_forall₂_encode hsent
  have htells := tells_of_forall₂_encode hsent
  cases hlater with
  | nil =>
    -- the broken record is the last one
    obtain ⟨torn, htail, hwhole, hbroken⟩ := says_of_tail hrecords hq hpart
    have hlast : k.told.reduceOption = before.map Wire.body ++ [torn] := by
      refine (htold _).mp ?_
      rw [hoctets, List.flatMap_nil, List.append_nil]
      exact htail
    refine ⟨before.map Wire.body, torn, [], hlast, htells, .nil, ?_, ?_, ?_⟩
    · intro hne
      exact absurd rfl hne
    · intro _ hlacks
      exact hbroken fun heq => hlacks ((lacks_separator_iff q part).mpr heq)
    · intro _ hlacks
      rw [hwhole ((lacks_separator_iff q part).mp hlacks)]
      exact (isRecord_of_encode hencode).2
  | @cons r record after later hr hlater =>
    -- another record comes after it, and makes no difference to those that follow
    obtain ⟨hsendable, rfl⟩ := Wire.encode_eq_ok_iff.mp hr
    obtain ⟨torn, hsaid, hrefused⟩ :=
      says_of_torn hrecords hq hpart hsendable (isRecord_of_forall₂_encode hlater)
    have hrest : k.told.reduceOption
        = before.map Wire.body ++ torn :: after.map Wire.body := by
      refine (htold _).mp ?_
      rw [hoctets]
      exact hsaid
    refine ⟨before.map Wire.body, torn, after.map Wire.body, hrest, htells,
      tells_of_forall₂_encode hlater, fun _ => hrefused, ?_, ?_⟩
    · intro hnil
      cases hnil
    · intro hnil
      cases hnil

/-- The front of a record. -/
def strayFront : List UInt8 := strayOctets.take 20

/-- Turns that find the front of a record, and then the whole record. -/
def tornTurns : List Turn := [
  .receive (Course.pipeDisk strayFront 1),
  .receive (Course.pipeDisk strayOctets 1),
  .receive (Course.pipeDisk [] 0)]

/-- What was read of the front of the record. -/
def strayText : List Char := (Wire.body strayRequest).toList.take 20

set_option maxRecDepth 1024 in
theorem refuses_torn_stray_request :
    Wire.encode strayRequest = .ok ((Wire.body strayRequest).push recordSeparator)
    ∧ BrokenOff ((Wire.body strayRequest).push recordSeparator) strayFront
    ∧ Course.pipeChannel.reader.isSome ∧ Course.pipeChannel.inbox = {}
    ∧ (∀ t ∈ tornTurns, t.disk.InPlace [] Course.pipeChannel.path)
    ∧ ∃ k torn, Course.run [] tornTurns { channel := Course.pipeChannel } = .ok k
      ∧ k.told.reduceOption = [torn] ∧ Refused torn := by
  have hencode : Wire.encode strayRequest = .ok ((Wire.body strayRequest).push recordSeparator) :=
    Wire.encode_of_sendable (by decide)
  have hbroken : BrokenOff ((Wire.body strayRequest).push recordSeparator) strayFront :=
    ⟨by decide, List.take_prefix 20 strayOctets, by decide⟩
  have hplace : ∀ t ∈ tornTurns, t.disk.InPlace [] Course.pipeChannel.path := by
    intro t ht
    simp only [tornTurns, List.mem_cons, List.not_mem_nil, or_false] at ht
    rcases ht with rfl | rfl | rfl <;> exact Course.pipeDisk_inPlace _ _
  obtain ⟨k, hrun, htells⟩ := refuses_broken_record [] Course.pipeChannel tornTurns []
    [strayRequest] [] [(Wire.body strayRequest).push recordSeparator] strayRequest _ _ .nil
    (.cons hencode .nil) hencode hbroken rfl rfl hplace
  -- the turns one by one: the front waits, and is told together with the record
  let torn := String.ofList (strayText ++ (Wire.body strayRequest).toList)
  have hfirst : Course.turn [] { channel := Course.pipeChannel }
        (.receive (Course.pipeDisk strayFront 1))
      = .ok ⟨{ Course.pipeChannel with inbox := { buffer := strayText } },
          [.octets strayFront], [none]⟩ := by rfl
  have hsecond : Course.turn [] ⟨{ Course.pipeChannel with inbox := { buffer := strayText } },
        [.octets strayFront], [none]⟩ (.receive (Course.pipeDisk strayOctets 1))
      = .ok ⟨Course.pipeChannel, [.octets strayFront, .octets strayOctets],
          [none, some torn]⟩ := by rfl
  have hk : Course.run [] tornTurns { channel := Course.pipeChannel }
      = .ok ⟨{ Course.pipeChannel with reader := some ⟨0, 1⟩ },
          [.octets strayFront, .octets strayOctets, .hangUp], [none, some torn, none]⟩ := by
    rw [Course.run, tornTurns, List.foldlM_cons, hfirst]
    show List.foldlM (Course.turn []) _ _ = _
    rw [List.foldlM_cons, hsecond]
    show (Course.turn [] _ _ >>= pure) = _
    rw [Course.turn, Course.ask, Course.receive_pipeDisk rfl (by decide)]
    rfl
  rw [hrun, Except.ok.injEq] at hk
  subst hk
  obtain ⟨texts, torn', rest, htold, htexts, hrest, hrefused, -, -⟩ :=
    htells [.octets strayFront, .octets strayOctets] rfl (by decide)
      (by simp [Inbox.octetsOf, Arrival.payload, strayOctets])
  obtain rfl := List.forall₂_nil_left_iff.mp htexts
  obtain rfl := List.forall₂_nil_left_iff.mp hrest
  exact ⟨hencode, hbroken, rfl, rfl, hplace, _, torn', hrun, htold, hrefused (List.cons_ne_nil _ _)⟩

end CallExcerpt.Service
