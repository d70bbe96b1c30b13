import CallExcerpt.Files.Disk

/-! # Compressed files are read back

    What is packed is read again, octet by octet; and without the whole of what
    stands at its end, a packed file gives nothing.

    * `ofOctets_toOctets`: a number in octets.
    * `Deflate.block_storedBlock`: one block.
    * `Deflate.blocks_storedBlocks`: all blocks, in the order in which they were
      made.
    * `unpack_pack`: the whole file.
    * `unpack_of_cut`: a file that is cut within its end.
    * `Content.unpack_of_compressed`, `Content.unpack_of_cut`: the same of what a
      file on a disk holds.
-/

namespace CallExcerpt

/-! ## Numbers in octets -/

namespace Gzip

theorem length_toOctets (size n : Nat) : (toOctets size n).length = size := by
  induction size generalizing n with
  | zero => rfl
  | succ size ih => rw [toOctets, List.length_cons, ih]

theorem ofOctets_toOctets {size n : Nat} (h : n < Nat.pow 256 size) :
    Deflate.ofOctets (toOctets size n) = n := by
  induction size generalizing n with
  | zero =>
    have hzero : n = 0 := by simpa using h
    rw [hzero]
    rfl
  | succ size ih =>
    have hhigh : n / 256 < Nat.pow 256 size := by
      rw [Nat.div_lt_iff_lt_mul (by decide)]
      exact h
    show (UInt8.ofNat n).toNat + 256 * Deflate.ofOctets (toOctets size (n / 256)) = n
    rw [ih hhigh, UInt8.toNat_ofNat']
    omega

theorem crc_lt (octets : List UInt8) : crc octets < Nat.pow 256 4 :=
  UInt32.toNat_lt _

/-- One block that holds octets as they are. -/
def storedBlock (isLast : Bool) (chunk : List UInt8) : List UInt8 :=
  (if isLast then 1 else 0)
    :: (toOctets 2 chunk.length ++ toOctets 2 (0xFFFF - chunk.length) ++ chunk)

theorem storedBlocks_of_le {octets : List UInt8} (h : octets.length ≤ 0xFFFF) :
    storedBlocks octets = storedBlock true octets := by
  have hchunk : octets.take 0xFFFF = octets := List.take_of_length_le h
  rw [storedBlocks]
  simp only [hchunk, if_pos h, storedBlock, if_true]

theorem storedBlocks_of_lt {octets : List UInt8} (h : ¬ octets.length ≤ 0xFFFF) :
    storedBlocks octets
      = storedBlock false (octets.take 0xFFFF) ++ storedBlocks (octets.drop 0xFFFF) := by
  rw [storedBlocks]
  simp only [if_neg h, storedBlock, Bool.false_eq_true, if_false]

end Gzip

/-! ## Blocks -/

namespace Deflate

open Gzip (toOctets storedBlock storedBlocks)

theorem octets_append (begun : List Bool) (front tail : List UInt8) :
    (octets front.length).run ⟨begun, front ++ tail⟩ = .ok front ⟨[], tail⟩ := by
  show octets front.length ⟨begun, front ++ tail⟩ = _
  have henough : ¬ (front ++ tail).length < front.length := by simp
  simp only [octets, if_neg henough, List.take_left, List.drop_left]

theorem run_require {isGood : Bool} (h : isGood = true) (flaw : Flaw) (i : Input) :
    (require isGood flaw).run i = .ok () i := by
  rw [require, if_pos h]
  rfl

theorem stored_eq (out : Array UInt8) (begun : List Bool) {chunk : List UInt8}
    (h : chunk.length ≤ 0xFFFF) (tail : List UInt8) :
    (stored out).run ⟨begun, toOctets 2 chunk.length
        ++ (toOctets 2 (0xFFFF - chunk.length) ++ (chunk ++ tail))⟩
      = .ok (out ++ chunk.toArray) ⟨[], tail⟩ := by
  have hlength : ofOctets (toOctets 2 chunk.length) = chunk.length :=
    Gzip.ofOctets_toOctets (Nat.lt_of_le_of_lt h (by decide))
  have hcomplement : ofOctets (toOctets 2 (0xFFFF - chunk.length)) = 0xFFFF - chunk.length :=
    Gzip.ofOctets_toOctets (Nat.lt_of_le_of_lt (Nat.sub_le _ _) (by decide))
  have hagree : decide (chunk.length + (0xFFFF - chunk.length) = 0xFFFF) = true :=
    decide_eq_true (by omega)
  have hfirst := octets_append begun (toOctets 2 chunk.length)
  have hsecond := octets_append [] (toOctets 2 (0xFFFF - chunk.length))
  rw [Gzip.length_toOctets] at hfirst hsecond
  simp only [stored, EStateM.run_bind, hfirst, hsecond, hlength, hcomplement,
    run_require hagree, octets_append, EStateM.run_pure]

/-- A block is read again, and nothing after it. -/
theorem block_storedBlock (out : Array UInt8) (isLast : Bool) {chunk : List UInt8}
    (h : chunk.length ≤ 0xFFFF) (tail : List UInt8) :
    block out ⟨[], storedBlock isLast chunk ++ tail⟩
      = .ok (isLast, out ++ chunk.toArray) ⟨[], tail⟩ := by
  let rest := toOctets 2 chunk.length
    ++ (toOctets 2 (0xFFFF - chunk.length) ++ (chunk ++ tail))
  have hoctets : storedBlock isLast chunk ++ tail = (if isLast then 1 else 0) :: rest := by
    simp [storedBlock, rest]
  -- the first octet says whether the block is the last one, and that it holds octets as they are
  have hbit : bit.run ⟨[], (if isLast then 1 else 0) :: rest⟩
      = .ok isLast ⟨List.replicate 7 false, rest⟩ := by
    cases isLast <;> rfl
  have hkind : (number 2).run ⟨List.replicate 7 false, rest⟩
      = .ok 0 ⟨List.replicate 5 false, rest⟩ := rfl
  rw [hoctets]
  show (block out).run _ = _
  simp only [block, EStateM.run_bind, hbit, hkind, held, EStateM.run_pure]
  rw [show (stored out).run ⟨List.replicate 5 false, rest⟩ = _ from stored_eq out _ h tail]

theorem blocks_of_last {out held : Array UInt8} {i j : Input}
    (h : block out i = .ok (true, held) j) : blocks out i = .ok held j := by
  rw [blocks]
  split
  case h_1 hblock => rw [hblock] at h; cases h
  case h_2 hblock => rw [hblock] at h; cases h; rfl
  case h_3 hblock => rw [hblock] at h; cases h

theorem blocks_of_more {out held : Array UInt8} {i j : Input}
    (h : block out i = .ok (false, held) j) : blocks out i = blocks held j := by
  rw [blocks]
  split
  case h_1 hblock => rw [hblock] at h; cases h
  case h_2 hblock => rw [hblock] at h; cases h
  case h_3 hblock => rw [hblock] at h; cases h; rfl

theorem blocks_storedBlocks (payload tail : List UInt8) (out : Array UInt8) :
    blocks out ⟨[], storedBlocks payload ++ tail⟩ = .ok (out ++ payload.toArray) ⟨[], tail⟩ := by
  induction hlength : payload.length using Nat.strongRecOn generalizing payload out with
  | ind n ih =>
    by_cases hle : payload.length ≤ 0xFFFF
    · rw [Gzip.storedBlocks_of_le hle]
      exact blocks_of_last (block_storedBlock out true hle tail)
    · have hchunk : (payload.take 0xFFFF).length ≤ 0xFFFF := List.length_take_le _ _
      have hshorter : (payload.drop 0xFFFF).length < n := by
        rw [List.length_drop]
        omega
      have hwhole : (payload.take 0xFFFF).toArray ++ (payload.drop 0xFFFF).toArray
          = payload.toArray := by
        simp
      rw [Gzip.storedBlocks_of_lt hle, List.append_assoc,
        blocks_of_more (block_storedBlock out false hchunk _), ih _ hshorter _ _ rfl,
        Array.append_assoc, hwhole]

theorem inflate_storedBlocks (payload tail : List UInt8) :
    inflate (storedBlocks payload ++ tail) = .ok (payload, tail) := by
  rw [inflate, blocks_storedBlocks]
  simp

end Deflate

/-! ## Files -/

namespace Gzip

/-- The header of a packed file. -/
def header : List UInt8 := magic ++ [8, 0, 0, 0, 0, 0, 0, 255]

theorem pack_eq (payload : List UInt8) :
    pack payload = header ++ (storedBlocks payload ++ trailer payload) := by
  simp [pack, header]

theorem afterHeader_header (octets : List UInt8) : afterHeader (header ++ octets) = .ok octets := by
  have hfields : split 8 ((header ++ octets).drop 2)
      = .ok ([8, 0, 0, 0, 0, 0, 0, 255], octets) := by
    have henough : ¬ ((header ++ octets).drop 2).length < 8 := by simp [header, magic]
    rw [split, if_neg henough]
    rfl
  unfold afterHeader
  rw [if_neg (by simp [header, magic]), hfields]
  rfl

theorem length_trailer (payload : List UInt8) : (trailer payload).length = 8 := by
  simp [trailer, length_toOctets]

theorem split_trailer (payload rest : List UInt8) :
    split 8 (trailer payload ++ rest) = .ok (trailer payload, rest) := by
  have henough : ¬ (trailer payload ++ rest).length < 8 := by
    rw [List.length_append, length_trailer]
    omega
  rw [split, if_neg henough, List.take_left' (length_trailer payload),
    List.drop_left' (length_trailer payload)]

theorem verify_trailer (payload : List UInt8) : verify payload (trailer payload) = .ok () := by
  have hfour : (toOctets 4 (crc payload)).length = 4 := length_toOctets 4 _
  have hchecksum : Deflate.ofOctets ((trailer payload).take 4) = crc payload := by
    rw [trailer, List.take_left' hfour, ofOctets_toOctets (crc_lt payload)]
  have hlength : Deflate.ofOctets ((trailer payload).drop 4) = payload.length % UInt32.size := by
    have hsize : payload.length % UInt32.size < Nat.pow 256 4 := Nat.mod_lt _ (by decide)
    rw [trailer, List.drop_left' hfour, ofOctets_toOctets hsize]
  simp only [verify, hchecksum, hlength, ne_eq, not_true_eq_false, if_false]

/-- A member is read up to its end. -/
theorem member_of_blocks (payload rest : List UInt8) :
    member (header ++ (storedBlocks payload ++ rest)) = (do
      let (told, rest) ← split 8 rest
      verify payload told
      return (payload, rest.dropWhile (· = 0))) := by
  unfold member
  rw [afterHeader_header]
  show (Deflate.inflate (storedBlocks payload ++ rest)).mapError ofData >>= _ = _
  rw [Deflate.inflate_storedBlocks]
  rfl

theorem member_pack (payload : List UInt8) : member (pack payload) = .ok (payload, []) := by
  have hend : split 8 (trailer payload) = .ok (trailer payload, []) := by
    simpa using split_trailer payload []
  rw [pack_eq, member_of_blocks, hend]
  show verify payload (trailer payload) >>= _ = _
  rw [verify_trailer]
  rfl

/-- What is packed is read again. -/
theorem unpack_pack (payload : List UInt8) : unpack (pack payload) = .ok payload := by
  have hne : (pack payload).isEmpty = false := by simp [pack_eq, header, magic]
  rw [unpack, hne, if_neg Bool.false_ne_true]
  split
  case h_1 fault hmember =>
    rw [member_pack] at hmember
    cases hmember
  case h_2 held rest hmember =>
    rw [member_pack] at hmember
    cases hmember
    simp [unpack, Except.map]

/-- A packed file without the whole of its end gives nothing. -/
theorem unpack_of_cut (payload : List UInt8) {part : List UInt8} (h : part.length < 8) :
    unpack (header ++ (storedBlocks payload ++ part)) = .error .cutShort := by
  have hmember : member (header ++ (storedBlocks payload ++ part)) = .error .cutShort := by
    rw [member_of_blocks, split, if_pos h]
    rfl
  have hne : (header ++ (storedBlocks payload ++ part)).isEmpty = false := by
    simp [header, magic]
  rw [unpack, hne, if_neg Bool.false_ne_true]
  split
  case h_1 fault hfault =>
    rw [hmember] at hfault
    exact congrArg _ (Except.error.inj hfault).symm
  case h_2 held rest hok =>
    rw [hmember] at hok
    cases hok

end Gzip

namespace Content

theorem unpack_of_compressed (payload : List UInt8) :
    Gzip.unpack (compressed payload true).octets = .ok payload := by
  have hwhole : (compressed payload true).octets = Gzip.pack payload := List.take_length
  rw [hwhole, Gzip.unpack_pack]

theorem unpack_of_cut (payload : List UInt8) :
    Gzip.unpack (compressed payload false).octets = .error .cutShort := by
  have hcut : (compressed payload false).octets
      = Gzip.header ++ (Gzip.storedBlocks payload ++ []) := by
    have hlength : (Gzip.pack payload).length - (Gzip.trailer payload).length
        = (Gzip.header ++ Gzip.storedBlocks payload).length := by
      rw [Gzip.pack_eq, ← List.append_assoc, List.length_append]
      omega
    show (Gzip.pack payload).take ((Gzip.pack payload).length - _) = _
    rw [hlength, Gzip.pack_eq, ← List.append_assoc, List.take_left, List.append_nil]
  rw [hcut]
  have hshort : ([] : List UInt8).length < 8 := by decide
  exact Gzip.unpack_of_cut payload hshort

end Content

end CallExcerpt
