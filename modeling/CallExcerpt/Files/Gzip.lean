import CallExcerpt.Files.Deflate
import CallExcerpt.Text.Quoted

/-! # Compressed files

    A compressed file is a row of members, perhaps with zeros after each. A
    member has a header, deflated data, and at its end a checksum and the
    number of the octets that the data stand for. An empty file has no member.
-/

namespace CallExcerpt.Gzip

/-- Why a compressed file gives nothing. -/
inductive Fault where
  /-- A member does not begin like one. -/
  | notCompressed (first : List UInt8)
  /-- A member is compressed in an unknown way. -/
  | unknownMethod
  /-- The checksum is not the one that is told. -/
  | checksum (told computed : Nat)
  /-- The number of octets is not the one that is told. -/
  | length
  /-- The data are bad. -/
  | bad (flaw : Deflate.Flaw)
  /-- The file has no end. -/
  | cutShort
  deriving Repr, DecidableEq

/-- A number in sixteens. -/
def hexadecimal (n : Nat) : String := "0x" ++ String.ofList (Nat.toDigits 16 n)

/-- The fault in words. -/
def Fault.message : Fault → String
  | .notCompressed first => s!"Not a gzipped file ({Text.quotedOctets first})"
  | .unknownMethod => "Unknown compression method"
  | .checksum told computed => s!"CRC check failed {hexadecimal told} != {hexadecimal computed}"
  | .length => "Incorrect length of data produced"
  | .bad flaw => s!"Error -3 while decompressing data: {flaw.message}"
  | .cutShort => "Compressed file ended before the end-of-stream marker was reached"

/-- Does the fault come from below the reading of members? -/
def Fault.isApart : Fault → Bool
  | .bad _ | .cutShort => true
  | _ => false

/-- The fault of deflated data. -/
def ofData : Deflate.Fault → Fault
  | .cutShort => .cutShort
  | .bad flaw => .bad flaw

/-! ## The checksum -/

/-- The remainder after one bit more. -/
def crcBit (c : UInt32) : UInt32 := if c &&& 1 = 1 then (c >>> 1) ^^^ 0xEDB88320 else c >>> 1

/-- The remainder after one octet more. -/
def crcOctet (c : UInt32) (octet : UInt8) : UInt32 :=
  (List.range 8).foldl (fun c _ => crcBit c) (c ^^^ octet.toUInt32)

/-- The checksum of octets. -/
def crc (octets : List UInt8) : Nat :=
  (octets.foldl crcOctet 0xFFFFFFFF ^^^ 0xFFFFFFFF).toNat

/-! ## Reading -/

/-- The octets with which every member begins. -/
def magic : List UInt8 := [0x1F, 0x8B]

/-- So many octets, and those after them. -/
def split (n : Nat) (octets : List UInt8) : Except Fault (List UInt8 × List UInt8) :=
  if octets.length < n then .error .cutShort else .ok (octets.take n, octets.drop n)

theorem length_of_split {n : Nat} {octets front rest : List UInt8}
    (h : split n octets = .ok (front, rest)) : rest.length + n = octets.length := by
  unfold split at h
  split at h
  · cases h
  · cases h
    simp only [List.length_drop]
    omega

/-- The octets after a part of a header. -/
abbrev Part := List UInt8 → Except Fault (List UInt8)

/-- The octets after so many. -/
def skip (n : Nat) : Part := fun octets => (split n octets).map (·.2)

/-- The octets after the extra field, which begins with its size. -/
def afterExtra : Part := fun octets => do
  let (size, octets) ← split 2 octets
  skip (Deflate.ofOctets size) octets

/-- The octets after a name, which a zero ends. -/
def afterName : Part := fun octets => .ok ((octets.dropWhile (· ≠ 0)).drop 1)

/-- A part that is there if a flag is set. -/
def ifSet (flags bit : Nat) (part : Part) : Part := fun octets =>
  if flags.testBit bit then part octets else .ok octets

/-- The octets after the parts of a header that its flags tell of: the extra field, the name, the
    comment and a checksum of the header. -/
def afterParts (flags : Nat) : Part := fun octets => do
  let octets ← ifSet flags 2 afterExtra octets
  let octets ← ifSet flags 3 afterName octets
  let octets ← ifSet flags 4 afterName octets
  ifSet flags 1 (skip 2) octets

/-- The octets after a header. -/
def afterHeader : Part := fun octets =>
  if octets.take 2 ≠ magic then .error (.notCompressed (octets.take 2))
  else do
    let (fields, octets) ← split 8 (octets.drop 2)
    if fields[0]? = some 8 then afterParts (fields[1]?.getD 0).toNat octets
    else .error .unknownMethod

/-- Is what a member tells of its octets so? -/
def verify (held told : List UInt8) : Except Fault Unit :=
  let checksum := Deflate.ofOctets (told.take 4)
  if checksum ≠ crc held then .error (.checksum checksum (crc held))
  else if Deflate.ofOctets (told.drop 4) ≠ held.length % UInt32.size then .error .length
  else .ok ()

/-- The octets inside the first member, and the octets after it. -/
def member (octets : List UInt8) : Except Fault (List UInt8 × List UInt8) := do
  let data ← afterHeader octets
  let (held, rest) ← (Deflate.inflate data).mapError ofData
  let (told, rest) ← split 8 rest
  verify held told
  return (held, rest.dropWhile (· = 0))

section shorter

/-- No part of a header adds octets. -/
def Drops (part : Part) : Prop := ∀ octets rest, part octets = .ok rest → rest.length ≤ octets.length

theorem Drops.bind {p q : Part} (hp : Drops p) (hq : Drops q) : Drops fun octets => p octets >>= q := by
  intro octets rest h
  cases hfirst : p octets with
  | error fault =>
    simp only [hfirst] at h
    cases h
  | ok between =>
    simp only [hfirst] at h
    exact Nat.le_trans (hq between rest h) (hp octets between hfirst)

theorem drops_skip (n : Nat) : Drops (skip n) := by
  intro octets rest h
  unfold skip at h
  cases hsplit : split n octets with
  | error fault =>
    rw [hsplit] at h
    cases h
  | ok parts =>
    rw [hsplit] at h
    cases h
    exact Nat.le.intro (length_of_split hsplit)

theorem drops_afterExtra : Drops afterExtra := by
  intro octets rest h
  unfold afterExtra at h
  cases hsplit : split 2 octets with
  | error fault =>
    rw [hsplit] at h
    cases h
  | ok parts =>
    rw [hsplit] at h
    have := length_of_split hsplit
    have := drops_skip _ _ _ h
    omega

theorem drops_afterName : Drops afterName := by
  intro octets rest h
  cases h
  have := (List.dropWhile_suffix (l := octets) (· ≠ 0)).length_le
  simp only [List.length_drop]
  omega

theorem drops_ifSet {flags bit : Nat} {part : Part} (h : Drops part) : Drops (ifSet flags bit part) := by
  intro octets rest hrest
  unfold ifSet at hrest
  split at hrest
  · exact h octets rest hrest
  · cases hrest
    exact Nat.le_refl _

theorem drops_afterParts (flags : Nat) : Drops (afterParts flags) :=
  (drops_ifSet drops_afterExtra).bind ((drops_ifSet drops_afterName).bind
    ((drops_ifSet drops_afterName).bind (drops_ifSet (drops_skip 2))))

theorem drops_afterHeader : Drops afterHeader := by
  intro octets rest h
  unfold afterHeader at h
  split at h
  · cases h
  · cases hsplit : split 8 (octets.drop 2) with
    | error fault =>
      rw [hsplit] at h
      cases h
    | ok parts =>
      rw [hsplit] at h
      change (if parts.1[0]? = some 8 then _ else _) = _ at h
      split at h
      · have := length_of_split hsplit
        have := drops_afterParts _ _ _ h
        simp only [List.length_drop] at *
        omega
      · cases h

theorem length_of_member {octets held rest : List UInt8} (h : member octets = .ok (held, rest)) :
    rest.length < octets.length := by
  unfold member at h
  cases hheader : afterHeader octets with
  | error fault =>
    rw [hheader] at h
    cases h
  | ok data =>
    rw [hheader] at h
    have hdata := drops_afterHeader _ _ hheader
    change (Deflate.inflate data).mapError ofData >>= _ = _ at h
    cases hinflate : Deflate.inflate data with
    | error fault =>
      rw [hinflate] at h
      cases h
    | ok inflated =>
      rw [hinflate] at h
      have hinflated := Deflate.length_of_inflate hinflate
      change split 8 inflated.2 >>= _ = _ at h
      cases hsplit : split 8 inflated.2 with
      | error fault =>
        rw [hsplit] at h
        cases h
      | ok parts =>
        rw [hsplit] at h
        have hparts := length_of_split hsplit
        change verify inflated.1 parts.1 >>= _ = _ at h
        cases hverify : verify inflated.1 parts.1 with
        | error fault =>
          rw [hverify] at h
          cases h
        | ok _ =>
          rw [hverify] at h
          cases h
          have := (List.dropWhile_suffix (l := parts.2) (· = 0)).length_le
          omega

end shorter

/-- The octets inside a file. -/
def unpack (octets : List UInt8) : Except Fault (List UInt8) :=
  if octets.isEmpty then .ok []
  else match _h : member octets with
    | .error fault => .error fault
    | .ok (held, rest) => (unpack rest).map (held ++ ·)
termination_by octets.length
decreasing_by exact length_of_member _h

/-! ## Writing -/

/-- So many octets that make a number, the low ones first. -/
def toOctets : Nat → Nat → List UInt8
  | 0, _ => []
  | size + 1, n => UInt8.ofNat n :: toOctets size (n / 256)

/-- Blocks that hold octets as they are. -/
def storedBlocks (octets : List UInt8) : List UInt8 :=
  let chunk := octets.take 0xFFFF
  let others := octets.drop 0xFFFF
  let head := toOctets 2 chunk.length ++ toOctets 2 (0xFFFF - chunk.length) ++ chunk
  if octets.length ≤ 0xFFFF then 1 :: head
  else 0 :: head ++ storedBlocks others
termination_by octets.length
decreasing_by
  simp only [List.length_drop]
  omega

/-- What a member tells of the octets inside it. -/
def trailer (octets : List UInt8) : List UInt8 :=
  toOctets 4 (crc octets) ++ toOctets 4 (octets.length % UInt32.size)

/-- A file with octets inside it. -/
def pack (octets : List UInt8) : List UInt8 :=
  magic ++ [8, 0, 0, 0, 0, 0, 0, 255] ++ storedBlocks octets ++ trailer octets

end CallExcerpt.Gzip
