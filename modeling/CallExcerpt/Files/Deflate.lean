/-! # Deflated data

    Deflated data are a row of bits, the low bits of each octet first, that
    falls into blocks. A block holds octets as they are, or in a code of its
    own: literal octets, and copies of octets that came before, told by their
    number and their distance. The codes are canonical: their lengths say all
    of them.

    Every reading takes bits from the front, so that a loop that reads ends
    with the data: `Shortens` says by how many bits at least.
-/

namespace CallExcerpt.Deflate

/-! ## What can be wrong -/

/-- What is wrong with bad data. -/
inductive Flaw where
  /-- There is no such kind of block. -/
  | blockKind
  /-- The number of plain octets and its complement do not agree. -/
  | storedLength
  /-- There are more symbols than can be told. -/
  | tooManySymbols
  /-- The lengths of the code for lengths are no code. -/
  | lengthCode
  /-- A length is repeated before there is one, or too often. -/
  | repetition
  /-- The end of the block has no code. -/
  | noEnd
  /-- The lengths for literals and numbers are no code. -/
  | literalCode
  /-- The lengths for distances are no code. -/
  | distanceCode
  /-- No literal and no number has the code. -/
  | literal
  /-- No distance has the code. -/
  | distance
  /-- A copy is to begin before the first octet. -/
  | tooFar
  deriving Repr, DecidableEq

/-- The flaw in words. -/
def Flaw.message : Flaw → String
  | .blockKind => "invalid block type"
  | .storedLength => "invalid stored block lengths"
  | .tooManySymbols => "too many length or distance symbols"
  | .lengthCode => "invalid code lengths set"
  | .repetition => "invalid bit length repeat"
  | .noEnd => "invalid code -- missing end-of-block"
  | .literalCode => "invalid literal/lengths set"
  | .distanceCode => "invalid distances set"
  | .literal => "invalid literal/length code"
  | .distance => "invalid distance code"
  | .tooFar => "invalid distance too far back"

/-- Why deflated data give nothing. -/
inductive Fault where
  /-- They have no end. -/
  | cutShort
  /-- They are bad. -/
  | bad (flaw : Flaw)
  deriving Repr, DecidableEq

/-! ## Bits -/

/-- What is left to read. -/
structure Input where
  /-- The bits that are left of an octet. -/
  begun : List Bool := []
  /-- The octets after it. -/
  octets : List UInt8
  deriving Repr, DecidableEq

/-- The number of bits that are left. -/
def Input.size (i : Input) : Nat := i.begun.length + 8 * i.octets.length

/-- A reading of deflated data. -/
abbrev Reader := EStateM Fault Input

/-- A reading that takes at least so many bits if it succeeds. -/
def Shortens {α : Type} (x : Reader α) (n : Nat) : Prop :=
  ∀ i a j, x i = .ok a j → j.size + n ≤ i.size

section shortens
variable {α β : Type} {m n : Nat}

theorem shortens_pure (a : α) : Shortens (pure a) 0 := by
  intro i b j h
  cases h
  exact Nat.le_refl _

theorem shortens_throw (fault : Fault) (n : Nat) : Shortens (throw fault : Reader α) n := nofun

theorem Shortens.bind {x : Reader α} {f : α → Reader β} (hx : Shortens x m)
    (hf : ∀ a, Shortens (f a) n) : Shortens (x >>= f) (m + n) := by
  intro i b j h
  change EStateM.bind x f i = _ at h
  unfold EStateM.bind at h
  cases hi : x i with
  | error fault k =>
    rw [hi] at h
    cases h
  | ok a k =>
    rw [hi] at h
    have hfirst := hx i a k hi
    have hsecond := hf a k b j h
    omega

theorem Shortens.mono {x : Reader α} (hx : Shortens x m) (h : n ≤ m) : Shortens x n := by
  intro i a j hi
  have := hx i a j hi
  omega

end shortens

/-- Goes on if the data are good so far. -/
def require (isGood : Bool) (flaw : Flaw) : Reader Unit :=
  if isGood then return () else throw (.bad flaw)

theorem shortens_require (isGood : Bool) (flaw : Flaw) : Shortens (require isGood flaw) 0 := by
  unfold require
  split
  · exact shortens_pure ()
  · exact shortens_throw _ _

/-- The next bit. -/
def bit : Reader Bool := fun i =>
  match i.begun, i.octets with
  | b :: bs, os => .ok b ⟨bs, os⟩
  | [], o :: os => .ok (o.toNat.testBit 0) ⟨(List.range 7).map fun k => o.toNat.testBit (k + 1), os⟩
  | [], [] => .error .cutShort i

theorem shortens_bit : Shortens bit 1 := by
  intro i a j h
  obtain ⟨begun, octets⟩ := i
  cases begun with
  | cons b bs =>
    cases h
    simp only [Input.size, List.length_cons]
    omega
  | nil =>
    cases octets with
    | nil => cases h
    | cons o os =>
      cases h
      simp only [Input.size, List.length_map, List.length_range, List.length_cons, List.length_nil]
      omega

/-- The number in the next bits, the low ones first. -/
def number : Nat → Reader Nat
  | 0 => return 0
  | n + 1 => do
    let low ← bit
    let high ← number n
    return 2 * high + low.toNat

theorem shortens_number (n : Nat) : Shortens (number n) n := by
  induction n with
  | zero => exact shortens_pure 0
  | succ n ih =>
    refine (shortens_bit.bind fun low => ih.bind fun high => shortens_pure _).mono ?_
    omega

/-- The next octets, from the end of the octet that was begun. -/
def octets (n : Nat) : Reader (List UInt8) := fun i =>
  if i.octets.length < n then .error .cutShort i
  else .ok (i.octets.take n) ⟨[], i.octets.drop n⟩

theorem shortens_octets (n : Nat) : Shortens (octets n) 0 := by
  intro i a j h
  unfold octets at h
  split at h
  · cases h
  · cases h
    simp [Input.size]
    omega

/-! ## Codes -/

/-- A canonical code: of the codes of one length, and then of the next, each is one more than the one
    before. -/
structure Code where
  /-- The number of codes of each length, from one bit on. -/
  counts : List Nat
  /-- The symbols in the order of their codes. -/
  symbols : List Nat
  /-- Some length is there to be read. -/
  counts_ne_nil : counts ≠ []

/-- The code in which each symbol has a code of a length; none has one of no length. -/
def Code.ofLengths (lengths : List Nat) : Code :=
  let longest := lengths.foldl max 0
  let ofLength (n : Nat) := lengths.zipIdx.filter (·.1 = n) |>.map (·.2)
  { counts := (List.range (longest - 1 + 1)).map fun k => (ofLength (k + 1)).length
    symbols := (List.range (longest - 1 + 1)).flatMap fun k => ofLength (k + 1)
    counts_ne_nil := by simp }

/-- The number of codes of the last length that no symbol has; nothing if there are more symbols than
    codes. -/
def Code.spare (c : Code) : Option Nat :=
  c.counts.foldl (fun left count => left.bind fun n => if 2 * n < count then none else some (2 * n - count))
    (some 1)

/-- May the code be used? All codes must be taken, but a code may have no symbol at all, and some
    codes may have just one. -/
def Code.isUsable (c : Code) (mayBeSingle : Bool) : Bool :=
  match c.spare with
  | none => false
  | some left => left = 0 || c.symbols.isEmpty || mayBeSingle && c.counts.length = 1

/-- The symbol whose code comes next, with the codes of the lengths from here on: `code` was read of
    it, and `first` is the first code of the next length. -/
def walk (symbols : List Nat) (code first : Nat) : List Nat → Reader (Option Nat)
  | [] => return none
  | count :: counts => do
    let b ← bit
    let code := 2 * code + b.toNat
    if code < first + count then return symbols[code - first]?
    else walk (symbols.drop count) code (2 * (first + count)) counts

theorem shortens_walk (symbols : List Nat) (code first : Nat) (counts : List Nat) :
    Shortens (walk symbols code first counts) (min 1 counts.length) := by
  induction counts generalizing symbols code first with
  | nil => exact shortens_pure none
  | cons count counts ih =>
    refine (shortens_bit.bind (n := 0) fun b => ?_).mono (by simp)
    dsimp only
    split
    · exact shortens_pure _
    · exact (ih _ _ _).mono (Nat.zero_le _)

/-- The symbol whose code comes next, if there is one. -/
def Code.next (c : Code) : Reader (Option Nat) := walk c.symbols 0 0 c.counts

theorem Code.shortens_next (c : Code) : Shortens c.next 1 := by
  refine (shortens_walk _ _ _ _).mono ?_
  have := List.length_pos_iff.mpr c.counts_ne_nil
  omega

/-! ## Blocks in a code -/

/-- The numbers of octets to copy that a symbol may tell: the least, and how many bits more. -/
def copyNumbers : List (Nat × Nat) := [
  (3, 0), (4, 0), (5, 0), (6, 0), (7, 0), (8, 0), (9, 0), (10, 0), (11, 1), (13, 1), (15, 1), (17, 1),
  (19, 2), (23, 2), (27, 2), (31, 2), (35, 3), (43, 3), (51, 3), (59, 3), (67, 4), (83, 4), (99, 4),
  (115, 4), (131, 5), (163, 5), (195, 5), (227, 5), (258, 0)]

/-- The distances that a symbol may tell: the least, and how many bits more. -/
def copyDistances : List (Nat × Nat) := [
  (1, 0), (2, 0), (3, 0), (4, 0), (5, 1), (7, 1), (9, 2), (13, 2), (17, 3), (25, 3), (33, 4), (49, 4),
  (65, 5), (97, 5), (129, 6), (193, 6), (257, 7), (385, 7), (513, 8), (769, 8), (1025, 9), (1537, 9),
  (2049, 10), (3073, 10), (4097, 11), (6145, 11), (8193, 12), (12289, 12), (16385, 13), (24577, 13)]

/-- The symbol for the end of a block; those above it tell numbers. -/
def endSymbol : Nat := 256

/-- What a block in a code is made of. -/
inductive Item where
  /-- An octet. -/
  | literal (octet : UInt8)
  /-- A copy of so many octets that begin at a distance before. -/
  | copy (number distance : Nat)
  /-- The end of the block. -/
  | last

/-- A number of a table: of a symbol, the least one, and as many bits more. -/
def ofTable (table : List (Nat × Nat)) (flaw : Flaw) (symbol : Option Nat) : Reader Nat :=
  match symbol.bind (table[·]?) with
  | none => throw (.bad flaw)
  | some (least, bits) => do
    let more ← number bits
    return least + more

theorem shortens_ofTable (table : List (Nat × Nat)) (flaw : Flaw) (symbol : Option Nat) :
    Shortens (ofTable table flaw symbol) 0 := by
  unfold ofTable
  split
  · exact shortens_throw _ _
  · exact ((shortens_number _).bind fun more => shortens_pure _).mono (Nat.zero_le _)

/-- The next item of a block, in the codes for literals and for distances. -/
def item (literals distances : Code) : Reader Item := do
  match ← literals.next with
  | none => throw (.bad .literal)
  | some symbol =>
    if symbol < endSymbol then return .literal symbol.toUInt8
    else if symbol = endSymbol then return .last
    else
      let copied ← ofTable copyNumbers .literal (some (symbol - endSymbol - 1))
      let distance ← ofTable copyDistances .distance (← distances.next)
      return .copy copied distance

theorem shortens_item (literals distances : Code) : Shortens (item literals distances) 1 := by
  refine (literals.shortens_next.bind (n := 0) fun symbol => ?_).mono (Nat.le_refl _)
  split
  · exact shortens_throw _ _
  · split
    · exact shortens_pure _
    · split
      · exact shortens_pure _
      · refine ((shortens_ofTable _ _ _).bind fun copied => distances.shortens_next.bind fun symbol =>
          (shortens_ofTable _ _ _).bind fun distance => shortens_pure _).mono (Nat.zero_le _)

/-- Octets with copies of those at a distance before the end, one after the other. -/
def repeated (distance : Nat) : Nat → Array UInt8 → Array UInt8
  | 0, out => out
  | n + 1, out => repeated distance n (out.push (out.getD (out.size - distance) 0))

/-- The octets of a block in a code, after those before it. -/
def expand (literals distances : Code) (out : Array UInt8) : Reader (Array UInt8) := fun i =>
  match _h : item literals distances i with
  | .error fault j => .error fault j
  | .ok .last j => .ok out j
  | .ok (.literal octet) j => expand literals distances (out.push octet) j
  | .ok (.copy copied distance) j =>
    if out.size < distance then .error (.bad .tooFar) j
    else expand literals distances (repeated distance copied out) j
termination_by i => i.size
decreasing_by all_goals exact shortens_item literals distances _ _ _ _h

theorem shortens_expand (literals distances : Code) (out : Array UInt8) :
    Shortens (expand literals distances out) 0 := by
  intro i a j h
  fun_induction expand literals distances out i with
  | case1 out i fault k hitem => cases h
  | case2 out i k hitem =>
    cases h
    have := shortens_item _ _ _ _ _ hitem
    omega
  | case3 out i octet k hitem ih =>
    have := shortens_item _ _ _ _ _ hitem
    have := ih h
    omega
  | case4 out i copied distance k hitem hfar => cases h
  | case5 out i copied distance k hitem hfar ih =>
    have := shortens_item _ _ _ _ _ hitem
    have := ih h
    omega

/-! ## The codes of a block -/

/-- The lengths of the codes that need not be told. -/
def fixedLengths : List Nat :=
  List.replicate 144 8 ++ List.replicate 112 9 ++ List.replicate 24 7 ++ List.replicate 8 8

/-- The codes that need not be told. -/
def fixedCodes : Code × Code := (.ofLengths fixedLengths, .ofLengths (List.replicate 32 5))

/-- The order in which the lengths of the code for lengths are told. -/
def lengthOrder : List Nat := [16, 17, 18, 0, 8, 7, 9, 6, 10, 5, 11, 4, 12, 3, 13, 2, 14, 1, 15]

/-- Numbers of so many bits, in a row. -/
def numbers (bits : Nat) : Nat → Reader (List Nat)
  | 0 => return []
  | n + 1 => do
    let first ← number bits
    let others ← numbers bits n
    return first :: others

theorem shortens_numbers (bits n : Nat) : Shortens (numbers bits n) 0 := by
  induction n with
  | zero => exact shortens_pure []
  | succ n ih =>
    exact ((shortens_number bits).bind fun first => ih.bind fun others => shortens_pure _).mono
      (Nat.zero_le _)

/-- A length, or the one before it again, and how many times. -/
def run (lengths : Code) : Reader (Option Nat × Nat) := do
  match ← lengths.next with
  | some 16 => return (none, 3 + (← number 2))
  | some 17 => return (some 0, 3 + (← number 3))
  | some 18 => return (some 0, 11 + (← number 7))
  | symbol => return (some (symbol.getD 0), 1)

theorem shortens_run (lengths : Code) : Shortens (run lengths) 1 := by
  refine (lengths.shortens_next.bind (n := 0) fun symbol => ?_).mono (Nat.le_refl _)
  split
  · exact ((shortens_number 2).bind fun n => shortens_pure _).mono (Nat.zero_le _)
  · exact ((shortens_number 3).bind fun n => shortens_pure _).mono (Nat.zero_le _)
  · exact ((shortens_number 7).bind fun n => shortens_pure _).mono (Nat.zero_le _)
  · exact shortens_pure _

/-- Lengths up to a number of them, after those before. -/
def lengthsUpTo (code : Code) (total : Nat) (before : List Nat) : Reader (List Nat) := fun i =>
  if total ≤ before.length then .ok before i
  else match _h : run code i with
    | .error fault j => .error fault j
    | .ok (value, times) j =>
      match value.or before.getLast? with
      | none => .error (.bad .repetition) j
      | some length =>
        if total < before.length + times then .error (.bad .repetition) j
        else lengthsUpTo code total (before ++ List.replicate times length) j
termination_by i => i.size
decreasing_by exact shortens_run code _ _ _ _h

theorem shortens_lengthsUpTo (code : Code) (total : Nat) (before : List Nat) :
    Shortens (lengthsUpTo code total before) 0 := by
  intro i a j h
  fun_induction lengthsUpTo code total before i with
  | case1 before i hfull =>
    cases h
    omega
  | case2 before i hfull fault k hrun => cases h
  | case3 before i hfull value times k hrun hnone => cases h
  | case4 before i hfull value times k hrun length hsome hmany => cases h
  | case5 before i hfull value times k hrun length hsome hmany ih =>
    have := shortens_run _ _ _ _ hrun
    have := ih h
    omega

/-- A code that may be used. -/
def usable (mayBeSingle : Bool) (flaw : Flaw) (lengths : List Nat) : Reader Code := do
  let code := Code.ofLengths lengths
  require (code.isUsable mayBeSingle) flaw
  return code

theorem shortens_usable (mayBeSingle : Bool) (flaw : Flaw) (lengths : List Nat) :
    Shortens (usable mayBeSingle flaw lengths) 0 :=
  (shortens_require _ flaw).bind fun _ => shortens_pure _

/-- The lengths of both codes that a block tells, with the number of those for literals: first come
    the lengths of the code for lengths, and in that code all others. -/
def toldLengths : Reader (Nat × List Nat) := do
  let literals ← number 5
  let distances ← number 5
  let told ← number 4
  require (257 + literals ≤ 286 && 1 + distances ≤ 30) .tooManySymbols
  let first ← numbers 3 (4 + told)
  let ordered := lengthOrder.zip first
  let forLengths ← usable false .lengthCode
    ((List.range lengthOrder.length).map fun symbol => (ordered.lookup symbol).getD 0)
  let lengths ← lengthsUpTo forLengths (257 + literals + (1 + distances)) []
  return (257 + literals, lengths)

/-- The codes for literals and for distances that a block tells. -/
def toldCodes : Reader (Code × Code) := do
  let (literals, lengths) ← toldLengths
  require (lengths[endSymbol]?.getD 0 ≠ 0) .noEnd
  let forLiterals ← usable true .literalCode (lengths.take literals)
  let forDistances ← usable true .distanceCode (lengths.drop literals)
  return (forLiterals, forDistances)

theorem shortens_toldLengths : Shortens toldLengths 0 := by
  refine ((shortens_number 5).bind fun _ => (shortens_number 5).bind fun _ =>
    (shortens_number 4).bind fun _ => (shortens_require _ _).bind fun _ =>
      (shortens_numbers 3 _).bind fun _ => (shortens_usable _ _ _).bind fun _ =>
        (shortens_lengthsUpTo _ _ _).bind fun _ => shortens_pure _).mono (Nat.zero_le _)

theorem shortens_toldCodes : Shortens toldCodes 0 :=
  shortens_toldLengths.bind fun _ => (shortens_require _ _).bind fun _ =>
    (shortens_usable _ _ _).bind fun _ => (shortens_usable _ _ _).bind fun _ => shortens_pure _

/-! ## Blocks -/

/-- The number that octets make, the low ones first. -/
def ofOctets (octets : List UInt8) : Nat := octets.foldr (fun o n => o.toNat + 256 * n) 0

/-- The octets of a block that holds them as they are, after those before it. -/
def stored (out : Array UInt8) : Reader (Array UInt8) := do
  let length ← octets 2
  let complement ← octets 2
  require (ofOctets length + ofOctets complement = 0xFFFF) .storedLength
  let held ← octets (ofOctets length)
  return out ++ held.toArray

theorem shortens_stored (out : Array UInt8) : Shortens (stored out) 0 :=
  (shortens_octets 2).bind fun _ => (shortens_octets 2).bind fun _ =>
    (shortens_require _ _).bind fun _ => (shortens_octets _).bind fun _ => shortens_pure _

/-- What a block of a kind holds, after the octets before it. -/
def held (out : Array UInt8) : Nat → Reader (Array UInt8)
  | 0 => stored out
  | 1 => expand fixedCodes.1 fixedCodes.2 out
  | 2 => do
    let codes ← toldCodes
    expand codes.1 codes.2 out
  | _ => throw (.bad .blockKind)

theorem shortens_held (out : Array UInt8) (kind : Nat) : Shortens (held out kind) 0 := by
  unfold held
  split
  · exact shortens_stored out
  · exact shortens_expand _ _ out
  · exact shortens_toldCodes.bind fun codes => shortens_expand _ _ out
  · exact shortens_throw _ _

/-- The octets up to the end of a block, and whether it is the last one. -/
def block (out : Array UInt8) : Reader (Bool × Array UInt8) := do
  let isLast ← bit
  let kind ← number 2
  let out ← held out kind
  return (isLast, out)

theorem shortens_block (out : Array UInt8) : Shortens (block out) 1 :=
  (shortens_bit.bind fun isLast => (shortens_number 2).bind fun kind =>
    (shortens_held out kind).bind fun out => shortens_pure _).mono (by decide)

/-- The octets of all blocks, after those before them. -/
def blocks (out : Array UInt8) : Reader (Array UInt8) := fun i =>
  match _h : block out i with
  | .error fault j => .error fault j
  | .ok (true, held) j => .ok held j
  | .ok (false, held) j => blocks held j
termination_by i => i.size
decreasing_by exact shortens_block out _ _ _ _h

theorem shortens_blocks (out : Array UInt8) : Shortens (blocks out) 1 := by
  intro i a j h
  fun_induction blocks out i with
  | case1 out i fault k hblock => cases h
  | case2 out i held k hblock =>
    cases h
    exact shortens_block _ _ _ _ hblock
  | case3 out i held k hblock ih =>
    have := shortens_block _ _ _ _ hblock
    have := ih h
    omega

/-- The octets that deflated data stand for, and the octets after them. -/
def inflate (octets : List UInt8) : Except Fault (List UInt8 × List UInt8) :=
  match blocks #[] { octets } with
  | .ok out i => .ok (out.toList, i.octets)
  | .error fault _ => .error fault

/-- Some of the octets are used up. -/
theorem length_of_inflate {octets held rest : List UInt8} (h : inflate octets = .ok (held, rest)) :
    rest.length < octets.length := by
  unfold inflate at h
  split at h
  · next out i hblocks =>
    cases h
    have := shortens_blocks _ _ _ _ hblocks
    simp only [Input.size, List.length_nil] at this
    omega
  · cases h

end CallExcerpt.Deflate
