import CallExcerpt.Proofs.Files.Disk
import CallExcerpt.Proofs.Files.Gzip
import CallExcerpt.Proofs.Graph.Contents
import CallExcerpt.Proofs.Text.Strict
import CallExcerpt.Service

/-! # From a file to a graph

    A graph source gives a graph just if there is a file that may be read, its
    octets are those of a text, the text spells a value, and the value is a
    graph document. Whatever else is wrong is a fault of the input, unless it
    comes up from below: the system does not even look at the path, compressed
    data are bad or lack their end, a number in the text is too long, or
    something that is to be told has no spelling.

    * `Opens`, `Holds`, `Spells`, `Tells`: the file at a path, the octets in it,
      its text, and the document that the text spells; `Halved`: a text about
      which nothing can be told.
    * `Escapes`: the faults that come up from below.
    * `readOctets_eq_ok_iff`, `load_eq_ok_iff`: what gives a graph.
    * `load_of_escapes`, `escapes_of_load`: how each stage fails.
    * `graph_of_source`: all of that for the service.
    * `cut_source_escapes`: a compressed file without its end.
-/

namespace CallExcerpt

open Success (Blames blames_ok blames_error bind_of_ok bind_of_error)

/-! ## What is said of a file -/

namespace Source

/-- The octets that a file holds for the loader. A name with the suffix of compressed files asks for
    those inside. -/
inductive Holds (path : Path) (content : Content) : List UInt8 → Prop where
  /-- The file's own octets. -/
  | own : path.suffix ≠ compressedSuffix → Holds path content content.octets
  /-- The octets inside a compressed file. -/
  | inside {payload : List UInt8} : path.suffix = compressedSuffix →
      Gzip.unpack content.octets = .ok payload → Holds path content payload

section disk
variable (disk : Disk) (base : Location) (path : Path)

/-- There is a file at the path, and the system lets it be read. -/
structure Opens (content : Content) : Prop where
  looked : disk.lookRefused? base path = none
  found : disk.file? base path = some content
  readable : disk.readRefused? base path = none

/-- The text of the file at a path, in UTF-8, with all line ends alike. -/
def Spells (text : List Char) : Prop :=
  ∃ content octets cs, Opens disk base path content ∧ Holds path content octets
    ∧ octets = cs.flatMap String.utf8EncodeChar ∧ text = Text.unifyLineEnds cs

/-- The document that the text of the file at a path spells. -/
def Tells (document : Json) : Prop :=
  ∃ text, Spells disk base path text ∧ Json.parse text = .ok document

/-- The text of the file at a path spells a value in which half of a pair stands alone. The library
    has no texts with such a half in them, so that nothing can be told of what comes of it. -/
def Halved : Prop :=
  ∃ text position, Spells disk base path text ∧ Json.parse text = .error ⟨.loneHalf, position⟩

/-- The faults of a source that are not put in the program's own words. -/
inductive Escapes : Fault → Prop where
  /-- The system does not look at the path: it is too long, or there is no right to look. -/
  | unlooked {e : SystemError} : disk.lookRefused? base path = some e →
      Escapes (.system (.refused e path.toString))
  /-- Compressed data are bad, or lack their end. -/
  | unpacked {content : Content} {fault : Gzip.Fault} : Opens disk base path content →
      path.suffix = compressedSuffix → Gzip.unpack content.octets = .error fault →
      fault.isApart → Escapes (.notUnpacked path fault)
  /-- A number in the text has too many digits. -/
  | longNumber {text : List Char} {digits position : Nat} : Spells disk base path text →
      Json.parse text = .error ⟨.longNumber digits, position⟩ → Escapes (.longNumber digits)
  /-- An address or a malformed call has no spelling. -/
  | unspellable {document : Json} {cause : Json.Unspellable} : Tells disk base path document →
      Document.read document = .error (.unspellable cause) →
      Escapes (.document (.unspellable cause))

end disk

/-! ## The stages -/

section stages
variable {path : Path} {content : Content}

theorem readOctets_of_own (h : path.suffix ≠ compressedSuffix) :
    readOctets path content = .ok content.octets := by
  unfold readOctets
  rw [if_neg h]

theorem readOctets_of_packed (h : path.suffix = compressedSuffix) :
    readOctets path content = (Gzip.unpack content.octets).mapError (.notUnpacked path) := by
  unfold readOctets inflate
  rw [if_pos h]

theorem readOctets_eq_ok_iff {octets : List UInt8} :
    readOctets path content = .ok octets ↔ Holds path content octets := by
  by_cases hpacked : path.suffix = compressedSuffix
  · rw [readOctets_of_packed hpacked]
    constructor
    · intro h
      exact .inside hpacked (Success.of_mapError h)
    · rintro (hplain | ⟨-, hunpack⟩)
      · exact absurd hpacked hplain
      · rw [hunpack]
        rfl
  · rw [readOctets_of_own hpacked]
    constructor
    · intro h
      cases h
      exact .own hpacked
    · rintro (- | ⟨hpacked', -⟩)
      · rfl
      · exact absurd hpacked' hpacked

theorem readText_eq_ok_iff {octets : List UInt8} {text : List Char} :
    readText path octets = .ok text
      ↔ ∃ cs, octets = cs.flatMap String.utf8EncodeChar ∧ text = Text.unifyLineEnds cs := by
  unfold readText
  constructor
  · intro h
    split at h
    case h_1 cs hcs =>
      cases h
      exact ⟨cs, Text.Utf8.decode_eq_ok_iff.mp hcs, rfl⟩
    case h_2 => cases h
  · rintro ⟨cs, hcs, rfl⟩
    rw [Text.Utf8.decode_eq_ok_iff.mpr hcs]

theorem readGraph_eq_ok_iff {document : Json} {g : Graph} :
    readGraph document = .ok g ↔ Document.read document = .ok g := by
  unfold readGraph
  cases Document.read document with
  | ok g' => simp
  | error fault => simp

theorem blames_readText {octets : List UInt8} :
    Blames (readText path octets) fun fault => (Failure.source fault).family = .input := by
  unfold readText
  split
  · exact blames_ok _
  · exact blames_error rfl

end stages

/-! ## The file at a path -/

section path
variable {disk : Disk} {base : Location} {path : Path}

/-- There is no file where the system does not even look. -/
theorem clean_of_file? {content : Content} (h : disk.file? base path = some content) :
    path.Clean ∧ ∃ l, disk.locate base path = .ok l := by
  unfold Disk.file? Disk.entryAt? at h
  rw [Path.clean_iff]
  cases hclean : path.toString.contains '\x00' with
  | true => simp [hclean] at h
  | false =>
    cases hlocate : disk.locate base path with
    | error e => simp [hlocate] at h
    | ok l => exact ⟨rfl, l, rfl⟩

theorem file?_of_found {content : Content} {l : Location} (hclean : path.Clean)
    (hlocate : disk.locate base path = .ok l) (hfound : disk.find? l = some (.file content)) :
    disk.file? base path = some content := by
  unfold Disk.file? Disk.entryAt?
  rw [Path.clean_iff.mp hclean, if_neg (by simp), hlocate]
  dsimp only
  rw [hfound]

theorem lookRefused?_of_file? {content : Content} (h : disk.file? base path = some content) :
    disk.lookRefused? base path = none := by
  obtain ⟨hclean, l, hlocate⟩ := clean_of_file? h
  unfold Disk.lookRefused?
  rw [Path.clean_iff.mp hclean, if_neg (by simp), hlocate]

theorem load_of_opens {content : Content} (h : Opens disk base path content) :
    load disk base path = read path content := by
  unfold load
  simp only [h.looked, h.found, h.readable]

/-- A file that is there is read, or the fault is told. -/
theorem load_cases (disk : Disk) (base : Location) (path : Path) :
    (∃ content, Opens disk base path content)
      ∨ ∃ fault, load disk base path = .error fault
        ∧ ((Failure.source fault).family = .input ∨ Escapes disk base path fault) := by
  unfold load
  cases hlook : disk.lookRefused? base path with
  | some e => exact .inr ⟨_, rfl, .inr (.unlooked hlook)⟩
  | none =>
    cases hfile : disk.file? base path with
    | none => exact .inr ⟨_, rfl, .inl rfl⟩
    | some content =>
      cases hread : disk.readRefused? base path with
      | some cause => exact .inr ⟨_, rfl, .inl rfl⟩
      | none => exact .inl ⟨content, hlook, hfile, hread⟩

/-- A file that spells a text gives what the text does. -/
theorem load_of_spells {text : List Char} (h : Spells disk base path text) :
    load disk base path = readValue path text >>= readGraph := by
  obtain ⟨content, octets, cs, hopens, hholds, hcs, rfl⟩ := h
  have htext : readText path octets = .ok (Text.unifyLineEnds cs) :=
    readText_eq_ok_iff.mpr ⟨cs, hcs, rfl⟩
  rw [load_of_opens hopens, read, readOctets_eq_ok_iff.mpr hholds]
  show (readText path octets >>= _) = _
  rw [htext]
  rfl

theorem load_of_tells {document : Json} (h : Tells disk base path document) :
    load disk base path = readGraph document := by
  obtain ⟨text, hspells, hparse⟩ := h
  rw [load_of_spells hspells, readValue, hparse]
  rfl

/-- What each fault that escapes comes from is told by that fault. -/
theorem load_of_escapes {fault : Fault} (h : Escapes disk base path fault) :
    load disk base path = .error fault := by
  cases h with
  | unlooked hlook =>
    unfold load
    simp only [hlook]
  | unpacked hopens hpacked hunpack hapart =>
    rw [load_of_opens hopens, read, readOctets_of_packed hpacked, hunpack]
    rfl
  | longNumber hspells hparse =>
    rw [load_of_spells hspells, readValue, hparse]
    rfl
  | unspellable htells hread =>
    rw [load_of_tells htells, readGraph, hread]

theorem blames_readOctets {content : Content} (hopens : Opens disk base path content) :
    Blames (readOctets path content) fun fault =>
      (Failure.source fault).family = .input ∨ Escapes disk base path fault := by
  by_cases hpacked : path.suffix = compressedSuffix
  · rw [readOctets_of_packed hpacked]
    cases hunpack : Gzip.unpack content.octets with
    | ok payload => exact blames_ok payload
    | error fault =>
      apply blames_error
      cases fault with
      | bad flaw => exact .inr (.unpacked hopens hpacked hunpack rfl)
      | cutShort => exact .inr (.unpacked hopens hpacked hunpack rfl)
      | _ => exact .inl rfl
  · rw [readOctets_of_own hpacked]
    exact blames_ok content.octets

/-- What is wrong with a text is told in the program's own words, but for a number that is too
    long. -/
theorem blames_readValue {text : List Char} (hwhole : ¬ Halved disk base path)
    (hspells : Spells disk base path text) :
    Blames (readValue path text) fun fault =>
      (Failure.source fault).family = .input ∨ Escapes disk base path fault := by
  unfold readValue
  cases hparse : Json.parse text with
  | ok document => exact blames_ok document
  | error flaw =>
    obtain ⟨problem, position⟩ := flaw
    apply blames_error
    cases problem with
    | longNumber digits => exact .inr (.longNumber hspells hparse)
    | loneHalf => exact absurd ⟨text, position, hspells, hparse⟩ hwhole
    | _ => exact .inl rfl

/-- What is wrong with a document is told in the program's own words, unless there are none. -/
theorem blames_readGraph {document : Json} (htells : Tells disk base path document) :
    Blames (readGraph document) fun fault =>
      (Failure.source fault).family = .input ∨ Escapes disk base path fault := by
  unfold readGraph
  cases hread : Document.read document with
  | ok g => exact blames_ok g
  | error fault =>
    apply blames_error
    cases fault with
    | unspellable cause => exact .inr (.unspellable htells hread)
    | _ => exact .inl rfl

/-- A source fails as one that is missing or malformed, or its fault escapes. -/
theorem escapes_of_load (hwhole : ¬ Halved disk base path) :
    Blames (load disk base path) fun fault =>
      (Failure.source fault).family = .input ∨ Escapes disk base path fault := by
  rcases load_cases disk base path with ⟨content, hopens⟩ | ⟨fault, hload, hfault⟩
  · rw [load_of_opens hopens, read]
    -- what the stages before have given is what the file holds and spells
    apply (blames_readOctets hopens).bind
    intro octets hoctets
    apply Blames.bind
    · intro fault hfault
      exact .inl (blames_readText fault hfault)
    · intro text htext
      obtain ⟨cs, hcs, hunified⟩ := readText_eq_ok_iff.mp htext
      have hspells : Spells disk base path text :=
        ⟨content, octets, cs, hopens, readOctets_eq_ok_iff.mp hoctets, hcs, hunified⟩
      apply (blames_readValue hwhole hspells).bind
      intro document hdocument
      exact blames_readGraph ⟨text, hspells, Success.of_mapError hdocument⟩
  · rw [hload]
    exact blames_error hfault

/-- A graph is loaded just if the file at the path tells a document of it. -/
theorem load_eq_ok_iff {g : Graph} : load disk base path = .ok g
    ↔ ∃ document, Tells disk base path document ∧ Document.read document = .ok g := by
  constructor
  · intro h
    rcases load_cases disk base path with ⟨content, hopens⟩ | ⟨fault, hload, -⟩
    · rw [load_of_opens hopens, read] at h
      obtain ⟨octets, hoctets, hrest⟩ := Success.of_bind h
      obtain ⟨text, htext, hvalue⟩ := Success.of_bind hrest
      obtain ⟨document, hdocument, hgraph⟩ := Success.of_bind hvalue
      obtain ⟨cs, hcs, hunified⟩ := readText_eq_ok_iff.mp htext
      exact ⟨document, ⟨text, ⟨content, octets, cs, hopens, readOctets_eq_ok_iff.mp hoctets, hcs,
        hunified⟩, Success.of_mapError hdocument⟩, readGraph_eq_ok_iff.mp hgraph⟩
    · rw [hload] at h
      cases h
  · rintro ⟨document, htells, hread⟩
    rw [load_of_tells htells]
    exact readGraph_eq_ok_iff.mpr hread

end path

/-- A fault that escapes is none of the input. -/
theorem family_of_escapes {disk : Disk} {base : Location} {path : Path} {fault : Fault}
    (h : Escapes disk base path fault) : (Failure.source fault).family ≠ .input := by
  cases h with
  | @unpacked content fault hopens hpacked hunpack hapart =>
    cases fault with
    | bad flaw => exact nofun
    | cutShort => exact nofun
    | _ => cases hapart
  | @unspellable document cause htells hread =>
    cases cause with
    | _ => exact nofun
  | _ => exact nofun

end Source

/-! ## The service -/

namespace Service

variable {path : Path} {w : World}

theorem loadGraph_of_ok {g : Graph} (h : Source.load w.disk w.base path = .ok g) :
    ∃ w', loadGraph path w = .ok g w' := by
  have hread : Action.ofExcept .source (Source.load w.disk w.base path) w = .ok g w := by
    rw [h]
    rfl
  unfold loadGraph
  exact ⟨_, (bind_of_ok rfl).trans ((bind_of_ok hread).trans rfl)⟩

/-- A failure leaves nothing behind, not even a message. -/
theorem loadGraph_of_error {fault : Source.Fault}
    (h : Source.load w.disk w.base path = .error fault) :
    loadGraph path w = .error (.source fault) w := by
  have hread : Action.ofExcept .source (Source.load w.disk w.base path) w
      = .error (.source fault) w := by
    rw [h]
    rfl
  unfold loadGraph
  exact (bind_of_ok rfl).trans (bind_of_error hread)

/-- A graph is loaded just if the file at the path tells a document of it. -/
theorem loadGraph_eq_ok_iff {g : Graph} : (∃ w', loadGraph path w = .ok g w')
    ↔ ∃ document, Source.Tells w.disk w.base path document ∧ Document.read document = .ok g := by
  rw [← Source.load_eq_ok_iff]
  constructor
  · intro h
    obtain ⟨w', hrun⟩ := h
    cases hload : Source.load w.disk w.base path with
    | ok g' =>
      obtain ⟨w'', hrun'⟩ := loadGraph_of_ok hload
      rw [hrun'] at hrun
      cases hrun
      rfl
    | error fault =>
      rw [loadGraph_of_error hload] at hrun
      cases hrun
  · exact loadGraph_of_ok

/-- What comes of a graph source whose text spells no half of a pair. It gives a graph just if the
    file at the path tells a document of that graph. If it gives none, then either the fault is told
    as one of the input, or it is one of those that come up from below, which are all told as they
    are; and none leaves anything behind. -/
theorem graph_of_source (path : Path) (w : World) :
    Source.Halved w.disk w.base path
      ∨ (∀ g, (∃ w', loadGraph path w = .ok g w')
          ↔ ∃ document, Source.Tells w.disk w.base path document ∧ Document.read document = .ok g)
        ∧ (∀ e w', loadGraph path w = .error e w' → w' = w
          ∧ (e.family = .input
            ∨ ∃ fault, e = .source fault ∧ Source.Escapes w.disk w.base path fault))
        ∧ ∀ fault, Source.Escapes w.disk w.base path fault →
            loadGraph path w = .error (.source fault) w ∧ (Failure.source fault).family ≠ .input := by
  by_cases hhalved : Source.Halved w.disk w.base path
  · exact .inl hhalved
  · refine .inr ⟨fun g => loadGraph_eq_ok_iff, ?_, ?_⟩
    · intro e w' h
      cases hload : Source.load w.disk w.base path with
      | ok g =>
        obtain ⟨w'', hrun⟩ := loadGraph_of_ok hload
        rw [hrun] at h
        cases h
      | error fault =>
        rw [loadGraph_of_error hload] at h
        cases h
        refine ⟨rfl, ?_⟩
        obtain hinput | hescapes := Source.escapes_of_load hhalved fault hload
        · exact .inl hinput
        · exact .inr ⟨fault, rfl, hescapes⟩
    · intro fault h
      exact ⟨loadGraph_of_error (Source.load_of_escapes h), Source.family_of_escapes h⟩

/-- A world with a compressed document that lacks its end. -/
def cutWorld : World :=
  { disk := { entries := [(["g.json.gz"],
      .file (.compressed (Text.Utf8.encode "\x7b\"nodes\": []\x7d") false))] } }

/-- The file is there and it was a graph source, and yet its fault is none of the input, and none of
    the program's own. -/
theorem cut_source_escapes :
    loadGraph (Path.ofString "g.json.gz") cutWorld
        = .error (.source (.notUnpacked (Path.ofString "g.json.gz") .cutShort)) cutWorld
      ∧ (Failure.source (.notUnpacked (Path.ofString "g.json.gz") .cutShort)).family = .endOfInput
      ∧ (Failure.source (.notUnpacked (Path.ofString "g.json.gz") .cutShort)).isOwn = false := by
  have hsuffix : (Path.ofString "g.json.gz").suffix = Source.compressedSuffix := by decide
  have hclean : (Path.ofString "g.json.gz").Clean := by decide
  have hlocate : cutWorld.disk.locate cutWorld.base (Path.ofString "g.json.gz")
      = .ok ["g.json.gz"] := by rfl
  have hfile := Source.file?_of_found hclean hlocate (by rfl)
  have hreadable : cutWorld.disk.readRefused? cutWorld.base (Path.ofString "g.json.gz") = none := by
    rw [Disk.readRefused?, hlocate]
    rfl
  have hescapes : Source.Escapes cutWorld.disk cutWorld.base (Path.ofString "g.json.gz")
      (.notUnpacked (Path.ofString "g.json.gz") .cutShort) :=
    .unpacked ⟨Source.lookRefused?_of_file? hfile, hfile, hreadable⟩ hsuffix
      (Content.unpack_of_cut _) rfl
  exact ⟨loadGraph_of_error (Source.load_of_escapes hescapes), rfl, rfl⟩

end Service

end CallExcerpt
