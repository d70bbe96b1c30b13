import CallExcerpt.Proofs.Request.Broken

/-! # Other spellings of a request

    A record need not be written as the encoder writes it: blanks may stand
    around names, items may be empty, a depth may be spelled in many ways, and
    so may a path. All that is lost when the record is read. So nothing keeps
    the request that was read from being written, and nothing of it is lost
    when it is read again.

    * `ReadFrom`: where the parts of a request come from among some texts, and
      `readFrom_of_decodeFields`.
    * `ReadFrom.sendable`: what is read from texts without separators can be sent.
    * `ReadFrom.received`: what is read has nothing left to lose.
    * `decode_settles`: from any spelling, one writing leads to a record that
      tells the same request.
-/

namespace CallExcerpt.Wire

open Text (isWritable)

variable {r : Request} {text : String} {texts : List String}

/-! ## Items of lists -/

/-- Stripping takes characters away, and adds none. -/
theorem mem_of_mem_strip {s : String} {c : Char} (h : c ∈ (Text.strip s).toList) :
    c ∈ s.toList := by
  rw [Text.strip, String.toList_ofList] at h
  exact Text.mem_of_mem_trimBoth h

theorem mem_of_mem_splitNames {name : String} (h : name ∈ splitNames text) {c : Char}
    (hc : c ∈ name.toList) : c ∈ text.toList := by
  obtain ⟨-, piece, hpiece, rfl⟩ := mem_splitNames_iff.mp h
  exact Text.mem_of_mem_splitAt hpiece (mem_of_mem_strip hc)

theorem nameSeparator_not_mem_of_mem_splitNames {name : String} (h : name ∈ splitNames text) :
    nameSeparator ∉ name.toList := by
  obtain ⟨-, piece, hpiece, rfl⟩ := mem_splitNames_iff.mp h
  intro hmem
  exact Text.not_mem_of_mem_splitAt hpiece (mem_of_mem_strip hmem)

theorem mem_splitPatterns_iff {pattern : String} :
    pattern ∈ splitPatterns text
      ↔ pattern ∈ Text.splitAt patternSeparator text ∧ pattern ≠ "" := by
  simp [splitPatterns]

theorem filter_splitPatterns (text : String) :
    (splitPatterns text).filter (· ≠ "") = splitPatterns text := by
  rw [splitPatterns, List.filter_filter]
  simp

theorem filter_said? (text : String) : (said? text).filter (· ≠ "") = said? text := by
  by_cases h : text = ""
  · simp [said?, h]
  · simp [said?, h]

/-! ## Where a request comes from -/

/-- Where the parts of a request come from among some texts. -/
structure ReadFrom (texts : List String) (r : Request) : Prop where
  names : ∀ l ∈ [r.roots, r.ignore, r.shown], ∃ t ∈ texts, l = splitNames t
  patterns : ∀ l ∈ [r.rootPatterns, r.ignorePatterns, r.shownPatterns],
    ∃ t ∈ texts, l = splitPatterns t
  options : ∀ o ∈ [r.goal, r.size], ∃ t ∈ texts, o = said? t
  plain : ∀ t ∈ [r.format, r.font, r.rankdir], t ∈ texts
  output : ∃ t ∈ texts, r.output = Path.ofString t
  depth : ∃ t ∈ texts, decodeDepth t = .ok r.maxDepth

theorem readFrom_of_decodeFields (h : decodeFields texts = .ok r) : ReadFrom texts r := by
  unfold decodeFields at h
  split at h
  case h_2 => cases h
  case h_1 =>
    -- only these six fields can be refused; all others are read whatever they hold
    obtain ⟨direction, -, h⟩ := Success.of_bind h
    obtain ⟨maxDepth, hdepth, h⟩ := Success.of_bind h
    obtain ⟨trim, -, h⟩ := Success.of_bind h
    obtain ⟨noExtern, -, h⟩ := Success.of_bind h
    obtain ⟨allLocations, -, h⟩ := Success.of_bind h
    obtain ⟨keep, -, h⟩ := Success.of_bind h
    cases h
    constructor
    case names =>
      simp only [List.forall_mem_cons]
      exact ⟨⟨_, by simp, rfl⟩, ⟨_, by simp, rfl⟩, ⟨_, by simp, rfl⟩, List.forall_mem_nil _⟩
    case patterns =>
      simp only [List.forall_mem_cons]
      exact ⟨⟨_, by simp, rfl⟩, ⟨_, by simp, rfl⟩, ⟨_, by simp, rfl⟩, List.forall_mem_nil _⟩
    case options =>
      simp only [List.forall_mem_cons]
      exact ⟨⟨_, by simp, rfl⟩, ⟨_, by simp, rfl⟩, List.forall_mem_nil _⟩
    case plain => simp
    case output => exact ⟨_, by simp, rfl⟩
    case depth => exact ⟨_, by simp, hdepth⟩

theorem isWritable_of_decodeDepth {depth : Option Int} (h : decodeDepth text = .ok depth) :
    ∀ n ∈ depth, isWritable n = true := by
  intro n hn
  unfold decodeDepth at h
  split at h
  · cases h
    cases hn
  · split at h
    case h_1 m hread =>
      cases h
      cases hn
      exact decide_eq_true (Text.length_toDigits_of_readInteger? hread)
    case h_2 => cases h

theorem clear_of_subset {s : String} (ht : Clear text) (h : ∀ c ∈ s.toList, c ∈ text.toList) :
    Clear s :=
  ⟨fun hmem => ht.1 (h _ hmem), fun hmem => ht.2 (h _ hmem)⟩

theorem clear_said? (h : Clear text) : Clear ((said? text).getD "") := by
  unfold said?
  split
  · exact ⟨List.not_mem_nil, List.not_mem_nil⟩
  · exact h

theorem clear_ofString (h : Clear text) : Clear (Path.ofString text).toString := by
  have hmem : ∀ c ∈ (Path.ofString text).toString.toList, c = '/' ∨ c = '.' ∨ c ∈ text.toList := by
    intro c hc
    refine (Path.mem_toString hc).imp_right (Or.imp_right ?_)
    rintro ⟨name, hname, hcname⟩
    exact Path.mem_of_mem_parts_ofString hname hcname
  constructor
  · intro hf
    have hin : fieldSeparator ∈ text.toList := by simpa [fieldSeparator] using hmem _ hf
    exact h.1 hin
  · intro hr
    have hin : recordSeparator ∈ text.toList := by simpa [recordSeparator] using hmem _ hr
    exact h.2 hin

/-- Nothing that is read from texts without separators holds one, and no depth that is read is
    too long. -/
theorem ReadFrom.sendable (h : ReadFrom texts r) (hclear : ∀ t ∈ texts, Clear t) : Sendable r := by
  have hname : ∀ l ∈ [r.roots, r.ignore, r.shown], ∀ name ∈ l,
      nameSeparator ∉ name.toList ∧ Clear name := by
    intro l hl name hname
    obtain ⟨t, ht, rfl⟩ := h.names l hl
    exact ⟨nameSeparator_not_mem_of_mem_splitNames hname,
      clear_of_subset (hclear t ht) fun c hc => mem_of_mem_splitNames hname hc⟩
  have hpattern : ∀ l ∈ [r.rootPatterns, r.ignorePatterns, r.shownPatterns], ∀ pattern ∈ l,
      patternSeparator ∉ pattern.toList ∧ Clear pattern := by
    intro l hl pattern hpattern
    obtain ⟨t, ht, rfl⟩ := h.patterns l hl
    have hpiece := (mem_splitPatterns_iff.mp hpattern).1
    exact ⟨Text.not_mem_of_mem_splitAt hpiece,
      clear_of_subset (hclear t ht) fun c hc => Text.mem_of_mem_splitAt hpiece hc⟩
  have hoption : ∀ o ∈ [r.goal, r.size], Clear (o.getD "") := by
    intro o ho
    obtain ⟨t, ht, rfl⟩ := h.options o ho
    exact clear_said? (hclear t ht)
  have houtput : Clear r.output.toString := by
    obtain ⟨t, ht, houtput⟩ := h.output
    rw [houtput]
    exact clear_ofString (hclear t ht)
  constructor
  case names =>
    simp only [Wire.names, List.forall_mem_append]
    exact ⟨⟨hname r.roots (by simp), hname r.ignore (by simp)⟩, hname r.shown (by simp)⟩
  case patterns =>
    simp only [Wire.patterns, List.forall_mem_append]
    exact ⟨⟨hpattern r.rootPatterns (by simp), hpattern r.ignorePatterns (by simp)⟩,
      hpattern r.shownPatterns (by simp)⟩
  case texts =>
    have hplain : ∀ t ∈ [r.format, r.font, r.rankdir], Clear t :=
      fun t ht => hclear t (h.plain t ht)
    simp only [plainTexts, List.forall_mem_cons]
    exact ⟨hoption r.goal (by simp), houtput, hplain r.format (by simp), hplain r.font (by simp),
      hoption r.size (by simp), hplain r.rankdir (by simp), List.forall_mem_nil _⟩
  case depth =>
    obtain ⟨t, -, hdepth⟩ := h.depth
    exact isWritable_of_decodeDepth hdepth

/-- What is read has lost all that a record cannot tell. -/
theorem ReadFrom.received (h : ReadFrom texts r) : received r = r := by
  have hname : ∀ l ∈ [r.roots, r.ignore, r.shown], readNames l = l := by
    intro l hl
    obtain ⟨t, -, rfl⟩ := h.names l hl
    exact readNames_splitNames t
  have hpattern : ∀ l ∈ [r.rootPatterns, r.ignorePatterns, r.shownPatterns],
      l.filter (· ≠ "") = l := by
    intro l hl
    obtain ⟨t, -, rfl⟩ := h.patterns l hl
    exact filter_splitPatterns t
  have hoption : ∀ o ∈ [r.goal, r.size], o.filter (· ≠ "") = o := by
    intro o ho
    obtain ⟨t, -, rfl⟩ := h.options o ho
    exact filter_said? t
  rw [Wire.received, hname r.roots (by simp), hname r.ignore (by simp), hname r.shown (by simp),
    hpattern r.rootPatterns (by simp), hpattern r.ignorePatterns (by simp),
    hpattern r.shownPatterns (by simp), hoption r.goal (by simp), hoption r.size (by simp)]

theorem ReadFrom.normal (h : ReadFrom texts r) : r.output.Normal := by
  obtain ⟨t, -, houtput⟩ := h.output
  rw [houtput]
  exact Path.normal_ofString t

/-! ## Records in any spelling -/

/-- No record separator stands inside of a text; at its ends there may be some. -/
def Undivided (text : String) : Prop := recordSeparator ∉ Text.trimBoth isAround text.toList

instance (text : String) : Decidable (Undivided text) :=
  inferInstanceAs (Decidable (_ ∉ _))

/-- A request is read from the pieces of its record, which hold no separator of fields, and no
    separator of records that the record does not hold inside. -/
theorem exists_readFrom_of_decode (hwhole : Undivided text) (h : decode text = .ok r) :
    ∃ texts, ReadFrom texts r ∧ ∀ t ∈ texts, Clear t := by
  -- what is cut at separators holds none, and what is cut off a text holds nothing new
  have hclear : ∀ t ∈ (Text.pieces fieldSeparator (Text.trimBoth isAround text.toList)).map
      String.ofList, Clear t := by
    intro t ht
    have hpiece : t ∈ Text.splitAt fieldSeparator
        (String.ofList (Text.trimBoth isAround text.toList)) := by
      rw [Text.splitAt, String.toList_ofList]
      exact ht
    refine ⟨Text.not_mem_of_mem_splitAt hpiece, fun hmem => hwhole ?_⟩
    rw [← String.toList_ofList (l := Text.trimBoth isAround text.toList)]
    exact Text.mem_of_mem_splitAt hpiece hmem
  unfold decode at h
  split at h
  case h_1 => cases h
  case h_2 first rest hpieces =>
    split at h
    case isFalse => cases h
    case isTrue =>
      rw [hpieces] at hclear
      exact ⟨rest, readFrom_of_decodeFields h, fun t ht => hclear t (List.mem_cons_of_mem _ ht)⟩

/-- Whatever its spelling, a text without a record separator inside is refused as a record, or tells
    a request that has a record, and this record tells the same request. -/
theorem decode_settles (text : String) (hwhole : Undivided text) :
    Refused text ∨ ∃ r record, decode text = .ok r ∧ encode r = .ok record
      ∧ decode record = .ok r := by
  cases hdecode : decode text with
  | error fault => exact .inl ⟨fault, hdecode, courteous_decode text fault hdecode⟩
  | ok r =>
    obtain ⟨texts, hread, hclear⟩ := exists_readFrom_of_decode hwhole hdecode
    have hencode := encode_of_sendable (hread.sendable hclear)
    refine .inr ⟨r, _, rfl, hencode, ?_⟩
    rw [decode_of_encode hencode, reread_eq hread.normal, hread.received]

/-- A record as its encoder would never write it: blanks, empty items, a depth with zeros at its
    front, an underscore and digits of another script, a path with empty names, line ends and more
    than one record separator. -/
def looseRecord : String :=
  "\ncallslice/1\x1f main ;; work\t;\x1f\x1d^a;b$\x1d\x1fforward\x1f +0_0٣ \x1f;\x1f\x1f\x1f\x1f1\x1f0\x1f0\x1f"
    ++ "\x1f.//out/./a.svg/\x1fsvg\x1fHelvetica\x1f\x1fLR\x1f0\x1e\r\n\x1e"

/-- What it tells. -/
def looseRequest : Request where
  roots := ["main", "work"]
  rootPatterns := ["^a;b$"]
  maxDepth := some 3
  trim := true
  output := { parts := ["out", "a.svg"] }

theorem decode_settles_looseRecord :
    Undivided looseRecord ∧ ∃ record, decode looseRecord = .ok looseRequest
      ∧ encode looseRequest = .ok record ∧ decode record = .ok looseRequest := by
  have hwhole : Undivided looseRecord := by decide +kernel
  have hdecode : decode looseRecord = .ok looseRequest := by decide +kernel
  refine ⟨hwhole, ?_⟩
  obtain ⟨fault, hfault, -⟩ | ⟨r, record, hr, hrecord, hagain⟩ := decode_settles looseRecord hwhole
  · rw [hdecode] at hfault
    cases hfault
  · obtain rfl : looseRequest = r := by
      rw [hdecode] at hr
      exact Except.ok.inj hr
    exact ⟨record, hdecode, hrecord, hagain⟩

end CallExcerpt.Wire
