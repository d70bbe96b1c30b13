import CallExcerpt.Failure
import CallExcerpt.Proofs.Files.Path
import CallExcerpt.Proofs.Text.Numeral

/-! # Requests that travel

    A request has a record exactly if no text of it holds a separator that its
    place in the record does not allow, and its depth can be written. What is
    read from the record is the request, but for what a record cannot tell:
    blanks around names, and what is empty.

    * `Sendable`: nothing keeps the request from having a record.
    * `encode_of_sendable`, `exists_fault_of_not_sendable`: what `encode` does
      in either case.
    * `received`: the request without what a record cannot tell.
    * `decode_around`: what is read from a record, whatever line ends and
      record separators stand around it.
    * `record_tells_request`: both together, as sender and receiver see them.
-/

namespace CallExcerpt.Wire

open Text (isWritable)

/-! ## Computations in a row -/

section mapM
variable {ε α : Type} {computations : List (Except ε α)}

theorem mapM_id_of_ok (values : List α) :
    (values.map (Except.ok (ε := ε))).mapM id = .ok values := by
  induction values with
  | nil => rfl
  | cons value values ih =>
    rw [List.map_cons, List.mapM_cons, ih]
    rfl

theorem mem_of_mapM_id_error {e : ε} (h : computations.mapM id = .error e) :
    .error e ∈ computations := by
  induction computations with
  | nil => cases h
  | cons x xs ih =>
    rw [List.mapM_cons] at h
    cases x with
    | error e' =>
      have he : e' = e := by simpa [bind, Except.bind] using h
      simp [he]
    | ok a =>
      cases hxs : xs.mapM id with
      | error e' =>
        have he : e' = e := by simpa [bind, Except.bind, hxs] using h
        exact List.mem_cons_of_mem _ (ih (he ▸ hxs))
      | ok as =>
        rw [hxs] at h
        cases h

theorem forall_ok_of_mapM_id {values : List α} (h : computations.mapM id = .ok values) :
    ∀ x ∈ computations, ∃ a, x = .ok a := by
  induction computations generalizing values with
  | nil => simp
  | cons x xs ih =>
    rw [List.mapM_cons] at h
    cases x with
    | error e => cases h
    | ok a =>
      cases hxs : xs.mapM id with
      | error e =>
        rw [hxs] at h
        cases h
      | ok as =>
        intro y hy
        rcases List.mem_cons.mp hy with rfl | hmem
        · exact ⟨a, rfl⟩
        · exact ih hxs y hmem

end mapM

/-! ## One field -/

/-- Does a text hold no separator of fields or records? -/
def Clear (text : String) : Prop :=
  fieldSeparator ∉ text.toList ∧ recordSeparator ∉ text.toList

instance (text : String) : Decidable (Clear text) :=
  inferInstanceAs (Decidable (_ ∧ _))

theorem holds_eq_false_iff {separators : List Char} {text : String} :
    holds separators text = false ↔ ∀ c ∈ separators, c ∉ text.toList := by
  rw [holds, List.any_eq_false]
  constructor
  · intro h c hc hmem
    exact h c hmem (by simpa using hc)
  · intro h c hmem hc
    exact h c (by simpa using hc) hmem

theorem clear_joinWith_iff {sep : Char} {texts : List String} (hf : fieldSeparator ≠ sep)
    (hr : recordSeparator ≠ sep) :
    Clear (Text.joinWith sep texts) ↔ ∀ t ∈ texts, Clear t := by
  simp only [Clear, Text.mem_joinWith_iff hf, Text.mem_joinWith_iff hr, not_exists, not_and]
  exact ⟨fun h t ht => ⟨h.1 t ht, h.2 t ht⟩, fun h => ⟨fun t ht => (h t ht).1, fun t ht => (h t ht).2⟩⟩

theorem encodeText_eq_ok_iff {field text t : String} :
    encodeText field text = .ok t ↔ t = text ∧ Clear text := by
  have hclear : holds [fieldSeparator, recordSeparator] text = false ↔ Clear text := by
    rw [holds_eq_false_iff]
    simp [Clear]
  unfold encodeText
  cases hh : holds [fieldSeparator, recordSeparator] text with
  | true =>
    have hnot : ¬ Clear text := fun hc => by simp [hclear.mpr hc] at hh
    simp [hnot]
  | false => simp [hclear.mp hh, eq_comm]

theorem encodeNames_eq_ok_iff {field t : String} {names : List String} :
    encodeNames field names = .ok t
      ↔ t = Text.joinWith nameSeparator names
        ∧ ∀ name ∈ names, nameSeparator ∉ name.toList ∧ Clear name := by
  have hnames : names.any (holds [nameSeparator]) = false
      ↔ ∀ name ∈ names, nameSeparator ∉ name.toList := by
    simp only [List.any_eq_false, Bool.not_eq_true, holds_eq_false_iff, List.mem_singleton,
      forall_eq]
  unfold encodeNames
  cases hh : names.any (holds [nameSeparator]) with
  | true =>
    have hnot : ¬ ∀ name ∈ names, nameSeparator ∉ name.toList ∧ Clear name := by
      intro hall
      rw [hnames.mpr fun name hname => (hall name hname).1] at hh
      cases hh
    simp [hnot]
  | false =>
    rw [if_neg (by simp), encodeText_eq_ok_iff, clear_joinWith_iff (by decide) (by decide)]
    have hno := hnames.mp hh
    exact and_congr_right fun _ =>
      ⟨fun h name hname => ⟨hno name hname, h name hname⟩, fun h name hname => (h name hname).2⟩

theorem encodePatterns_eq_ok_iff {field t : String} {patterns : List String} :
    encodePatterns field patterns = .ok t
      ↔ t = Text.joinWith patternSeparator patterns
        ∧ ∀ pattern ∈ patterns, patternSeparator ∉ pattern.toList ∧ Clear pattern := by
  have hpatterns : patterns.any (holds [fieldSeparator, recordSeparator, patternSeparator]) = false
      ↔ ∀ pattern ∈ patterns, patternSeparator ∉ pattern.toList ∧ Clear pattern := by
    simp only [List.any_eq_false, Bool.not_eq_true, holds_eq_false_iff, Clear, List.mem_cons,
      List.not_mem_nil, or_false, forall_eq_or_imp, forall_eq]
    exact forall₂_congr fun _ _ => ⟨fun ⟨hf, hr, hp⟩ => ⟨hp, hf, hr⟩, fun ⟨hp, hf, hr⟩ => ⟨hf, hr, hp⟩⟩
  unfold encodePatterns
  cases hh : patterns.any (holds [fieldSeparator, recordSeparator, patternSeparator]) with
  | true =>
    have hnot : ¬ ∀ pattern ∈ patterns, patternSeparator ∉ pattern.toList ∧ Clear pattern := by
      intro hall
      rw [hpatterns.mpr hall] at hh
      cases hh
    simp [hnot]
  | false =>
    have hall := hpatterns.mp hh
    rw [if_neg (by simp), encodeText_eq_ok_iff, clear_joinWith_iff (by decide) (by decide)]
    exact and_congr_right fun _ => ⟨fun _ => hall, fun h pattern hp => (h pattern hp).2⟩

/-- The text of a depth that can be written. -/
def depthText : Option Int → String
  | none => ""
  | some n => toString n

theorem clear_depthText (depth : Option Int) : Clear (depthText depth) := by
  cases depth with
  | none => exact ⟨List.not_mem_nil, List.not_mem_nil⟩
  | some n =>
    have hdigit : ∀ c : Char, c.isDigit = false → c ≠ '-' → c ∉ (toString n).toList := by
      intro c hc hsign hmem
      rcases Text.mem_toString_int hmem with rfl | hd
      · exact hsign rfl
      · simp [hc] at hd
    exact ⟨hdigit _ (by decide) (by decide), hdigit _ (by decide) (by decide)⟩

theorem encodeDepth_eq_ok_iff {field t : String} {depth : Option Int} :
    encodeDepth field depth = .ok t ↔ t = depthText depth ∧ ∀ n ∈ depth, isWritable n = true := by
  have hclear := clear_depthText depth
  cases depth with
  | none => simpa [encodeDepth, encodeText_eq_ok_iff, depthText] using fun _ => hclear
  | some n =>
    cases hn : isWritable n with
    | true => simpa [encodeDepth, encodeText_eq_ok_iff, depthText, hn] using fun _ => hclear
    | false => simp [encodeDepth, hn]

theorem clear_encodeFlag (b : Bool) : Clear (encodeFlag b) := by
  cases b
  · exact ⟨by decide, by decide⟩
  · exact ⟨by decide, by decide⟩

theorem clear_word (d : Direction) : Clear d.word := by
  cases d
  · exact ⟨by decide, by decide⟩
  · exact ⟨by decide, by decide⟩

/-! ## Sending -/

/-- The names in a request. -/
def names (r : Request) : List String := r.roots ++ r.ignore ++ r.shown

/-- The patterns in a request. -/
def patterns (r : Request) : List String := r.rootPatterns ++ r.ignorePatterns ++ r.shownPatterns

/-- The texts in a request that are neither names nor patterns, as they stand in its record; the
    others hold no separator. -/
def plainTexts (r : Request) : List String :=
  [r.goal.getD "", r.output.toString, r.format, r.font, r.size.getD "", r.rankdir]

/-- Nothing keeps the request from having a record. -/
structure Sendable (r : Request) : Prop where
  names : ∀ name ∈ names r, nameSeparator ∉ name.toList ∧ Clear name
  patterns : ∀ pattern ∈ patterns r, patternSeparator ∉ pattern.toList ∧ Clear pattern
  texts : ∀ text ∈ plainTexts r, Clear text
  depth : ∀ n ∈ r.maxDepth, isWritable n = true

instance (r : Request) : Decidable (Sendable r) :=
  decidable_of_iff
    ((∀ name ∈ names r, nameSeparator ∉ name.toList ∧ Clear name)
      ∧ (∀ pattern ∈ patterns r, patternSeparator ∉ pattern.toList ∧ Clear pattern)
      ∧ (∀ text ∈ plainTexts r, Clear text) ∧ ∀ n ∈ r.maxDepth, isWritable n = true)
    ⟨fun ⟨hnames, hpatterns, htexts, hdepth⟩ => ⟨hnames, hpatterns, htexts, hdepth⟩,
      fun h => ⟨h.names, h.patterns, h.texts, h.depth⟩⟩

/-- The texts of the fields of a request that can be sent. -/
def fieldTexts (r : Request) : List String := [
  Text.joinWith nameSeparator r.roots,
  Text.joinWith patternSeparator r.rootPatterns,
  r.direction.word,
  depthText r.maxDepth,
  Text.joinWith nameSeparator r.ignore,
  Text.joinWith patternSeparator r.ignorePatterns,
  Text.joinWith nameSeparator r.shown,
  Text.joinWith patternSeparator r.shownPatterns,
  encodeFlag r.trim,
  encodeFlag r.noExtern,
  encodeFlag r.allLocations,
  r.goal.getD "",
  r.output.toString,
  r.format,
  r.font,
  r.size.getD "",
  r.rankdir,
  encodeFlag r.keep]

/-- A record without the separator at its end. -/
def body (r : Request) : String := Text.joinWith fieldSeparator (tag :: fieldTexts r)

theorem fields_of_sendable {r : Request} (h : Sendable r) :
    fields r = (fieldTexts r).map .ok := by
  have names_ok (field : String) (l : List String) (hl : l ⊆ names r) :
      encodeNames field l = .ok (Text.joinWith nameSeparator l) :=
    encodeNames_eq_ok_iff.mpr ⟨rfl, fun name hname => h.names name (hl hname)⟩
  have patterns_ok (field : String) (l : List String) (hl : l ⊆ patterns r) :
      encodePatterns field l = .ok (Text.joinWith patternSeparator l) :=
    encodePatterns_eq_ok_iff.mpr ⟨rfl, fun pattern hp => h.patterns pattern (hl hp)⟩
  have text_ok (field text : String) (ht : text ∈ plainTexts r) :
      encodeText field text = .ok text :=
    encodeText_eq_ok_iff.mpr ⟨rfl, h.texts text ht⟩
  have flag_ok (field : String) (b : Bool) : encodeText field (encodeFlag b) = .ok (encodeFlag b) :=
    encodeText_eq_ok_iff.mpr ⟨rfl, clear_encodeFlag b⟩
  have direction_ok : encodeText "direction" r.direction.word = .ok r.direction.word :=
    encodeText_eq_ok_iff.mpr ⟨rfl, clear_word r.direction⟩
  have depth_ok : encodeDepth "max_depth" r.maxDepth = .ok (depthText r.maxDepth) :=
    encodeDepth_eq_ok_iff.mpr ⟨rfl, h.depth⟩
  unfold fields fieldTexts
  rw [names_ok "roots" r.roots (by simp [names]), names_ok "ignore" r.ignore (by simp [names]),
    names_ok "show" r.shown (by simp [names]),
    patterns_ok "root_patterns" r.rootPatterns (by simp [patterns]),
    patterns_ok "ignore_patterns" r.ignorePatterns (by simp [patterns]),
    patterns_ok "show_patterns" r.shownPatterns (by simp [patterns]),
    text_ok "end_function" (r.goal.getD "") (by simp [plainTexts]),
    text_ok "output" r.output.toString (by simp [plainTexts]),
    text_ok "output_format" r.format (by simp [plainTexts]),
    text_ok "font" r.font (by simp [plainTexts]),
    text_ok "size" (r.size.getD "") (by simp [plainTexts]),
    text_ok "rankdir" r.rankdir (by simp [plainTexts]),
    direction_ok, depth_ok, flag_ok, flag_ok, flag_ok, flag_ok]
  rfl

theorem sendable_of_fields_ok {r : Request} (h : ∀ f ∈ fields r, ∃ t, f = .ok t) : Sendable r := by
  simp only [fields, List.forall_mem_cons, encodeNames_eq_ok_iff, encodePatterns_eq_ok_iff,
    encodeText_eq_ok_iff, encodeDepth_eq_ok_iff, exists_eq_left] at h
  obtain ⟨hroots, hrootPatterns, -, hdepth, hignore, hignorePatterns, hshown, hshownPatterns, -, -,
    -, hgoal, houtput, hformat, hfont, hsize, hrankdir, -, -⟩ := h
  refine ⟨?_, ?_, ?_, hdepth⟩
  · simp only [names, List.forall_mem_append]
    exact ⟨⟨hroots, hignore⟩, hshown⟩
  · simp only [patterns, List.forall_mem_append]
    exact ⟨⟨hrootPatterns, hignorePatterns⟩, hshownPatterns⟩
  · simp only [plainTexts, List.forall_mem_cons]
    exact ⟨hgoal, houtput, hformat, hfont, hsize, hrankdir, List.forall_mem_nil _⟩

theorem encode_of_sendable {r : Request} (h : Sendable r) :
    encode r = .ok ((body r).push recordSeparator) := by
  rw [encode, fields_of_sendable h, mapM_id_of_ok]
  rfl

theorem exists_fault_of_not_sendable {r : Request} (h : ¬ Sendable r) :
    ∃ fault, encode r = .error fault := by
  cases hr : (fields r).mapM id with
  | ok texts => exact absurd (sendable_of_fields_ok (forall_ok_of_mapM_id hr)) h
  | error fault =>
    refine ⟨fault, ?_⟩
    rw [encode, hr]
    rfl

theorem encode_eq_ok_iff {r : Request} {record : String} :
    encode r = .ok record ↔ Sendable r ∧ record = (body r).push recordSeparator := by
  constructor
  · intro h
    by_cases hs : Sendable r
    · rw [encode_of_sendable hs] at h
      exact ⟨hs, (Except.ok.inj h).symm⟩
    · obtain ⟨fault, hfault⟩ := exists_fault_of_not_sendable hs
      rw [hfault] at h
      cases h
  · rintro ⟨hs, rfl⟩
    exact encode_of_sendable hs

/-! ## What is read -/

/-- The names that are read from joined names. -/
def readNames (names : List String) : List String := (names.map Text.strip).filter (· ≠ "")

theorem mem_splitNames_iff {text name : String} :
    name ∈ splitNames text
      ↔ name ≠ "" ∧ ∃ piece ∈ Text.splitAt nameSeparator text, name = Text.strip piece := by
  rw [splitNames, List.mem_filter, List.mem_map, decide_eq_true_eq, and_comm]
  simp only [eq_comm]

/-- Names that were read have neither blanks at their ends nor an empty one among them. -/
theorem readNames_splitNames (text : String) : readNames (splitNames text) = splitNames text := by
  have hstripped : ∀ name ∈ splitNames text, Text.strip name = name := by
    intro name hname
    obtain ⟨-, piece, -, rfl⟩ := mem_splitNames_iff.mp hname
    exact Text.strip_strip piece
  have hfull : ∀ name ∈ splitNames text, decide (name ≠ "") = true := by
    intro name hname
    exact decide_eq_true (mem_splitNames_iff.mp hname).1
  rw [readNames, List.map_congr_left hstripped, List.map_id', List.filter_eq_self.mpr hfull]

theorem readNames_append (names more : List String) :
    readNames (names ++ more) = readNames names ++ readNames more := by
  simp [readNames]

/-- A request without what its record cannot tell: the blanks around names, empty names and
    patterns, and an empty goal or size. -/
def received (r : Request) : Request :=
  { r with
    roots := readNames r.roots
    rootPatterns := r.rootPatterns.filter (· ≠ "")
    ignore := readNames r.ignore
    ignorePatterns := r.ignorePatterns.filter (· ≠ "")
    shown := readNames r.shown
    shownPatterns := r.shownPatterns.filter (· ≠ "")
    goal := r.goal.filter (· ≠ "")
    size := r.size.filter (· ≠ "") }

theorem splitNames_joinWith {l : List String} (h : ∀ name ∈ l, nameSeparator ∉ name.toList) :
    splitNames (Text.joinWith nameSeparator l) = readNames l := by
  unfold splitNames readNames
  cases l with
  | nil => rfl
  | cons name rest => rw [Text.splitAt_joinWith (by simp) h]

theorem splitPatterns_joinWith {l : List String}
    (h : ∀ pattern ∈ l, patternSeparator ∉ pattern.toList) :
    splitPatterns (Text.joinWith patternSeparator l) = l.filter (· ≠ "") := by
  unfold splitPatterns
  cases l with
  | nil => rfl
  | cons pattern rest => rw [Text.splitAt_joinWith (by simp) h]

theorem decodeFlag_encodeFlag (field : String) (b : Bool) :
    decodeFlag field (encodeFlag b) = .ok b := by
  cases b <;> rfl

theorem decodeDirection_word (d : Direction) : decodeDirection d.word = .ok d := by
  cases d <;> rfl

theorem said?_getD (text : Option String) : said? (text.getD "") = text.filter (· ≠ "") := by
  cases text with
  | none => rfl
  | some t =>
    by_cases h : t = ""
    · simp [said?, Option.filter, h]
    · simp [said?, Option.filter, h]

theorem decodeDepth_depthText {depth : Option Int} (h : ∀ n ∈ depth, isWritable n = true) :
    decodeDepth (depthText depth) = .ok depth := by
  cases depth with
  | none => rfl
  | some n =>
    have hwritable : (Nat.toDigits 10 n.natAbs).length ≤ Text.maxDigits := by
      simpa [isWritable] using h n rfl
    have hne : toString n ≠ "" := by
      intro he
      have hchars := congrArg String.toList he
      rw [Text.toList_toString_int] at hchars
      have hnil : Nat.toDigits 10 n.natAbs = [] := (List.append_eq_nil_iff.mp hchars).2
      exact Nat.toDigits_ne_nil hnil
    rw [depthText, decodeDepth, if_neg hne, Text.readInteger?_toString hwritable]

/-- What is read from the record of a request; its path is read again from its text. -/
def reread (r : Request) : Request := { received r with output := Path.ofString r.output.toString }

theorem reread_eq {r : Request} (hout : r.output.Normal) : reread r = received r := by
  rw [reread, Path.ofString_toString hout]
  rfl

theorem decodeFields_fieldTexts {r : Request} (h : Sendable r) :
    decodeFields (fieldTexts r) = .ok (reread r) := by
  have names_eq (l : List String) (hl : l ⊆ names r) :
      splitNames (Text.joinWith nameSeparator l) = readNames l :=
    splitNames_joinWith fun name hname => (h.names name (hl hname)).1
  have patterns_eq (l : List String) (hl : l ⊆ patterns r) :
      splitPatterns (Text.joinWith patternSeparator l) = l.filter (· ≠ "") :=
    splitPatterns_joinWith fun pattern hp => (h.patterns pattern (hl hp)).1
  simp only [fieldTexts, decodeFields]
  rw [decodeDirection_word, decodeDepth_depthText h.depth, decodeFlag_encodeFlag,
    decodeFlag_encodeFlag, decodeFlag_encodeFlag, decodeFlag_encodeFlag,
    names_eq r.roots (by simp [names]), names_eq r.ignore (by simp [names]),
    names_eq r.shown (by simp [names]),
    patterns_eq r.rootPatterns (by simp [patterns]),
    patterns_eq r.ignorePatterns (by simp [patterns]),
    patterns_eq r.shownPatterns (by simp [patterns]),
    said?_getD, said?_getD]
  rfl

/-! ## Records -/

theorem clear_fieldTexts {r : Request} (h : Sendable r) : ∀ t ∈ fieldTexts r, Clear t := by
  have names_clear (l : List String) (hl : l ⊆ names r) :
      Clear (Text.joinWith nameSeparator l) :=
    (clear_joinWith_iff (by decide) (by decide)).mpr fun name hname => (h.names name (hl hname)).2
  have patterns_clear (l : List String) (hl : l ⊆ patterns r) :
      Clear (Text.joinWith patternSeparator l) :=
    (clear_joinWith_iff (by decide) (by decide)).mpr fun p hp => (h.patterns p (hl hp)).2
  have htexts := h.texts
  simp only [plainTexts, List.forall_mem_cons] at htexts
  obtain ⟨hgoal, houtput, hformat, hfont, hsize, hrankdir, -⟩ := htexts
  simp only [fieldTexts, List.forall_mem_cons]
  exact ⟨names_clear _ (by simp [names]), patterns_clear _ (by simp [patterns]), clear_word _,
    clear_depthText _, names_clear _ (by simp [names]), patterns_clear _ (by simp [patterns]),
    names_clear _ (by simp [names]), patterns_clear _ (by simp [patterns]), clear_encodeFlag _,
    clear_encodeFlag _, clear_encodeFlag _, hgoal, houtput, hformat, hfont, hsize, hrankdir,
    clear_encodeFlag _, List.forall_mem_nil _⟩

theorem pieces_body {r : Request} (h : Sendable r) :
    (Text.pieces fieldSeparator (body r).toList).map String.ofList = tag :: fieldTexts r := by
  have hclear : ∀ t ∈ tag :: fieldTexts r, fieldSeparator ∉ t.toList := by
    intro t ht
    rcases List.mem_cons.mp ht with rfl | hmem
    · decide
    · exact (clear_fieldTexts h t hmem).1
  rw [← Text.splitAt, body, Text.splitAt_joinWith (List.cons_ne_nil _ _) hclear]

theorem recordSeparator_not_mem_body {r : Request} (h : Sendable r) :
    recordSeparator ∉ (body r).toList := by
  rw [body, Text.mem_joinWith_iff (by decide)]
  rintro ⟨t, ht, hmem⟩
  rcases List.mem_cons.mp ht with rfl | hfield
  · revert hmem
    decide
  · exact (clear_fieldTexts h t hfield).2 hmem

/-- A record begins with its tag and ends with a flag, so that no character at its ends is lost. -/
theorem body_ends (r : Request) :
    ∃ middle, (body r).toList = tag.toList ++ middle ++ (encodeFlag r.keep).toList := by
  have hends : ∀ (first last : String) (rest : List String),
      ∃ middle, (Text.joinWith fieldSeparator (first :: (rest ++ [last]))).toList
        = first.toList ++ middle ++ last.toList := by
    intro first last rest
    induction rest generalizing first with
    | nil => exact ⟨[fieldSeparator], by simp [Text.joinWith, List.intercalate]⟩
    | cons next rest ih =>
      obtain ⟨middle, hmiddle⟩ := ih next
      refine ⟨fieldSeparator :: next.toList ++ middle, ?_⟩
      rw [List.cons_append, Text.toList_joinWith_cons_cons, hmiddle]
      simp
  exact hends tag (encodeFlag r.keep) ((fieldTexts r).dropLast)

theorem trim_around_body (r : Request) {before after : List Char}
    (hb : ∀ c ∈ before, isAround c) (ha : ∀ c ∈ after, isAround c) :
    Text.trimBoth isAround (before ++ (body r).toList ++ after) = (body r).toList := by
  obtain ⟨middle, hmiddle⟩ := body_ends r
  rw [Text.trimBoth_append hb ha]
  apply Text.trimBoth_of_ends
  · intro c hc
    have hfirst : c = 'c' := by simpa [hmiddle, tag, eq_comm] using hc
    subst hfirst
    decide
  · intro c hc
    rw [hmiddle, List.getLast?_append] at hc
    have hflag : c = '0' ∨ c = '1' := by
      cases hk : r.keep with
      | false => exact .inl (by simpa [hk, encodeFlag, eq_comm] using hc)
      | true => exact .inr (by simpa [hk, encodeFlag, eq_comm] using hc)
    rcases hflag with rfl | rfl
    · decide
    · decide

theorem decode_around {r : Request} (h : Sendable r) {before after : List Char}
    (hb : ∀ c ∈ before, isAround c) (ha : ∀ c ∈ after, isAround c) :
    decode (String.ofList (before ++ (body r).toList ++ after)) = .ok (reread r) := by
  unfold decode
  rw [String.toList_ofList, trim_around_body r hb ha, pieces_body h]
  simp only [if_true]
  exact decodeFields_fieldTexts h

theorem decode_body {r : Request} (h : Sendable r) : decode (body r) = .ok (reread r) := by
  have hnone : ∀ c ∈ ([] : List Char), isAround c := by simp
  simpa using decode_around h hnone hnone

theorem decode_of_encode {r : Request} {record : String} (h : encode r = .ok record) :
    decode record = .ok (reread r) := by
  obtain ⟨hs, rfl⟩ := encode_eq_ok_iff.mp h
  have hafter : ∀ c ∈ [recordSeparator], isAround c := by simp [isAround]
  have hrecord : String.ofList ([] ++ (body r).toList ++ [recordSeparator])
      = (body r).push recordSeparator := by
    rw [List.nil_append, ← String.toList_push, String.ofList_toList]
  rw [← hrecord]
  exact decode_around hs (by simp) hafter

/-! ## There and back -/

/-- A separator stands where the record does not allow it: one of names in a name, one of
    patterns, fields or records in a pattern, one of fields or records in any other text. -/
def HoldsSeparator (r : Request) : Prop :=
  (∃ name ∈ names r, nameSeparator ∈ name.toList)
  ∨ (∃ pattern ∈ patterns r,
      ∃ c ∈ [patternSeparator, fieldSeparator, recordSeparator], c ∈ pattern.toList)
  ∨ ∃ text ∈ names r ++ plainTexts r, ∃ c ∈ [fieldSeparator, recordSeparator], c ∈ text.toList

theorem sendable_iff {r : Request} :
    Sendable r ↔ ¬ HoldsSeparator r ∧ ∀ n ∈ r.maxDepth, isWritable n = true := by
  have hpattern (pattern : String) :
      (patternSeparator ∉ pattern.toList ∧ Clear pattern)
        ↔ ∀ c ∈ [patternSeparator, fieldSeparator, recordSeparator], c ∉ pattern.toList := by
    simp [Clear]
  have htext (text : String) :
      Clear text ↔ ∀ c ∈ [fieldSeparator, recordSeparator], c ∉ text.toList := by
    simp [Clear]
  have hholds : ¬ HoldsSeparator r
      ↔ (∀ name ∈ names r, nameSeparator ∉ name.toList)
        ∧ (∀ pattern ∈ patterns r, patternSeparator ∉ pattern.toList ∧ Clear pattern)
        ∧ ∀ text ∈ names r ++ plainTexts r, Clear text := by
    simp only [HoldsSeparator, not_or, not_exists, not_and, ← hpattern, ← htext]
  rw [hholds, List.forall_mem_append]
  constructor
  · intro h
    exact ⟨⟨fun name hn => (h.names name hn).1, h.patterns,
      fun name hn => (h.names name hn).2, h.texts⟩, h.depth⟩
  · rintro ⟨⟨hnames, hpatterns, hclear, htexts⟩, hdepth⟩
    exact ⟨fun name hn => ⟨hnames name hn, hclear name hn⟩, hpatterns, htexts, hdepth⟩

section faults
variable {field : String} {fault : Fault}

theorem fault_of_encodeText {text : String} (h : encodeText field text = .error fault) :
    fault = .separatorInText field := by
  unfold encodeText at h
  split at h
  · exact (Except.error.inj h).symm
  · cases h

theorem fault_of_encodeNames {l : List String} (h : encodeNames field l = .error fault) :
    fault = .separatorInName field ∨ fault = .separatorInText field := by
  unfold encodeNames at h
  split at h
  · exact .inl (Except.error.inj h).symm
  · exact .inr (fault_of_encodeText h)

theorem fault_of_encodePatterns {l : List String} (h : encodePatterns field l = .error fault) :
    fault = .separatorInText field := by
  unfold encodePatterns at h
  split at h
  · exact (Except.error.inj h).symm
  · exact fault_of_encodeText h

/-- With a depth that can be written, a field is refused for its separators only. -/
theorem family_of_mem_fields {r : Request} (hdepth : ∀ n ∈ r.maxDepth, isWritable n = true)
    (h : .error fault ∈ fields r) : (Failure.record fault).family = .config := by
  have depth_ok : encodeDepth "max_depth" r.maxDepth = .ok (depthText r.maxDepth) :=
    encodeDepth_eq_ok_iff.mpr ⟨rfl, hdepth⟩
  have hfault : ∃ field, fault = .separatorInName field ∨ fault = .separatorInText field := by
    simp only [fields, List.mem_cons, List.not_mem_nil, or_false, depth_ok, reduceCtorEq,
      false_or] at h
    -- one case for each field but the depth, all refused in one of three ways
    rcases h with h | h | h | h | h | h | h | h | h | h | h | h | h | h | h | h | h
    all_goals
      first
      | exact ⟨_, fault_of_encodeNames h.symm⟩
      | exact ⟨_, .inr (fault_of_encodePatterns h.symm)⟩
      | exact ⟨_, .inr (fault_of_encodeText h.symm)⟩
  obtain ⟨field, rfl | rfl⟩ := hfault
  · rfl
  · rfl

end faults

/-- A request whose depth can be written has no record exactly if it holds a separator. Its record,
    with or without the separator at its end and with any line ends around it, is read as the
    request itself, but for the blanks around names and for what is empty. -/
theorem record_tells_request (r : Request) (hout : r.output.Normal)
    (hdepth : ∀ n ∈ r.maxDepth, isWritable n = true) :
    (HoldsSeparator r
      ↔ ∃ fault, encode r = .error fault ∧ (Failure.record fault).family = .config)
    ∧ (¬ HoldsSeparator r → ∃ text : String, encode r = .ok (text.push recordSeparator)
        ∧ ∀ before after : List Char,
          (∀ c ∈ before, isAround c = true) → (∀ c ∈ after, isAround c = true) →
            decode (String.ofList (before ++ text.toList ++ after)) = .ok (received r)) := by
  have hsend : Sendable r ↔ ¬ HoldsSeparator r := by
    rw [sendable_iff]
    exact and_iff_left hdepth
  constructor
  · constructor
    · intro h
      -- the fault is that of one of the fields, and only separators are left to blame
      obtain ⟨fault, hfault⟩ := exists_fault_of_not_sendable fun hs => hsend.mp hs h
      refine ⟨fault, hfault, family_of_mem_fields hdepth ?_⟩
      cases hr : (fields r).mapM id with
      | ok texts =>
        rw [encode, hr] at hfault
        cases hfault
      | error e =>
        have he : e = fault := by simpa [encode, hr, bind, Except.bind] using hfault
        exact he ▸ mem_of_mapM_id_error hr
    · rintro ⟨fault, hfault, -⟩
      by_contra hno
      rw [encode_of_sendable (hsend.mpr hno)] at hfault
      cases hfault
  · intro hno
    have hs := hsend.mpr hno
    refine ⟨body r, encode_of_sendable hs, ?_⟩
    intro before after hb ha
    rw [← reread_eq hout]
    exact decode_around hs hb ha

/-- A request with something to lose in fields of every kind. -/
def losing : Request where
  roots := [" main\t", "\x0b", "a b"]
  rootPatterns := ["^x;y$", ""]
  maxDepth := some (-12)
  goal := some ""
  output := Path.ofString "/tmp//out.svg"
  font := "\r\n\"é\""
  size := some ""
  keep := true

theorem record_tells_losing :
    losing.output.Normal ∧ (∀ n ∈ losing.maxDepth, isWritable n = true)
    ∧ ∃ text : String, encode losing = .ok (text.push recordSeparator)
      ∧ decode ("\n" ++ text ++ "\x1e\r\n") = .ok { losing with
          roots := ["main", "a b"]
          rootPatterns := ["^x;y$"]
          goal := none
          size := none } := by
  have hout : losing.output.Normal := Path.normal_ofString _
  have hdepth : ∀ n ∈ losing.maxDepth, isWritable n = true := by
    intro n hn
    cases hn
    decide
  have hsendable : Sendable losing := by decide
  obtain ⟨-, hback⟩ := record_tells_request losing hout hdepth
  obtain ⟨text, htext, hdecode⟩ := hback (sendable_iff.mp hsendable).1
  refine ⟨hout, hdepth, text, htext, ?_⟩
  have hbefore : ∀ c ∈ ['\n'], isAround c = true := by simp [isAround]
  have hafter : ∀ c ∈ ['\x1e', '\r', '\n'], isAround c = true := by
    simp [isAround, recordSeparator]
  have h := hdecode ['\n'] ['\x1e', '\r', '\n'] hbefore hafter
  have hrecord : String.ofList (['\n'] ++ text.toList ++ ['\x1e', '\r', '\n'])
      = "\n" ++ text ++ "\x1e\r\n" := by
    rw [String.ofList_append, String.ofList_append, String.ofList_toList]
  rw [← hrecord, h]
  rfl

end CallExcerpt.Wire
