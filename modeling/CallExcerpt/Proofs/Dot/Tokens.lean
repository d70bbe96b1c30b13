import CallExcerpt.Dot.Quoting
import CallExcerpt.Text.Identifier
import CallExcerpt.Text.Pieces

/-! # Tokens of graph descriptions

    A reader goes through a description character by character. A text
    between quotes ends at the first quote that no backslash escapes; outside
    of quotes there are words, arrows and marks, and blanks between them.

    * `Spot`, `step`, `scan`: the reader and what it finds.
    * `Scans`: characters that a reader goes through from blank to blank.
    * `isWord_of_isIdentifier`: what words can be.
    * `Guarded`: what may stand between quotes; `scans_quoted`.
    * `unescaped`: what was meant between quotes; `unescaped_escaped` and
      `unescaped_escapedInLabel`.
    * `flatMap_escaped_eq`, `flatMap_escapedInLabel_eq`: texts are escaped in
      two rounds, and labels line by line.
-/

namespace CallExcerpt.Dot

/-! ## A reader -/

/-- What a description is made of. What stands between quotes is kept as it is written. -/
inductive Token where
  /-- Letters in a row. -/
  | word (letters : List Char)
  /-- A text between quotes. -/
  | quoted (written : List Char)
  /-- A dash and a greater sign. -/
  | arrow
  /-- A bracket, a brace or a separator. -/
  | mark (c : Char)
  deriving Repr, DecidableEq

/-- A character of words: a letter, a digit, an underscore or anything that is not ASCII. -/
def isLetter (c : Char) : Bool := c.isAlphanum || c = '_' || decide (128 ≤ c.toNat)

/-- A word. -/
def isWord (s : String) : Bool := s.toList ≠ [] && s.toList.all isLetter

/-- A character between tokens. -/
def isBlank (c : Char) : Bool := c = ' ' || c = '\t' || c = '\n'

/-- A character that is a token. -/
def isMark (c : Char) : Bool := c ∈ ['[', ']', '=', ',', ';', '\x7b', '\x7d']

/-- Where a reader stands. -/
inductive Spot where
  /-- Between tokens. -/
  | between
  /-- In a word, after some letters. -/
  | inWord (letters : List Char)
  /-- Between quotes, after some characters. -/
  | inQuotes (written : List Char)
  /-- Between quotes, after some characters and a backslash. -/
  | escaping (written : List Char)
  /-- After a dash. -/
  | afterDash
  deriving Repr, DecidableEq

/-- Where a reader stands after the first character of something, and the token that it was. -/
def start (c : Char) : Option (Spot × List Token) :=
  if isLetter c then some (.inWord [c], [])
  else if isBlank c then some (.between, [])
  else if isMark c then some (.between, [.mark c])
  else if c = '"' then some (.inQuotes [], [])
  else if c = '-' then some (.afterDash, [])
  else none

/-- Where a reader stands after a character, and the tokens that end there. -/
def step : Spot → Char → Option (Spot × List Token)
  | .between, c => start c
  | .inWord letters, c =>
    if isLetter c then some (.inWord (letters ++ [c]), [])
    else (start c).map fun r => (r.1, .word letters :: r.2)
  | .inQuotes written, c =>
    if c = '"' then some (.between, [.quoted written])
    else if c = '\\' then some (.escaping written, [])
    else some (.inQuotes (written ++ [c]), [])
  | .escaping written, c => some (.inQuotes (written ++ ['\\', c]), [])
  | .afterDash, c => if c = '>' then some (.between, [.arrow]) else none

/-- Where a reader stands after characters, and the tokens that it found. -/
def scan : Spot → List Char → Option (Spot × List Token)
  | spot, [] => some (spot, [])
  | spot, c :: cs =>
    (step spot c).bind fun r => (scan r.1 cs).map fun last => (last.1, r.2 ++ last.2)

/-- The tokens of a text, which has to end between tokens. -/
def tokens (text : String) : Option (List Token) :=
  match scan .between text.toList with
  | some (.between, found) => some found
  | _ => none

/-! ## Going on -/

theorem scan_cons {spot next : Spot} {c : Char} {found : List Token}
    (h : step spot c = some (next, found)) (cs : List Char) :
    scan spot (c :: cs) = (scan next cs).map fun last => (last.1, found ++ last.2) := by
  rw [scan, h, Option.bind_some]

theorem scan_append {spot next : Spot} {cs : List Char} {found : List Token}
    (h : scan spot cs = some (next, found)) (more : List Char) :
    scan spot (cs ++ more) = (scan next more).map fun last => (last.1, found ++ last.2) := by
  induction cs generalizing spot found with
  | nil =>
    obtain ⟨rfl, rfl⟩ : spot = next ∧ [] = found := by simpa [scan] using h
    simp
  | cons c cs ih =>
    rw [scan, Option.bind_eq_some_iff] at h
    obtain ⟨⟨spot', first⟩, hstep, h⟩ := h
    obtain ⟨⟨last, others⟩, hcs, hlast⟩ := Option.map_eq_some_iff.mp h
    cases hlast
    rw [List.cons_append, scan_cons hstep, ih hcs, Option.map_map]
    simp [Function.comp_def]

/-- Characters that a reader goes through from between tokens to between tokens. -/
def Scans (cs : List Char) (found : List Token) : Prop := scan .between cs = some (.between, found)

theorem Scans.nil : Scans [] [] := rfl

theorem Scans.append {cs more : List Char} {found others : List Token} (h : Scans cs found)
    (h' : Scans more others) : Scans (cs ++ more) (found ++ others) := by
  unfold Scans at h' ⊢
  rw [scan_append h, h', Option.map_some]

theorem tokens_of_scans {text : String} {found : List Token} (h : Scans text.toList found) :
    tokens text = some found := by
  unfold tokens
  rw [h]

theorem Scans.cons {c : Char} {cs : List Char} {found others : List Token}
    (h : start c = some (.between, found)) (h' : Scans cs others) :
    Scans (c :: cs) (found ++ others) := by
  have hstep : step .between c = some (.between, found) := h
  unfold Scans at h' ⊢
  rw [scan_cons hstep, h', Option.map_some]

/-! ## Words -/

theorem scan_letters (letters : List Char) {cs : List Char} (h : ∀ c ∈ cs, isLetter c = true) :
    scan (.inWord letters) cs = some (.inWord (letters ++ cs), []) := by
  induction cs generalizing letters with
  | nil => simp [scan]
  | cons c cs ih =>
    obtain ⟨hc, hcs⟩ := List.forall_mem_cons.mp h
    have hstep : step (.inWord letters) c = some (.inWord (letters ++ [c]), []) := by
      rw [step, if_pos hc]
    rw [scan_cons hstep, ih (letters ++ [c]) hcs, List.append_assoc]
    rfl

theorem start_of_isLetter {c : Char} (h : isLetter c = true) : start c = some (.inWord [c], []) := by
  rw [start, if_pos h]

/-- A word ends where something else starts. -/
theorem scans_word {word : String} (hword : isWord word = true) {c : Char} {found : List Token}
    (hc : isLetter c = false) (hstart : start c = some (.between, found)) :
    Scans (word.toList ++ [c]) (.word word.toList :: found) := by
  obtain ⟨hne, hall⟩ : word.toList ≠ [] ∧ ∀ c ∈ word.toList, isLetter c = true := by
    simpa [isWord] using hword
  obtain ⟨first, letters, hletters⟩ := List.exists_cons_of_ne_nil hne
  rw [hletters] at hall ⊢
  obtain ⟨hfirst, hothers⟩ := List.forall_mem_cons.mp hall
  have hin : scan .between (first :: letters) = some (.inWord (first :: letters), []) := by
    have hstep : step .between first = some (.inWord [first], []) := start_of_isLetter hfirst
    rw [scan_cons hstep, scan_letters [first] hothers]
    rfl
  have hstep : step (.inWord (first :: letters)) c
      = some (.between, .word (first :: letters) :: found) := by
    rw [step, hc, hstart]
    rfl
  unfold Scans
  rw [scan_append hin, scan_cons hstep]
  simp [scan]

/-! ## Identifiers -/

theorem beyond_ascii_of_mem_letterLikeRanges :
    ∀ r ∈ Text.letterLikeRanges, 128 ≤ r.1 := by
  decide +kernel

/-- The digits are the only ASCII characters with which an identifier goes on and does not begin. -/
theorem digits_or_beyond_ascii_of_mem_continuationRanges :
    ∀ r ∈ Text.continuationRanges, r = (0x30, 0x39) ∨ 128 ≤ r.1 := by
  decide +kernel

theorem bounds_of_inRanges {ranges : List (Nat × Nat)} {n : Nat}
    (h : Text.inRanges ranges n = true) : ∃ r ∈ ranges, r.1 ≤ n ∧ n ≤ r.2 := by
  simpa [Text.inRanges] using h

theorem isAlphanum_of_digit {c : Char} (hlow : 0x30 ≤ c.toNat) (hhigh : c.toNat ≤ 0x39) :
    c.isAlphanum = true := by
  have hdigit : c.isDigit = true := by
    simpa [Char.isDigit, UInt32.le_iff_toNat_le] using And.intro hlow hhigh
  simp [Char.isAlphanum, hdigit]

theorem isLetter_of_startsIdentifier {c : Char} (hc : c.toNat < 128)
    (h : Text.startsIdentifier c = true) : isLetter c = true := by
  rw [Text.startsIdentifier, Bool.or_eq_true, Bool.or_eq_true] at h
  obtain (hunderscore | hletter) | hlike := h
  · simp [isLetter, of_decide_eq_true hunderscore]
  · have halnum : Text.isAlphanumeric c = true :=
      (Bool.and_eq_true_iff.mp (Bool.and_eq_true_iff.mp hletter).1).1
    rw [Text.isAlphanumeric, if_pos hc] at halnum
    simp [isLetter, halnum]
  · obtain ⟨r, hr, hlow, -⟩ := bounds_of_inRanges hlike
    have hbeyond := beyond_ascii_of_mem_letterLikeRanges r hr
    omega

theorem isLetter_of_continuesIdentifier {c : Char} (h : Text.continuesIdentifier c = true) :
    isLetter c = true := by
  by_cases hc : c.toNat < 128
  · obtain hstarts | hgoes := Bool.or_eq_true_iff.mp h
    · exact isLetter_of_startsIdentifier hc hstarts
    · obtain ⟨r, hr, hlow, hhigh⟩ := bounds_of_inRanges hgoes
      obtain rfl | hbeyond := digits_or_beyond_ascii_of_mem_continuationRanges r hr
      · simp [isLetter, isAlphanum_of_digit hlow hhigh]
      · omega
  · simp [isLetter, Nat.le_of_not_lt hc]

/-- Identifiers are words. -/
theorem isWord_of_isIdentifier {s : String} (h : Text.isIdentifier s = true) : isWord s = true := by
  unfold Text.isIdentifier at h
  split at h
  · cases h
  · next c cs hs =>
    obtain ⟨hfirst, hothers⟩ := Bool.and_eq_true_iff.mp h
    have hstart : Text.continuesIdentifier c = true := by
      rw [Text.continuesIdentifier, hfirst, Bool.true_or]
    have hall : (c :: cs).all isLetter = true := by
      rw [List.all_eq_true]
      intro d hd
      rcases List.mem_cons.mp hd with rfl | hd
      · exact isLetter_of_continuesIdentifier hstart
      · exact isLetter_of_continuesIdentifier (List.all_eq_true.mp hothers d hd)
    rw [isWord, hs, hall]
    rfl

/-! ## Texts between quotes -/

/-- What may stand between quotes: each quote is escaped by a backslash, and each backslash escapes
    a character. -/
inductive Guarded : List Char → Prop
  | nil : Guarded []
  | plain {c : Char} {cs : List Char} (hquote : c ≠ '"') (hbackslash : c ≠ '\\') (h : Guarded cs) :
      Guarded (c :: cs)
  | escape (c : Char) {cs : List Char} (h : Guarded cs) : Guarded ('\\' :: c :: cs)

theorem scan_guarded {cs : List Char} (h : Guarded cs) (written : List Char) :
    scan (.inQuotes written) cs = some (.inQuotes (written ++ cs), []) := by
  -- along what is guarded: the reader is never at a quote, nor left after a backslash
  induction h generalizing written with
  | nil => simp [scan]
  | @plain c cs hquote hbackslash h ih =>
    have hstep : step (.inQuotes written) c = some (.inQuotes (written ++ [c]), []) := by
      rw [step, if_neg hquote, if_neg hbackslash]
    rw [scan_cons hstep, ih, List.append_assoc]
    rfl
  | @escape c cs h ih =>
    have hfirst : step (.inQuotes written) '\\' = some (.escaping written, []) := rfl
    have hsecond : step (.escaping written) c = some (.inQuotes (written ++ ['\\', c]), []) := rfl
    rw [scan_cons hfirst, scan_cons hsecond, ih, List.append_assoc]
    rfl

/-- A text between quotes ends at its last quote and nowhere before. -/
theorem scans_quoted {cs : List Char} (h : Guarded cs) :
    Scans ('"' :: cs ++ ['"']) [.quoted cs] := by
  have hopen : step .between '"' = some (.inQuotes [], []) := rfl
  have hclose : step (.inQuotes cs) '"' = some (.between, [.quoted cs]) := rfl
  unfold Scans
  rw [List.cons_append, scan_cons hopen, scan_append (scan_guarded h []), List.nil_append,
    scan_cons hclose]
  rfl

theorem guarded_escaped_append (c : Char) {cs : List Char} (h : Guarded cs) :
    Guarded (escaped c ++ cs) := by
  unfold escaped
  by_cases hc : (c = '\\' || c = '"') = true
  · rw [if_pos hc]
    exact h.escape c
  · rw [if_neg hc]
    obtain ⟨hbackslash, hquote⟩ : c ≠ '\\' ∧ c ≠ '"' := by simpa using hc
    exact h.plain hquote hbackslash

theorem guarded_escapedInLabel_append (c : Char) {cs : List Char} (h : Guarded cs) :
    Guarded (escapedInLabel c ++ cs) := by
  unfold escapedInLabel
  split
  · exact h.escape 'n'
  · exact guarded_escaped_append c h

theorem guarded_escaped (cs : List Char) : Guarded (cs.flatMap escaped) := by
  induction cs with
  | nil => exact .nil
  | cons c cs ih => exact guarded_escaped_append c ih

theorem guarded_escapedInLabel (cs : List Char) : Guarded (cs.flatMap escapedInLabel) := by
  induction cs with
  | nil => exact .nil
  | cons c cs ih => exact guarded_escapedInLabel_append c ih

/-! ## What was meant -/

/-- What was meant by characters between quotes, where `undo` tells what a backslash before a
    character stands for. -/
def unescaped (undo : Char → Option Char) : List Char → List Char
  | [] => []
  | [c] => [c]
  | c :: d :: cs =>
    match if c = '\\' then undo d else none with
    | some meant => meant :: unescaped undo cs
    | none => c :: unescaped undo (d :: cs)

/-- A backslash before a backslash or a quote stands for it. -/
def undoInText (c : Char) : Option Char := if c = '\\' || c = '"' then some c else none

/-- In a label a backslash before an `n` stands for a line end as well. -/
def undoInLabel (c : Char) : Option Char := if c = 'n' then some '\n' else undoInText c

theorem unescaped_plain (undo : Char → Option Char) {c : Char} (h : c ≠ '\\') (cs : List Char) :
    unescaped undo (c :: cs) = c :: unescaped undo cs := by
  cases cs with
  | nil => rfl
  | cons d cs => rw [unescaped, if_neg h]

theorem unescaped_escape {undo : Char → Option Char} {d meant : Char} (h : undo d = some meant)
    (cs : List Char) : unescaped undo ('\\' :: d :: cs) = meant :: unescaped undo cs := by
  rw [unescaped, if_pos rfl, h]

theorem unescaped_escaped_append {undo : Char → Option Char}
    (h : ∀ d, (d = '\\' || d = '"') = true → undo d = some d) (c : Char) (cs : List Char) :
    unescaped undo (escaped c ++ cs) = c :: unescaped undo cs := by
  unfold escaped
  by_cases hc : (c = '\\' || c = '"') = true
  · rw [if_pos hc]
    exact unescaped_escape (h c hc) cs
  · rw [if_neg hc]
    obtain ⟨hbackslash, -⟩ : c ≠ '\\' ∧ c ≠ '"' := by simpa using hc
    exact unescaped_plain undo hbackslash cs

theorem unescaped_escaped (cs : List Char) :
    unescaped undoInText (cs.flatMap escaped) = cs := by
  induction cs with
  | nil => rfl
  | cons c cs ih =>
    rw [List.flatMap_cons, unescaped_escaped_append, ih]
    intro d hd
    rw [undoInText, if_pos hd]

theorem unescaped_escapedInLabel_append (c : Char) (cs : List Char) :
    unescaped undoInLabel (escapedInLabel c ++ cs) = c :: unescaped undoInLabel cs := by
  unfold escapedInLabel
  by_cases hc : c = '\n'
  · rw [if_pos hc, hc]
    exact unescaped_escape (by rw [undoInLabel, if_pos rfl]) cs
  · rw [if_neg hc, unescaped_escaped_append]
    intro d hd
    -- an `n` is none of the characters that are escaped, so no escape is taken for a line end
    have hn : d ≠ 'n' := by
      rintro rfl
      revert hd
      decide
    rw [undoInLabel, if_neg hn, undoInText, if_pos hd]

theorem unescaped_escapedInLabel (cs : List Char) :
    unescaped undoInLabel (cs.flatMap escapedInLabel) = cs := by
  induction cs with
  | nil => rfl
  | cons c cs ih => rw [List.flatMap_cons, unescaped_escapedInLabel_append, ih]

/-! ## Escaping in rounds -/

/-- Characters with other ones in place of one of them. -/
def replaced (old : Char) (new : List Char) (cs : List Char) : List Char :=
  cs.flatMap fun c => if c = old then new else [c]

/-- Backslashes are escaped in a first round and quotes in a second one. -/
theorem flatMap_escaped_eq (cs : List Char) :
    cs.flatMap escaped = replaced '"' ['\\', '"'] (replaced '\\' ['\\', '\\'] cs) := by
  unfold replaced
  rw [List.flatMap_assoc]
  congr 1
  funext c
  unfold escaped
  by_cases hbackslash : c = '\\'
  · subst hbackslash
    rfl
  · by_cases hquote : c = '"'
    · subst hquote
      rfl
    · simp [hbackslash, hquote]

/-- The lines of a label are escaped one by one, with a backslash and an `n` between them. -/
theorem flatMap_escapedInLabel_eq (cs : List Char) :
    cs.flatMap escapedInLabel = List.intercalate ['\\', 'n']
      ((Text.pieces '\n' cs).map fun line => line.flatMap escaped) := by
  induction cs with
  | nil => rfl
  | cons c cs ih =>
    -- a line end opens a new first line, any other character joins the first line
    obtain ⟨line, lines, hlines⟩ := List.exists_cons_of_ne_nil (Text.pieces_ne_nil '\n' cs)
    rw [List.flatMap_cons, ih, Text.pieces, hlines]
    by_cases hc : c = '\n'
    · rw [if_pos hc, hc]
      simp [escapedInLabel, List.intercalate]
    · rw [if_neg hc]
      cases lines with
      | nil => simp [escapedInLabel, hc, List.intercalate]
      | cons next lines => simp [escapedInLabel, hc, List.intercalate]

end CallExcerpt.Dot
