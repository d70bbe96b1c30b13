import CallExcerpt.Dot.Description
import CallExcerpt.Proofs.Dot.Tokens
import CallExcerpt.Request.Basic
import Mathlib.Data.List.Forall2

/-! # Reading graph descriptions

    A description can be read back: the reader finds the statements that were
    written, one by one and with the texts that were meant, whatever the
    texts are.

    * `Statement`, `statement?`, `body?`, `read`: the reader.
    * `Says`: a line that is read as a statement; `says_arrowLine`,
      `says_symbolLine`.
    * `read_render`: what is read is what was described, so that different
      descriptions are different texts.
-/

namespace CallExcerpt.Dot

/-! ## Statements -/

/-- What a description says. -/
inductive Statement where
  /-- An option of the whole drawing. -/
  | setting (key value : String)
  /-- Attributes of all things of a kind. -/
  | defaults (kind : String) (style : Style)
  /-- An arrow. -/
  | arrow (source target : String) (label : Option String)
  /-- A symbol with its attributes. -/
  | symbol (name : String) (style : Style)
  deriving Repr, DecidableEq

/-- The text that was meant between quotes. -/
def meant (written : List Char) : String := String.ofList (unescaped undoInText written)

/-- The label that was meant between quotes. -/
def meantLabel (written : List Char) : String := String.ofList (unescaped undoInLabel written)

/-- Attributes up to the closing bracket, the values as they are written. -/
def attributes? : List Token → Option (List (String × List Char))
  | [.word key, .mark '=', .quoted value, .mark ']'] => some [(String.ofList key, value)]
  | .word key :: .mark '=' :: .quoted value :: .mark ',' :: ts =>
    (attributes? ts).map ((String.ofList key, value) :: ·)
  | _ => none

/-- Attributes in brackets, if there are any. -/
def bracketed? : List Token → Option (List (String × List Char))
  | [] => some []
  | .mark '[' :: ts => attributes? ts
  | _ => none

/-- Attributes with the values that were meant. -/
def meantStyle (attributes : List (String × List Char)) : Style :=
  attributes.map fun a => (a.1, meant a.2)

/-- The label among the attributes of an arrow, which has no other ones. -/
def label? : List (String × List Char) → Option (Option String)
  | [] => some none
  | [(key, written)] => if key = "label" then some (some (meantLabel written)) else none
  | _ => none

/-- The statement that tokens make up. -/
def statement? : List Token → Option Statement
  | [.word key, .mark '=', .word value] =>
    some (.setting (String.ofList key) (String.ofList value))
  | [.word key, .mark '=', .quoted value] => some (.setting (String.ofList key) (meant value))
  | .word kind :: ts =>
    (bracketed? ts).map fun attributes => .defaults (String.ofList kind) (meantStyle attributes)
  | .quoted source :: .arrow :: .quoted target :: ts =>
    ((bracketed? ts).bind label?).map fun label => .arrow (meant source) (meant target) label
  | .quoted name :: ts =>
    (bracketed? ts).map fun attributes => .symbol (meant name) (meantStyle attributes)
  | _ => none

/-- The statements up to the closing brace, each before a semicolon, where some tokens of the next
    one were read already. -/
def body? (begun : List Token) : List Token → Option (List Statement)
  | [] => none
  | t :: ts =>
    if t = .mark ';' then
      (statement? begun).bind fun statement => (body? [] ts).map (statement :: ·)
    else if t = .mark '\x7d' then if begun = [] ∧ ts = [] then some [] else none
    else body? (begun ++ [t]) ts

/-- The name of the graph and the statements of a description. -/
def read (text : String) : Option (String × List Statement) :=
  match tokens text with
  | some (.word kind :: .quoted name :: .mark '\x7b' :: ts) =>
    if kind = "digraph".toList then (body? [] ts).map (meant name, ·) else none
  | _ => none

/-! ## Statements in lines -/

/-- A token inside a statement. -/
def Token.isInner (t : Token) : Bool := t ≠ .mark ';' && t ≠ .mark '\x7d'

theorem body?_append {inner : List Token} (h : ∀ t ∈ inner, t.isInner = true)
    (begun ts : List Token) : body? begun (inner ++ ts) = body? (begun ++ inner) ts := by
  induction inner generalizing begun with
  | nil => rw [List.nil_append, List.append_nil]
  | cons t inner ih =>
    obtain ⟨ht, hinner⟩ := List.forall_mem_cons.mp h
    obtain ⟨hsemicolon, hbrace⟩ : t ≠ .mark ';' ∧ t ≠ .mark '\x7d' := by
      simpa [Token.isInner] using ht
    rw [List.cons_append, body?, if_neg hsemicolon, if_neg hbrace, ih hinner, List.append_assoc]
    rfl

/-- The characters of a line are read as the statement. -/
def Says (line : List Char) (statement : Statement) : Prop :=
  ∃ inner, Scans line (inner ++ [.mark ';']) ∧ (∀ t ∈ inner, t.isInner = true) ∧
    statement? inner = some statement

/-- Lines in a row are read as their statements in a row. -/
theorem body?_of_says {lines : List (List Char)} {statements : List Statement}
    (h : List.Forall₂ Says lines statements) :
    ∃ ts, Scans lines.flatten ts ∧
      ∀ rest, body? [] (ts ++ rest) = (body? [] rest).map (statements ++ ·) := by
  induction h with
  | nil =>
    refine ⟨[], Scans.nil, ?_⟩
    intro rest
    simp
  | @cons line statement lines statements hline _ ih =>
    obtain ⟨inner, hscans, hinner, hstatement⟩ := hline
    obtain ⟨ts, hts, hbody⟩ := ih
    refine ⟨inner ++ [.mark ';'] ++ ts, ?_, ?_⟩
    · rw [List.flatten_cons]
      exact hscans.append hts
    intro rest
    -- the semicolon ends the first statement: what follows is read from a fresh start
    rw [List.append_assoc, List.append_assoc, body?_append hinner, List.nil_append,
      List.singleton_append, body?, if_pos rfl, hstatement, hbody, Option.bind_some,
      Option.map_map]
    rfl

/-! ## Parts of lines -/

theorem scans_quote (text : String) :
    Scans (quote text).toList [.quoted (text.toList.flatMap escaped)] := by
  rw [quote, String.toList_ofList]
  exact scans_quoted (guarded_escaped text.toList)

theorem scans_quoteLabel (label : String) :
    Scans (quoteLabel label).toList [.quoted (label.toList.flatMap escapedInLabel)] := by
  rw [quoteLabel, String.toList_ofList]
  exact scans_quoted (guarded_escapedInLabel label.toList)

theorem meant_escaped (text : String) : meant (text.toList.flatMap escaped) = text := by
  rw [meant, unescaped_escaped, String.ofList_toList]

theorem meantLabel_escapedInLabel (label : String) :
    meantLabel (label.toList.flatMap escapedInLabel) = label := by
  rw [meantLabel, unescaped_escapedInLabel, String.ofList_toList]

/-- A word before something that is no letter. -/
theorem scans_word_append {word : String} (hword : isWord word = true) {c : Char}
    {cs : List Char} {found others : List Token} (hc : isLetter c = false)
    (hstart : start c = some (.between, found)) (hcs : Scans cs others) :
    Scans (word.toList ++ c :: cs) (.word word.toList :: (found ++ others)) := by
  rw [← List.singleton_append, ← List.append_assoc]
  exact (scans_word hword hc hstart).append hcs

/-! ## Attributes -/

/-- An attribute as it is written. -/
def assignment (a : String × String) : List Char := (a.1 ++ "=" ++ quote a.2).toList

theorem scans_assignment {a : String × String} (h : isWord a.1 = true) :
    Scans (assignment a)
      [.word a.1.toList, .mark '=', .quoted (a.2.toList.flatMap escaped)] := by
  have hstart : start '=' = some (.between, [.mark '=']) := rfl
  unfold assignment
  rw [String.toList_append, String.toList_append, List.append_assoc]
  exact scans_word_append h rfl hstart (scans_quote a.2)

/-- The tokens of attributes up to the closing bracket. -/
def attributeTokens : Style → List Token
  | [] => [.mark ']']
  | [a] => [.word a.1.toList, .mark '=', .quoted (a.2.toList.flatMap escaped), .mark ']']
  | a :: b :: style =>
    .word a.1.toList :: .mark '=' :: .quoted (a.2.toList.flatMap escaped) :: .mark ','
      :: attributeTokens (b :: style)

theorem scans_attributes {style : Style} (h : ∀ a ∈ style, isWord a.1 = true) :
    Scans (List.intercalate [',', ' '] (style.map assignment) ++ [']']) (attributeTokens style) := by
  induction style with
  | nil => rfl
  | cons a style ih =>
    obtain ⟨ha, hstyle⟩ := List.forall_mem_cons.mp h
    have hclose : Scans [']'] [.mark ']'] := rfl
    have hcomma : Scans [',', ' '] [.mark ','] := rfl
    cases style with
    | nil => simpa [List.intercalate, attributeTokens] using (scans_assignment ha).append hclose
    | cons b style =>
      have hmore := ((scans_assignment ha).append hcomma).append (ih hstyle)
      simpa [List.intercalate, attributeTokens] using hmore

theorem attributes?_attributeTokens {style : Style} (h : style ≠ []) :
    attributes? (attributeTokens style)
      = some (style.map fun a => (a.1, a.2.toList.flatMap escaped)) := by
  induction style with
  | nil => exact absurd rfl h
  | cons a style ih =>
    cases style with
    | nil => simp [attributeTokens, attributes?]
    | cons b style =>
      rw [attributeTokens, attributes?, ih (List.cons_ne_nil b style)]
      simp

theorem isInner_attributeTokens (style : Style) :
    ∀ t ∈ attributeTokens style, t.isInner = true := by
  induction style with
  | nil => simp [attributeTokens, Token.isInner]
  | cons a style ih =>
    cases style with
    | nil => simp [attributeTokens, Token.isInner]
    | cons b style =>
      simp only [attributeTokens, List.forall_mem_cons]
      exact ⟨rfl, rfl, rfl, rfl, ih⟩

/-! ## Attributes in brackets -/

theorem sorted_perm (style : Style) : (sorted style).Perm style := List.mergeSort_perm style _

/-- Attributes in brackets, if there are any. -/
def bracketTokens : Style → List Token
  | [] => []
  | a :: style => .mark '[' :: attributeTokens (a :: style)

theorem bracketed?_bracketTokens (style : Style) :
    bracketed? (bracketTokens style)
      = some (style.map fun a => (a.1, a.2.toList.flatMap escaped)) := by
  cases style with
  | nil => rfl
  | cons a style => exact attributes?_attributeTokens (List.cons_ne_nil a style)

theorem isInner_bracketTokens (style : Style) : ∀ t ∈ bracketTokens style, t.isInner = true := by
  cases style with
  | nil => simp [bracketTokens]
  | cons a style => exact List.forall_mem_cons.mpr ⟨rfl, isInner_attributeTokens (a :: style)⟩

theorem meantStyle_escaped (style : Style) :
    meantStyle (style.map fun a => (a.1, a.2.toList.flatMap escaped)) = style := by
  simp [meantStyle, meant_escaped, Function.comp_def]

/-- Attributes between brackets, as they are written. -/
theorem scans_brackets {style : Style} (hne : style ≠ []) (h : ∀ a ∈ style, isWord a.1 = true) :
    Scans (" [" ++ String.intercalate ", " (style.map fun a => a.1 ++ "=" ++ quote a.2)
      ++ "]").toList (bracketTokens style) := by
  have htoList : (" [" ++ String.intercalate ", " (style.map fun a => a.1 ++ "=" ++ quote a.2)
      ++ "]").toList
        = " [".toList ++ (List.intercalate [',', ' '] (style.map assignment) ++ [']']) := by
    rw [String.toList_append, String.toList_append, String.toList_intercalate, List.map_map,
      List.append_assoc]
    rfl
  have hopen : Scans " [".toList [.mark '['] := rfl
  obtain ⟨a, others, rfl⟩ := List.exists_cons_of_ne_nil hne
  rw [htoList]
  exact hopen.append (scans_attributes h)

theorem scans_styleText {style : Style} (h : ∀ a ∈ style, isWord a.1 = true) :
    Scans (styleText style).toList (bracketTokens (sorted style)) := by
  have hperm := sorted_perm style
  cases style with
  | nil =>
    rw [hperm.eq_nil]
    rfl
  | cons a style =>
    apply scans_brackets
    · intro hnil
      rw [hnil] at hperm
      exact List.cons_ne_nil a style hperm.nil_eq.symm
    · intro b hb
      exact h b (hperm.mem_iff.mp hb)

/-- The tokens of a label in brackets. -/
def labelTokens (label : Option String) : List Token :=
  match label.filter (· ≠ "") with
  | none => []
  | some label => [.mark '[', .word "label".toList, .mark '=',
      .quoted (label.toList.flatMap escapedInLabel), .mark ']']

theorem scans_labelText (label : Option String) :
    Scans (labelText label).toList (labelTokens label) := by
  cases label with
  | none => rfl
  | some label =>
    by_cases hlabel : label = ""
    · subst hlabel
      rfl
    · have hopen : Scans " [label=".toList [.mark '[', .word "label".toList, .mark '='] := rfl
      have hclose : Scans "]".toList [.mark ']'] := rfl
      have htext := (hopen.append (scans_quoteLabel label)).append hclose
      have hkept : (some label).filter (· ≠ "") = some label := by simp [hlabel]
      rw [labelTokens, hkept]
      simpa [labelText, hlabel] using htext

theorem label?_labelTokens (label : Option String) :
    (bracketed? (labelTokens label)).bind label? = some (label.filter (· ≠ "")) := by
  unfold labelTokens
  cases label.filter (· ≠ "") with
  | none => rfl
  | some label =>
    simp [bracketed?, attributes?, label?, meantLabel_escapedInLabel]

theorem isInner_labelTokens (label : Option String) :
    ∀ t ∈ labelTokens label, t.isInner = true := by
  unfold labelTokens
  cases label.filter (· ≠ "") with
  | none => simp
  | some label => simp [Token.isInner]

/-! ## Lines -/

/-- The end of a statement and of its line. -/
theorem scans_end : Scans (";\n".toList) [.mark ';'] := rfl

theorem says_symbolLine (name : String) {style : Style} (h : ∀ a ∈ style, isWord a.1 = true) :
    Says (symbolLine name style ++ "\n").toList (.symbol name (sorted style)) := by
  have htab : Scans "\t".toList [] := rfl
  refine ⟨.quoted (name.toList.flatMap escaped) :: bracketTokens (sorted style), ?_, ?_, ?_⟩
  · have hline := ((htab.append (scans_quote name)).append (scans_styleText h)).append scans_end
    simpa [symbolLine] using hline
  · exact List.forall_mem_cons.mpr ⟨rfl, isInner_bracketTokens (sorted style)⟩
  · have hattributes := bracketed?_bracketTokens (sorted style)
    cases hsorted : sorted style with
    | nil => simp [statement?, bracketTokens, bracketed?, meantStyle, meant_escaped]
    | cons a others =>
      rw [hsorted] at hattributes
      rw [bracketTokens] at hattributes ⊢
      simp only [statement?, hattributes, Option.map_some, meant_escaped, meantStyle_escaped]

theorem says_arrowLine (a : Arrow) :
    Says (arrowLine a ++ "\n").toList (.arrow a.source a.target (a.label.filter (· ≠ ""))) := by
  have htab : Scans "\t".toList [] := rfl
  have harrow : Scans " -> ".toList [.arrow] := rfl
  refine ⟨.quoted (a.source.toList.flatMap escaped) :: .arrow ::
    .quoted (a.target.toList.flatMap escaped) :: labelTokens a.label, ?_, ?_, ?_⟩
  · have hline := ((((htab.append (scans_quote a.source)).append harrow).append
      (scans_quote a.target)).append (scans_labelText a.label)).append scans_end
    simpa [arrowLine] using hline
  · simp only [List.forall_mem_cons]
    exact ⟨rfl, rfl, rfl, isInner_labelTokens a.label⟩
  · rw [statement?, label?_labelTokens, Option.map_some, meant_escaped, meant_escaped]

/-! ## The header -/

theorem says_rankdir {rankdir : String} (h : isWord rankdir = true) :
    Says ("\trankdir=" ++ rankdir ++ ";" ++ "\n").toList (.setting "rankdir" rankdir) := by
  have hkey : Scans "\trankdir=".toList [.word "rankdir".toList, .mark '='] := rfl
  have hstart : start ';' = some (.between, [.mark ';']) := rfl
  have hend : Scans "\n".toList [] := rfl
  refine ⟨[.word "rankdir".toList, .mark '=', .word rankdir.toList], ?_, ?_, ?_⟩
  · have hline := hkey.append (scans_word_append h rfl hstart hend)
    simpa using hline
  · simp [Token.isInner]
  · simp [statement?]

theorem says_size (size : String) :
    Says ("\tsize=" ++ quote size ++ ";" ++ "\n").toList (.setting "size" size) := by
  have hkey : Scans "\tsize=".toList [.word "size".toList, .mark '='] := rfl
  refine ⟨[.word "size".toList, .mark '=', .quoted (size.toList.flatMap escaped)], ?_, ?_, ?_⟩
  · have hline := (hkey.append (scans_quote size)).append scans_end
    simpa using hline
  · simp [Token.isInner]
  · simp [statement?, meant_escaped]

theorem says_font {kind : String} (h : isWord kind = true) (font : String) :
    Says ("\t" ++ kind ++ " [fontname=" ++ quote font ++ "];" ++ "\n").toList
      (.defaults kind [("fontname", font)]) := by
  have htab : Scans "\t".toList [] := rfl
  have hstart : start ' ' = some (.between, []) := rfl
  have hkey : Scans "[fontname=".toList [.mark '[', .word "fontname".toList, .mark '='] := rfl
  have hend : Scans "];\n".toList [.mark ']', .mark ';'] := rfl
  refine ⟨[.word kind.toList, .mark '[', .word "fontname".toList, .mark '=',
    .quoted (font.toList.flatMap escaped), .mark ']'], ?_, ?_, ?_⟩
  · have hline := htab.append (scans_word_append h rfl hstart
      ((hkey.append (scans_quote font)).append hend))
    simpa using hline
  · simp [Token.isInner]
  · simp [statement?, bracketed?, attributes?, meantStyle, meant_escaped]

/-- What the header says of the whole drawing. -/
def headerStatements (o : Options) : List Statement :=
  [.setting "rankdir" o.rankdir] ++ (o.size.filter (· ≠ "")).toList.map (.setting "size")
    ++ ["graph", "node", "edge"].map (.defaults · [("fontname", o.font)])

theorem says_sizeLines (size : Option String) :
    List.Forall₂ Says ((sizeLines size).map fun line => (line ++ "\n").toList)
      ((size.filter (· ≠ "")).toList.map (.setting "size")) := by
  cases size with
  | none => exact .nil
  | some size =>
    by_cases hsize : size = ""
    · subst hsize
      exact .nil
    · have hkept : (some size).filter (· ≠ "") = some size := by simp [hsize]
      rw [hkept, sizeLines, if_neg hsize]
      exact .cons (says_size size) .nil

/-- The header after its first line. -/
def headerLines (o : Options) : List String :=
  ["\trankdir=" ++ o.rankdir ++ ";"] ++ sizeLines o.size
    ++ ["graph", "node", "edge"].map fun kind =>
      "\t" ++ kind ++ " [fontname=" ++ quote o.font ++ "];"

theorem says_headerLines {o : Options} (h : isWord o.rankdir = true) :
    List.Forall₂ Says ((headerLines o).map fun line => (line ++ "\n").toList)
      (headerStatements o) := by
  unfold headerLines headerStatements
  rw [List.map_append, List.map_append]
  refine List.rel_append (List.rel_append ?_ (says_sizeLines o.size)) ?_
  · exact .cons (says_rankdir h) .nil
  · exact .cons (says_font rfl o.font) (.cons (says_font rfl o.font) (.cons (says_font rfl o.font) .nil))

/-! ## Whole descriptions -/

/-- What a description says after its first line. -/
def statements (o : Options) (arrows : List Arrow) (symbols : List (String × Style)) :
    List Statement :=
  headerStatements o
    ++ arrows.map (fun a => .arrow a.source a.target (a.label.filter (· ≠ "")))
    ++ symbols.map fun s => .symbol s.1 (sorted s.2)

theorem says_lines {o : Options} (ho : isWord o.rankdir = true) (arrows : List Arrow)
    {symbols : List (String × Style)} (h : ∀ s ∈ symbols, ∀ a ∈ s.2, isWord a.1 = true) :
    List.Forall₂ Says
      ((headerLines o ++ arrows.map arrowLine ++ symbols.map fun s => symbolLine s.1 s.2).map
        fun line => (line ++ "\n").toList)
      (statements o arrows symbols) := by
  unfold statements
  rw [List.map_append, List.map_append]
  refine List.rel_append (List.rel_append (says_headerLines ho) ?_) ?_
  · rw [List.map_map, List.forall₂_map_left_iff, List.forall₂_map_right_iff, List.forall₂_same]
    intro a _
    exact says_arrowLine a
  · rw [List.map_map, List.forall₂_map_left_iff, List.forall₂_map_right_iff, List.forall₂_same]
    intro s hs
    exact says_symbolLine s.1 (h s hs)

theorem toList_render (o : Options) (arrows : List Arrow) (symbols : List (String × Style)) :
    (render o arrows symbols).toList
      = ("digraph " ++ quote o.name ++ " \x7b\n").toList
        ++ ((headerLines o ++ arrows.map arrowLine ++ symbols.map fun s => symbolLine s.1 s.2).map
          fun line => (line ++ "\n").toList).flatten
        ++ "\x7d\n".toList := by
  have hlines : header o = ("digraph " ++ quote o.name ++ " \x7b") :: headerLines o := rfl
  simp only [render, hlines, String.toList_join, List.flatMap_def, List.cons_append,
    List.map_append, List.map_cons, List.flatten_append, List.flatten_cons]
  simp [Function.comp_def]

theorem read_render_eq {o : Options} (ho : isWord o.rankdir = true) (arrows : List Arrow)
    {symbols : List (String × Style)} (h : ∀ s ∈ symbols, ∀ a ∈ s.2, isWord a.1 = true) :
    read (render o arrows symbols) = some (o.name, statements o arrows symbols) := by
  obtain ⟨ts, hts, hbody⟩ := body?_of_says (says_lines ho arrows h)
  have hfirst : Scans ("digraph " ++ quote o.name ++ " \x7b\n").toList
      [.word "digraph".toList, .quoted (o.name.toList.flatMap escaped), .mark '\x7b'] := by
    have hkind : Scans "digraph ".toList [.word "digraph".toList] := rfl
    have hopen : Scans " \x7b\n".toList [.mark '\x7b'] := rfl
    rw [String.toList_append, String.toList_append]
    exact (hkind.append (scans_quote o.name)).append hopen
  have hlast : Scans "\x7d\n".toList [.mark '\x7d'] := rfl
  have htokens : tokens (render o arrows symbols) = some (.word "digraph".toList ::
      .quoted (o.name.toList.flatMap escaped) :: .mark '\x7b' :: (ts ++ [.mark '\x7d'])) := by
    apply tokens_of_scans
    rw [toList_render]
    simpa using (hfirst.append hts).append hlast
  have hend : body? [] [.mark '\x7d'] = some [] := rfl
  unfold read
  rw [htokens]
  simp only
  rw [if_pos trivial, hbody, hend, meant_escaped]
  simp

/-! ## Different descriptions -/

/-- What of an arrow is drawn; an empty label counts as none. -/
def drawn (a : Arrow) : String × String × Option String :=
  (a.source, a.target, a.label.filter (· ≠ ""))

namespace Statement

/-- The setting that a statement makes. -/
def setting? : Statement → Option (String × String)
  | .setting key value => some (key, value)
  | _ => none

/-- The attributes that a statement gives to all things of a kind. -/
def defaults? : Statement → Option (String × Style)
  | .defaults kind style => some (kind, style)
  | _ => none

/-- The arrow that a statement draws. -/
def arrow? : Statement → Option (String × String × Option String)
  | .arrow source target label => some (source, target, label)
  | _ => none

/-- The symbol that a statement shows. -/
def symbol? : Statement → Option (String × Style)
  | .symbol name style => some (name, style)
  | _ => none

end Statement

section

variable (o : Options) (arrows : List Arrow) (symbols : List (String × Style))

theorem settings_statements : (statements o arrows symbols).filterMap Statement.setting?
    = ("rankdir", o.rankdir) :: (o.size.filter (· ≠ "")).toList.map ("size", ·) := by
  simp [statements, headerStatements, Statement.setting?, List.filterMap_append, List.filterMap_map,
    Function.comp_def, List.filterMap_cons]

theorem defaults_statements : (statements o arrows symbols).filterMap Statement.defaults?
    = ["graph", "node", "edge"].map (·, [("fontname", o.font)]) := by
  simp [statements, headerStatements, Statement.defaults?, List.filterMap_append,
    List.filterMap_map, Function.comp_def, List.filterMap_cons]

theorem arrows_statements : (statements o arrows symbols).filterMap Statement.arrow?
    = arrows.map drawn := by
  simp [statements, headerStatements, Statement.arrow?, drawn, List.filterMap_append,
    List.filterMap_map, Function.comp_def, List.filterMap_cons]

theorem symbols_statements : (statements o arrows symbols).filterMap Statement.symbol?
    = symbols.map fun s => (s.1, sorted s.2) := by
  simp [statements, headerStatements, Statement.symbol?, List.filterMap_append,
    List.filterMap_map, Function.comp_def, List.filterMap_cons]

end

/-- Statements tell all that was described. -/
theorem eq_of_statements_eq {o o' : Options} {arrows arrows' : List Arrow}
    {symbols symbols' : List (String × Style)}
    (h : statements o' arrows' symbols' = statements o arrows symbols) :
    o'.rankdir = o.rankdir ∧ o'.size.filter (· ≠ "") = o.size.filter (· ≠ "") ∧ o'.font = o.font ∧
      arrows'.map drawn = arrows.map drawn ∧
      (symbols'.map fun s => (s.1, sorted s.2)) = symbols.map fun s => (s.1, sorted s.2) := by
  have hsettings := congrArg (List.filterMap Statement.setting?) h
  rw [settings_statements, settings_statements] at hsettings
  have hdefaults := congrArg (List.filterMap Statement.defaults?) h
  rw [defaults_statements, defaults_statements] at hdefaults
  have harrows := congrArg (List.filterMap Statement.arrow?) h
  rw [arrows_statements, arrows_statements] at harrows
  have hsymbols := congrArg (List.filterMap Statement.symbol?) h
  rw [symbols_statements, symbols_statements] at hsymbols
  obtain ⟨hrankdir, hsize⟩ := List.cons.inj hsettings
  refine ⟨(Prod.ext_iff.mp hrankdir).2, ?_, ?_, harrows, hsymbols⟩
  · generalize o.size.filter (· ≠ "") = size at hsize ⊢
    generalize o'.size.filter (· ≠ "") = size' at hsize ⊢
    cases size <;> cases size' <;> simp_all
  · simpa using hdefaults

theorem isWord_of_mem_rankdirs {rankdir : String} (h : rankdir ∈ Request.rankdirs) :
    isWord rankdir = true := by
  unfold Request.rankdirs at h
  simp only [List.mem_cons, List.not_mem_nil, or_false] at h
  rcases h with rfl | rfl | rfl | rfl
  · rfl
  · rfl
  · rfl
  · rfl

theorem pairwise_sorted (style : Style) :
    (sorted style).Pairwise fun a b => a.1 ≤ b.1 := by
  have hsorted : (sorted style).Pairwise fun a b => decide (a.1 ≤ b.1) = true := by
    apply List.pairwise_mergeSort
    · intro a b c hab hbc
      exact decide_eq_true (String.le_trans (of_decide_eq_true hab) (of_decide_eq_true hbc))
    · intro a b
      simpa using String.le_total a.1 b.1
  exact hsorted.imp of_decide_eq_true

/-- A description is read back without ambiguity, whatever names, labels, values, font, size and
    name of the graph are, if the keys of attributes are words: first all arrows in order, and then
    all symbols in order, each with its attributes by key. So descriptions of different things are
    different texts. -/
theorem read_render (o : Options) (arrows : List Arrow) (symbols : List (String × Style))
    (ho : o.rankdir ∈ Request.rankdirs) (h : ∀ s ∈ symbols, ∀ a ∈ s.2, isWord a.1 = true) :
    read (render o arrows symbols) = some (o.name, headerStatements o
      ++ arrows.map (fun a => .arrow a.source a.target (a.label.filter (· ≠ "")))
      ++ symbols.map fun s => .symbol s.1 (sorted s.2)) ∧
    (∀ s ∈ symbols, (sorted s.2).Perm s.2 ∧ (sorted s.2).Pairwise fun a b => a.1 ≤ b.1) ∧
    ∀ (o' : Options) (arrows' : List Arrow) (symbols' : List (String × Style)),
      o'.rankdir ∈ Request.rankdirs → (∀ s ∈ symbols', ∀ a ∈ s.2, isWord a.1 = true) →
      render o' arrows' symbols' = render o arrows symbols →
      o'.name = o.name ∧ o'.rankdir = o.rankdir ∧
        o'.size.filter (· ≠ "") = o.size.filter (· ≠ "") ∧ o'.font = o.font ∧
        arrows'.map drawn = arrows.map drawn ∧
        (symbols'.map fun s => (s.1, sorted s.2)) = symbols.map fun s => (s.1, sorted s.2) := by
  have hread := read_render_eq (isWord_of_mem_rankdirs ho) arrows h
  -- one text is read in one way, so that two descriptions with one text say the same
  refine ⟨hread, ?_, ?_⟩
  · intro s _
    exact ⟨sorted_perm s.2, pairwise_sorted s.2⟩
  · intro o' arrows' symbols' ho' h' hrender
    have hread' := read_render_eq (isWord_of_mem_rankdirs ho') arrows' h'
    rw [hrender, hread] at hread'
    obtain ⟨hname, hstatements⟩ := Prod.ext_iff.mp (Option.some.inj hread')
    exact ⟨hname.symm, eq_of_statements_eq hstatements.symm⟩

/-- An arrow whose texts look like ends of texts and of statements. -/
def hostile : Arrow where
  source := "a\"; b"
  target := "c\\"
  caller := "a\"; b"
  callee := "c\\"
  label := some "x\\\ny\"];"

theorem read_render_of_hostile :
    read (render {} [hostile] [("\" -> \"", [("label", "\\n\"]")])])
      = some ("callgraph", headerStatements {} ++
          [.arrow hostile.source hostile.target hostile.label,
            .symbol "\" -> \"" [("label", "\\n\"]")]]) := by
  have hlabel : hostile.label.filter (fun label => !decide (label = "")) = hostile.label := by rfl
  have hread := (read_render {} [hostile] [("\" -> \"", [("label", "\\n\"]")])]
    (by decide) (by decide)).1
  simpa [sorted, hlabel] using hread

end CallExcerpt.Dot
