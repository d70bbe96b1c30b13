import CallExcerpt.Proofs.Filter.History
import CallExcerpt.Proofs.Success
import CallExcerpt.Proofs.Tools.Schema
import CallExcerpt.Tools.Call

/-! # Arguments that conform

    Arguments that conform to the schema of a tool are what the schema says, and
    stand for a request in the words of the service. The tool reads them one by
    one, each with a reader that takes more than the schema allows, and comes to
    the same request.

    * `Conforms`: what the schema says of the arguments for an excerpt.
    * `directRequest`: the request that they stand for, read as the schema says.
    * `itemsOf_given`, `namesOf_texts`, `patternsOf_texts`, `isTruthy_given`,
      `depthOf_given`, `directionOf_given`: the readers, on such arguments.
-/

namespace CallExcerpt

namespace Pattern

/-- A pattern keeps the text that it was read from. -/
theorem source_of_parse {source : String} {p : Pattern} (h : parse source = .ok p) :
    p.source = source := by
  unfold parse at h
  dsimp only at h
  split at h
  · cases h
  · split at h
    · cases h
    · cases h
      rfl

end Pattern

namespace Tools

open Json (lookup Accepts)

variable {members : List (String × Json)} {name : String}

/-! ## What the schema says -/

/-- What conforms to the schema of the tool that draws excerpts. -/
structure Conforms (members : List (String × Json)) : Prop where
  root : ∃ s, lookup "root" members = some (.text s)
  direction : ∀ v, lookup "direction" members = some v → v = .text "forward" ∨ v = .text "reverse"
  maxDepth : ∀ v, lookup "max_depth" members = some v →
    (∃ n, v = .int n) ∨ ∃ x n, v = .float x ∧ x.whole? = some n
  texts : ∀ name ∈ ["ignore", "ignore_patterns", "show"], ∀ v, lookup name members = some v →
    ∃ texts : List String, v = .list (texts.map .text)
  flags : ∀ name ∈ ["trim", "no_extern", "all_locations"], ∀ v, lookup name members = some v →
    ∃ b, v = .bool b
  goal : ∀ v, lookup "end_function" members = some v → ∃ s, v = .text s

theorem conforms_of_accepts (h : Accepts extractOffer.schema (.object members)) :
    Conforms members := by
  obtain ⟨harguments, hrequired⟩ := Json.accepts_schemaOf.mp h
  simp only [List.forall_mem_cons, Json.accepts_argument, Json.accepts_textsArgument,
    Json.hasType_string, Json.hasType_boolean, Json.hasType_integer] at harguments
  obtain ⟨hroot, hdirection, hdepth, hignore, hpatterns, hshow, htrim, hextern, hgoal, hall, -⟩ :=
    harguments
  have hdirection' : ∀ v, lookup "direction" members = some v →
      v = .text "forward" ∨ v = .text "reverse" := by
    intro v hv
    have hwords := hdirection v hv
    simp [Accepts, Json.AcceptsWords, Json.AcceptsWord] at hwords
    exact hwords.2
  refine ⟨?_, hdirection', hdepth, ?_, ?_, hgoal⟩
  · obtain ⟨v, hv⟩ := Option.isSome_iff_exists.mp (hrequired "root" (List.mem_singleton_self _))
    obtain ⟨s, rfl⟩ := hroot v hv
    exact ⟨s, hv⟩
  · simp only [List.forall_mem_cons]
    exact ⟨hignore, hpatterns, hshow, List.forall_mem_nil _⟩
  · simp only [List.forall_mem_cons]
    exact ⟨htrim, hextern, hall, List.forall_mem_nil _⟩

/-! ## The request -/

/-- The text that an argument is. -/
def textAt (name : String) (members : List (String × Json)) : Option String :=
  match lookup name members with
  | some (.text s) => some s
  | _ => none

/-- The texts that an argument lists. -/
def textsAt (name : String) (members : List (String × Json)) : List String :=
  match lookup name members with
  | some (.list items) => items.filterMap fun
    | .text s => some s
    | _ => none
  | _ => []

/-- Is an argument there and true? -/
def flagAt (name : String) (members : List (String × Json)) : Bool :=
  match lookup name members with
  | some (.bool b) => b
  | _ => false

/-- The whole number that an argument is. -/
def wholeAt (name : String) (members : List (String × Json)) : Option Int :=
  match lookup name members with
  | some (.int n) => some n
  | some (.float x) => x.whole?
  | _ => none

/-- The request that arguments stand for, with its text to standard output. -/
def directRequest (members : List (String × Json)) : Request where
  roots := (textAt "root" members).toList
  direction := if textAt "direction" members = some "reverse" then .reverse else .forward
  maxDepth := wholeAt "max_depth" members
  ignore := textsAt "ignore" members
  ignorePatterns := textsAt "ignore_patterns" members
  shown := textsAt "show" members
  trim := flagAt "trim" members
  noExtern := flagAt "no_extern" members
  allLocations := flagAt "all_locations" members
  goal := textAt "end_function" members
  output := Path.dash
  format := Request.plainFormat

/-! ## The readers -/

theorem itemsOf_given (h : ∀ v, lookup name members = some v →
      ∃ texts : List String, v = .list (texts.map .text)) :
    itemsOf (given name (.list []) members) = .ok ((textsAt name members).map .text) := by
  unfold given textsAt
  cases hv : lookup name members with
  | none => rfl
  | some v =>
    obtain ⟨texts, rfl⟩ := h v hv
    simp [itemsOf, List.filterMap_map]

theorem namesOf_texts (texts : List String) : namesOf (texts.map .text) = .ok texts := by
  have hkeys : (texts.map Json.text).all isKey = true := by
    rw [List.all_eq_true]
    intro v hv
    obtain ⟨s, -, rfl⟩ := List.mem_map.mp hv
    rfl
  rw [namesOf, if_pos hkeys, List.filterMap_map]
  simp

theorem patternsOf_texts {fits : String → Bool} {texts : List String} {patterns : List Pattern}
    (h : patternsOf fits (texts.map .text) = .ok patterns) : patterns.map (·.source) = texts := by
  induction texts generalizing patterns with
  | nil =>
    cases h
    rfl
  | cons s texts ih =>
    obtain ⟨p, hp, h⟩ := Success.of_bind h
    obtain ⟨ps, hps, h⟩ := Success.of_bind h
    cases h
    have hone : Filters.compileOne s fits = .ok p := Success.of_mapError hp
    rw [List.map_cons, Pattern.source_of_parse (Filters.parse_of_compileOne hone), ih hps]

theorem isTruthy_given (h : ∀ v, lookup name members = some v → ∃ b, v = .bool b) :
    (given name (.bool false) members).isTruthy = flagAt name members := by
  unfold given flagAt
  cases hv : lookup name members with
  | none => rfl
  | some v =>
    obtain ⟨b, rfl⟩ := h v hv
    rfl

/-- A bound that is taken is not below zero. -/
theorem depthOf_given (h : ∀ v, lookup name members = some v →
      (∃ n, v = .int n) ∨ ∃ x n, v = .float x ∧ x.whole? = some n) {depth : Option Int}
    (hdepth : depthOf (given name .null members) = .ok depth) :
    depth = wholeAt name members ∧ ∀ n ∈ depth, 0 ≤ n := by
  unfold given at hdepth
  unfold wholeAt
  cases hv : lookup name members with
  | none =>
    rw [hv] at hdepth
    cases hdepth
    exact ⟨rfl, nofun⟩
  | some v =>
    rw [hv, Option.getD_some] at hdepth
    rcases h v hv with ⟨n, rfl⟩ | ⟨x, n, rfl, hwhole⟩
    · rw [depthOf] at hdepth
      split at hdepth
      case isTrue => cases hdepth
      case isFalse hbelow =>
        cases hdepth
        refine ⟨rfl, ?_⟩
        intro m hm
        obtain rfl := Option.some.inj hm
        exact Int.not_lt.mp hbelow
    · rw [depthOf, Number.Binary64.less_zero_of_whole? hwhole,
        Number.Binary64.ceiling?_of_whole? hwhole] at hdepth
      split at hdepth
      case isTrue => cases hdepth
      case isFalse hbelow =>
        cases hdepth
        refine ⟨hwhole.symm, ?_⟩
        intro m hm
        obtain rfl := Option.some.inj hm
        simpa using hbelow

theorem directionOf_given (h : ∀ v, lookup name members = some v →
      v = .text "forward" ∨ v = .text "reverse") :
    directionOf (given name (.text "forward") members)
      = .ok (if textAt name members = some "reverse" then .reverse else .forward) := by
  unfold given textAt
  cases hv : lookup name members with
  | none => rfl
  | some v =>
    rcases h v hv with rfl | rfl
    · rfl
    · rfl

end Tools

end CallExcerpt
