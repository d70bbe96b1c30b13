import CallExcerpt.Tools.Catalogue

/-! # Schemas of arguments

    A tool is offered with a schema, and a schema says which arguments conform to
    it. Of what a schema may say, five words have a meaning here: the type of a
    value, the values that it may have, what the items of a list are, what the
    members of an object are, and which of them must be there. All others describe.

    * `Accepts`: a value conforms to a schema.
    * `accepts_argument`, `accepts_textsArgument`, `accepts_schemaOf`: what the
      schemas of the catalogue accept.
-/

namespace CallExcerpt

open Number (Binary64)

namespace Number.Binary64

/-- The whole number that a floating-point number is, if it is one. -/
def whole? (x : Binary64) : Option Int :=
  x.units?.bind fun u => if u % Int.pow 2 1074 = 0 then some (u / Int.pow 2 1074) else none

variable {x : Binary64} {n : Int}

theorem unit_pos (k : Nat) : 0 < Int.pow 2 k := Int.pow_pos (by decide)

theorem units?_of_whole? (h : x.whole? = some n) : x.units? = some (n * Int.pow 2 1074) := by
  unfold whole? at h
  generalize Int.pow 2 1074 = unit at h ⊢
  obtain ⟨u, hu, h⟩ := Option.bind_eq_some_iff.mp h
  split at h
  case isTrue hmod =>
    cases h
    rw [hu, Int.ediv_mul_cancel (Int.dvd_of_emod_eq_zero hmod)]
  case isFalse => cases h

/-- A whole number is the next one above itself. -/
theorem ceiling?_of_whole? (h : x.whole? = some n) : x.ceiling? = some n := by
  have hunit : Int.pow 2 1074 ≠ 0 := Int.ne_of_gt (unit_pos 1074)
  rw [ceiling?, units?_of_whole? h]
  generalize Int.pow 2 1074 = unit at hunit ⊢
  rw [Option.map_some, ← Int.neg_mul, Int.mul_fdiv_cancel _ hunit, Int.neg_neg]

theorem less_zero_of_whole? (h : x.whole? = some n) : x.less (ofInt 0) = decide (n < 0) := by
  have hzero : (ofInt 0).units? = some 0 := by rfl
  have hunit : 0 < Int.pow 2 1074 := unit_pos 1074
  simp only [less, units?_of_whole? h, hzero]
  generalize Int.pow 2 1074 = unit at hunit ⊢
  rw [decide_eq_decide]
  constructor
  · intro hbelow
    rw [← Int.zero_mul unit] at hbelow
    exact Int.lt_of_mul_lt_mul_right hbelow (Int.le_of_lt hunit)
  · intro hbelow
    exact Int.mul_neg_of_neg_of_pos hbelow hunit

end Number.Binary64

namespace Json

/-- The value is of a type, by the names that schemas have for types. A number without a fraction is
    a whole one, however it is written. -/
def HasType (v : Json) (type : String) : Prop :=
  match v with
  | .null => type = "null"
  | .bool _ => type = "boolean"
  | .int _ => type = "integer" ∨ type = "number"
  | .float x => (type = "integer" ∧ x.whole?.isSome) ∨ type = "number"
  | .text _ => type = "string"
  | .list _ => type = "array"
  | .object _ => type = "object"

mutual

/-- The value conforms to a schema. -/
def Accepts (schema v : Json) : Prop :=
  match schema with
  | .object words => AcceptsWords words v
  | .bool allowed => allowed = true
  | _ => False

/-- The value conforms to all that the words of a schema say. -/
def AcceptsWords (words : List (String × Json)) (v : Json) : Prop :=
  match words with
  | [] => True
  | (word, said) :: rest => AcceptsWord word said v ∧ AcceptsWords rest v

/-- The value conforms to one word of a schema. -/
def AcceptsWord (word : String) (said v : Json) : Prop :=
  if word = "type" then ∃ type, said = .text type ∧ v.HasType type
  else if word = "enum" then ∃ values, said = .list values ∧ v ∈ values
  else if word = "items" then ∀ items, v = .list items → ∀ item ∈ items, Accepts said item
  else if word = "required" then
    ∀ members, v = .object members → ∃ names, said = .list names
      ∧ ∀ name, .text name ∈ names → (lookup name members).isSome
  else if word = "properties" then
    match said with
    | .object properties => ∀ members, v = .object members → AcceptsMembers properties members
    | _ => False
  else True

/-- The members of an object, as far as they have properties, conform to these. -/
def AcceptsMembers (properties members : List (String × Json)) : Prop :=
  match properties with
  | [] => True
  | (name, property) :: rest =>
    (∀ v, lookup name members = some v → Accepts property v) ∧ AcceptsMembers rest members

end

variable {v : Json} {members : List (String × Json)}

/-! ## Types -/

theorem hasType_string : v.HasType "string" ↔ ∃ s, v = .text s := by
  cases v <;> simp [HasType]

theorem hasType_boolean : v.HasType "boolean" ↔ ∃ b, v = .bool b := by
  cases v <;> simp [HasType]

theorem hasType_array : v.HasType "array" ↔ ∃ items, v = .list items := by
  cases v <;> simp [HasType]

theorem hasType_integer :
    v.HasType "integer" ↔ (∃ n, v = .int n) ∨ ∃ x n, v = .float x ∧ x.whole? = some n := by
  cases v <;> simp [HasType, Option.isSome_iff_exists]

/-! ## Schemas of the catalogue -/

theorem acceptsMembers_iff {properties : List (String × Json)} :
    AcceptsMembers properties members
      ↔ ∀ p ∈ properties, ∀ v, lookup p.1 members = some v → Accepts p.2 v := by
  induction properties with
  | nil => simp [AcceptsMembers]
  | cons p properties ih =>
    obtain ⟨name, property⟩ := p
    rw [AcceptsMembers, ih, List.forall_mem_cons]

theorem accepts_argument {type description : String} :
    Accepts (Tools.argument type description) v ↔ v.HasType type := by
  simp [Tools.argument, Accepts, AcceptsWords, AcceptsWord]

/-- A list of which all items are texts. -/
theorem exists_texts {items : List Json} (h : ∀ item ∈ items, ∃ s, item = .text s) :
    ∃ texts : List String, items = texts.map .text := by
  induction items with
  | nil => exact ⟨[], rfl⟩
  | cons item items ih =>
    obtain ⟨hitem, hitems⟩ := List.forall_mem_cons.mp h
    obtain ⟨s, rfl⟩ := hitem
    obtain ⟨texts, rfl⟩ := ih hitems
    exact ⟨s :: texts, rfl⟩

theorem accepts_textsArgument {description : String} :
    Accepts (Tools.textsArgument description) v ↔ ∃ texts : List String, v = .list (texts.map .text) := by
  have hschema : Accepts (Tools.textsArgument description) v
      ↔ v.HasType "array" ∧ ∀ items, v = .list items → ∀ item ∈ items, item.HasType "string" := by
    simp [Tools.textsArgument, Accepts, AcceptsWords, AcceptsWord]
  rw [hschema, hasType_array]
  constructor
  · intro h
    obtain ⟨⟨items, rfl⟩, hitems⟩ := h
    have htexts : ∀ item ∈ items, ∃ s, item = .text s :=
      fun item hitem => hasType_string.mp (hitems items rfl item hitem)
    obtain ⟨texts, rfl⟩ := exists_texts htexts
    exact ⟨texts, rfl⟩
  · intro h
    obtain ⟨texts, rfl⟩ := h
    refine ⟨⟨_, rfl⟩, ?_⟩
    intro items hitems item hitem
    cases hitems
    obtain ⟨s, -, rfl⟩ := List.mem_map.mp hitem
    exact hasType_string.mpr ⟨s, rfl⟩

/-- An object conforms to the schema of some arguments if each of them does that is there, and those
    are there that have to be. -/
theorem accepts_schemaOf {arguments : List (String × Json)} {required : List String} :
    Accepts (Tools.schemaOf arguments required) (.object members)
      ↔ (∀ p ∈ arguments, ∀ v, lookup p.1 members = some v → Accepts p.2 v)
        ∧ ∀ name ∈ required, (lookup name members).isSome := by
  rw [← acceptsMembers_iff]
  cases required with
  | nil => simp [Tools.schemaOf, Accepts, AcceptsWords, AcceptsWord, HasType]
  | cons name required =>
    simp [Tools.schemaOf, Accepts, AcceptsWords, AcceptsWord, HasType]

end Json

end CallExcerpt
