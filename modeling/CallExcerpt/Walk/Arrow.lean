/-! # Arrows

    What a walk draws: an arrow for each call that it follows. Arrows lie on
    a sheet in the order in which they were drawn, and only the latest one can
    be taken back.
-/

namespace CallExcerpt

/-- A drawn call. A walk against the calls draws it from the callee to the caller. -/
structure Arrow where
  /-- Where the arrow begins, as it is drawn. -/
  source : String
  /-- Where the arrow ends, as it is drawn. -/
  target : String
  /-- The symbol that calls. -/
  caller : String
  /-- The symbol that is called. -/
  callee : String
  /-- The text beside the arrow. -/
  label : Option String := none
  deriving Repr, DecidableEq

/-- Arrows, the latest one first. -/
structure Sheet where
  /-- The arrows, the latest one first. -/
  stack : List Arrow := []
  deriving Repr, DecidableEq

namespace Sheet

/-- The arrows in the order in which they were drawn. -/
def toList (s : Sheet) : List Arrow := s.stack.reverse

/-- The number of arrows. -/
def size (s : Sheet) : Nat := s.stack.length

/-- Draws an arrow. -/
def push (s : Sheet) (a : Arrow) : Sheet := ⟨a :: s.stack⟩

/-- Takes the latest arrow back; nothing if there is none. -/
def pop? (s : Sheet) : Option (Arrow × Sheet) :=
  match s.stack with
  | [] => none
  | a :: rest => some (a, ⟨rest⟩)

@[simp] theorem toList_push (s : Sheet) (a : Arrow) : (s.push a).toList = s.toList ++ [a] := by
  simp [toList, push]

@[simp] theorem pop?_push (s : Sheet) (a : Arrow) : (s.push a).pop? = some (a, s) := rfl

end Sheet

/-- What happens to a sheet. -/
inductive Stroke where
  /-- An arrow was drawn. -/
  | drawn (a : Arrow)
  /-- The latest arrow was taken back. -/
  | takenBack (a : Arrow)
  deriving Repr, DecidableEq

end CallExcerpt
