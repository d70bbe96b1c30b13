/-! # What groups remember

    A search notes the places at which it enters and leaves the numbered
    groups. Group `g` has the entries `2 * g - 2` and `2 * g - 1`; a group
    that has not been left yet has no text.

    A trial that fails leaves its marks behind. What is done about them
    depends on where the trial was made: `rewound` either takes back all of
    them, or only forgets the groups that were not known before.
-/

namespace CallExcerpt.Pattern

/-- The places that were noted so far. -/
abbrev Marks := List (Option Nat)

namespace Marks

/-- Notes a place. -/
def note (marks : Marks) (entry place : Nat) : Marks :=
  if entry < marks.length then marks.set entry (some place)
  else marks ++ List.replicate (entry - marks.length) none ++ [some place]

/-- The places between which the text of a group lies. -/
def span? (marks : Marks) (group : Nat) : Option (Nat × Nat) :=
  match marks[2 * group - 2]?, marks[2 * group - 1]? with
  | some (some first), some (some last) => if first ≤ last then some (first, last) else none
  | _, _ => none

/-- The marks after a trial that failed: as they were before it, or without the groups that were
    not known before it. -/
def rewound (whole : Bool) (before after : Marks) : Marks :=
  if whole then before else after.take before.length

end Marks

end CallExcerpt.Pattern
