import CallExcerpt.Graph.Basic
import CallExcerpt.Walk.Arrow

/-! # Tallies

    A tally counts the arrows of an excerpt and tells its members: the root
    and the ends of all arrows that were not taken back, in the order in which
    they came in. For each member it counts the arrow ends at it, so that
    arrows may be taken back in any order.
-/

namespace CallExcerpt

/-- The account of an excerpt. -/
structure Tally where
  /-- The symbol where the excerpt begins; it stays a member. -/
  root : String
  /-- The arrows drawn less those taken back. -/
  arrows : Int := 0
  /-- The arrows taken back. -/
  takenBack : Nat := 0
  /-- For each member the number of arrow ends at it. -/
  counts : List (String × Nat) := []
  /-- The source files of the symbols that came in, members or not. -/
  sources : List (String × String) := []
  deriving Repr, DecidableEq

namespace Tally

/-- Counts one more arrow end at a symbol. -/
def add (t : Tally) (name : String) (file : Option String) : Tally :=
  { t with
    counts := Table.put name ((t.counts.lookup name).getD 0 + 1) t.counts
    sources := match file with
      | some f => Table.put name f t.sources
      | none => t.sources }

/-- Counts one arrow end less at a symbol; one without ends is no member any more, the root
    apart. -/
def drop (t : Tally) (name : String) : Tally :=
  if name = t.root then t
  else
    let left := (t.counts.lookup name).getD 0 - 1
    { t with
      counts := if 0 < left then Table.put name left t.counts else Table.erase name t.counts }

/-- An arrow between two symbols was drawn. -/
def retain (t : Tally) (source target : Symbol) : Tally :=
  let t := (t.add source.name source.file).add target.name target.file
  { t with arrows := t.arrows + 1 }

/-- An arrow was taken back. -/
def release (t : Tally) (source target : String) : Tally :=
  let t := (t.drop source).drop target
  { t with arrows := t.arrows - 1, takenBack := t.takenBack + 1 }

/-- The tally before the first arrow: the root alone. -/
def start (root : Symbol) : Tally := ({ root := root.name } : Tally).add root.name root.file

/-- The members in the order in which they came in. -/
def members (t : Tally) : List String := Table.keys t.counts

/-- The source files of the members, in order, each once. -/
def files (t : Tally) : List String :=
  ((t.members.filterMap fun n => t.sources.lookup n).mergeSort Graph.nameLE).eraseReps

end Tally

end CallExcerpt
