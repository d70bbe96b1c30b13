import CallExcerpt.Request.Basic

/-! # Where an excerpt goes

    The excerpt of the only root goes to the output of the request. With
    several roots each one gets a file of its own beside it, whose name holds
    the name of the root. Characters of a root's name that may mean something
    in a path are replaced, so that a name never leads to another directory.
-/

namespace CallExcerpt.Request

/-- May the character of a root's name stand in a file name? -/
def isSafe (c : Char) : Bool := c.isAlphanum || c = '_' || c = '.' || c = '-'

/-- The characters of a name with each run of unsafe ones replaced by one underscore; `inRun`
    tells that the last character was unsafe. -/
def safeChars (inRun : Bool) : List Char → List Char
  | [] => []
  | c :: cs =>
    if isSafe c then c :: safeChars false cs
    else if inRun then safeChars true cs
    else '_' :: safeChars true cs

/-- The name of a root as part of a file name. -/
def safeName (root : String) : String := String.ofList (safeChars false root.toList)

/-- Where the excerpt of one root goes; nothing if several roots need a file name and the output
    has none. -/
def artifact? (output : Path) (root : String) (several : Bool) : Option Path :=
  if !several || output = Path.dash then some output
  else output.withName? s!"{output.stem}-{safeName root}{output.suffix}"

/-- The name of a root's description in a working directory. -/
def descriptionName (root : String) : String := safeName root ++ descriptionSuffix

end CallExcerpt.Request
