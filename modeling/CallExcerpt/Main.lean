import CallExcerpt.Command.Run

/-! # The program

    The outer layer of the command line: what the words and the settings of
    the environment name is read into a world, the command runs on the world,
    and what it left behind is written out. Nothing is decided here.

    * A service takes what its visitors send from standard input.
    * No layout engine is started, so a drawing fails as it does on a system
      without one.
-/

namespace CallExcerpt.Program

/-- The settings of the environment that the program looks at. -/
def settingNames : List String :=
  ["CALLSLICE_GRAPH", "CALLSLICE_FIFO", "CALLSLICE_LOG_FILE", "CALLSLICE_DOT", "XDG_RUNTIME_DIR",
    "HOME"]

/-- The texts in a word that may be paths: the word itself, what stands behind a short option, and
    what stands behind an equals sign. -/
def pathTexts (word : String) : List String :=
  let cs := word.toList
  [word, String.ofList (cs.drop 2), String.ofList ((cs.dropWhile (· ≠ '=')).drop 1)]

/-- A location and all above it, the highest first. -/
def locationsTo : Location → List Location
  | [] => []
  | n :: ns => [n] :: (locationsTo ns).map (n :: ·)

/-- The locations that words and settings may name. -/
def named (w : World) (words : List String) : List Location :=
  let texts := words.flatMap pathTexts ++ w.settings.map (·.2)
  let paths := w.defaultPipe :: texts.map Path.ofString
  (paths.flatMap fun p => locationsTo (w.absolute p).parts).eraseDups

/-- What stands at a location of the system. A pipe has the number zero. -/
def look (l : Location) : IO (Option Entry) := do
  let path := (← IO.currentDir) / (World.pathOf l).toString
  try
    match (← path.metadata).type with
    | .dir => return some .directory
    | .file => return some (.file (.plain (← IO.FS.readBinFile path).toList))
    | _ => return some (.pipe 0)
  catch _ => return none

/-- The settings of the environment. -/
def readSettings : IO (List (String × String)) :=
  settingNames.filterMapM fun name => do return (← IO.getEnv name).map (name, ·)

/-- The world that words are about. A pipe that is there has a reader. -/
def readWorld (words : List String) : IO World := do
  let base := (Path.ofString (← IO.currentDir).toString).parts
  let temporary := (Path.ofString ((← IO.getEnv "TMPDIR").getD "/tmp")).parts
  let w : World :=
    { base, temporary, settings := ← readSettings, engine := .installed [],
      disk := { pipes := [{ readers := 1 }] } }
  let places := (locationsTo base ++ locationsTo temporary ++ named w words).eraseDups
  let entries ← places.filterMapM fun l => do return (← look l).map (l, ·)
  return { w with disk := { w.disk with entries } }

/-- Writes an entry to the system. What was sent to a pipe goes to its reader. -/
def writeEntry (pipes : List Pipe) (l : Location) (e : Entry) : IO Unit := do
  let path := (← IO.currentDir) / (World.pathOf l).toString
  match e with
  | .directory => IO.FS.createDirAll path
  | .file content => IO.FS.writeBinFile path (ByteArray.mk content.octets.toArray)
  | .pipe number =>
    let sent := (pipes[number]?.getD {}).queue
    if !sent.isEmpty then IO.FS.writeBinFile path (ByteArray.mk sent.toArray)

/-- Writes what changed between two worlds to the system. -/
def writeWorld (before after : World) : IO Unit := do
  for (l, e) in after.disk.entries do
    let isPipe := match e with
      | .pipe _ => true
      | _ => false
    if isPipe || before.disk.find? l ≠ some e then writeEntry after.disk.pipes l e
  (← IO.getStdout).putStr after.printed
  (← IO.getStderr).putStr after.complained

/-- What visitors send to a service. -/
def readVisitors (w : World) (words : List String) : IO (List String) := do
  match Command.read? w.settings words with
  | some (.serve ..) =>
    let octets ← (← IO.getStdin).readToEnd
    return [octets]
  | _ => return []

/-- Runs the program; its exit code. -/
def run (words : List String) : IO UInt32 := do
  let w ← readWorld words
  let (ending, after) := Command.run (← readVisitors w words) words w
  writeWorld w after
  match ending with
  | .misused => (← IO.getStderr).putStrLn "Try 'callslice --help' for help."
  | .breaksDown word => (← IO.getStderr).putStrLn word
  | .exits _ => pure ()
  return UInt32.ofNat ending.code

end CallExcerpt.Program

/-- The program. -/
def main (words : List String) : IO UInt32 := CallExcerpt.Program.run words
