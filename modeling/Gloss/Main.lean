import Gloss.Command.Run

/-!
# The program

The outer layer of the command line: it takes the files that a command may look at into memory,
runs the command there, and writes what has changed. The rules are all in `runCommand`.

## Main definitions

* `main`: runs the command line.
-/

namespace Gloss

namespace Program

/-- The text of a file, if it holds text. -/
def readText? (path : String) : IO (Option Text) := do
  let bytes ← IO.FS.readBinFile path
  return (Text.ofUtf8 bytes.toList).toOption

/-- The names that lead to an absolute path. -/
def namesOf (path : String) : List Text :=
  pathPieces path.toList

/-- The path that names lead to. -/
def pathOf (names : List Text) : String :=
  String.ofList ('/' :: ['/'].intercalate names)

/-- What stands right at a place. -/
def entryAt (names : List Text) : IO Disk := do
  try
    let info ← (← IO.FS.realPath (pathOf names)).metadata
    match info.type with
    | .file => return [(names, .file (← readText? (pathOf names)))]
    | .dir => return [(names, .directory)]
    | _ => return []
  catch _ => return []

/-- What stands inside a directory, down to a depth. -/
def entriesBelow (depth : Nat) (names : List Text) : IO Disk := do
  match depth with
  | 0 => return []
  | depth + 1 =>
    try
      let found ← (← IO.FS.realPath (pathOf names)).readDir
      let inner ← found.toList.mapM fun e => do
        let place := names ++ [e.fileName.toList]
        return (← entryAt place) ++ (← entriesBelow depth place)
      return inner.flatten
    catch _ => return []

/-- The depth to which directories are searched. -/
def searchDepth : Nat :=
  64

/-- The place of a path, seen from a directory. -/
def placeOf (cwd : List Text) (path : Text) : List Text :=
  (pathParts path).foldl (fun names part =>
    match part with
    | .root => []
    | .here => names
    | .up => names.dropLast
    | .name n => names ++ [n]) cwd

/-- What a command may look at below a path: the path itself, its directory, and all inside. -/
def entriesAround (names : List Text) : IO Disk := do
  return (← entryAt names) ++ (← entriesBelow 1 names.dropLast) ++
    (← entriesBelow searchDepth names)

/-- The places of settings files. -/
def settingsPlaces (cwd : List Text) (config : Option Text) : List (List Text) :=
  (Settings.ancestors cwd).flatMap fun dir =>
    [dir ++ [Settings.directoryName], dir ++ [Settings.directoryName, Settings.fileName]] ++
      (config.map fun path => placeOf dir path).toList

/-- The paths that a command works on. -/
def pathsOf : Command → List Text
  | .annotate paths _ _ => paths
  | .classify paths _ => paths
  | _ => []

/-- The files that a command line may look at. -/
def gather (cwd : List Text) (arguments : List Text) : IO Disk := do
  match Invocation.ofArguments arguments with
  | .error _ => return []
  | .ok i =>
    let settings ← (settingsPlaces cwd i.config).mapM entryAt
    let scripts ← (pathsOf i.command).mapM fun path => entriesAround (placeOf cwd path)
    return ((cwd, .directory) :: settings.flatten ++ scripts.flatten).foldl
      (fun disk e => disk.put e.1 e.2) []

/-- The environment variables. -/
def readEnvironment : IO (List (Text × Text)) := do
  try
    let bytes ← IO.FS.readBinFile "/proc/self/environ"
    let text := (Text.ofUtf8 bytes.toList).toOption.getD []
    return (Text.split (Char.ofNat 0) text).map fun entry =>
      let name := entry.takeWhile (· != '=')
      (name, entry.drop (name.length + 1))
  catch _ => return []

/-- Writes what has changed. -/
def store (before after : Disk) : IO Unit :=
  after.forM fun e => do
    if before.lookup e.1 == some e.2 then return
    match e.2 with
    | .directory => IO.FS.createDirAll (pathOf e.1)
    | .file content => IO.FS.writeFile (pathOf e.1) (String.ofList (content.getD []))

/-- Runs a command line. -/
def run (arguments : List Text) : IO UInt32 := do
  let cwd := namesOf (← IO.currentDir).toString
  let disk ← gather cwd arguments
  let outcome := runCommand { disk := disk, cwd := cwd, environment := ← readEnvironment } arguments
  store disk outcome.disk
  (← IO.getStdout).putStr (String.ofList outcome.printed.render)
  outcome.complaints.forM fun line => do
    (← IO.getStderr).putStrLn (String.ofList line)
  return UInt32.ofNat outcome.exit.number

end Program

end Gloss

/-- Runs the command line. -/
def main (arguments : List String) : IO UInt32 :=
  Gloss.Program.run (arguments.map String.toList)
