import Gloss.Entries
import Gloss.File.View
import Gloss.Settings.Error

/-!
# Directories of files

The files and directories that a command works on, as a value: where a path leads, what is found
there, and what writing changes.

## Main definitions

* `Disk`: files and directories.
* `Disk.locate?`: where a path leads, seen from a directory.
* `Disk.readText?`, `Disk.isFile`, `Disk.isDirectory`, `Disk.list`: what is found there.
* `Disk.makeDirectories`, `Disk.writeFile`: what can be written.
* `Disk.view`: the files as a `FileView`.
-/

namespace Gloss

/-- What stands at a place of a disk. -/
inductive DiskEntry where
  /-- A file with its text; none if it does not hold text. -/
  | file (content : Option Text)
  /-- A directory. -/
  | directory
  deriving Repr, DecidableEq

/-- Files and directories by the names that lead to them. Directories on the way to an entry are
there without an entry of their own. -/
abbrev Disk := List (List Text × DiskEntry)

namespace Disk

/-- What stands at a place. -/
def atPlace? (disk : Disk) (names : List Text) : Option DiskEntry :=
  match disk.lookup names with
  | some e => some e
  | none =>
    if names.isEmpty || disk.any fun e => names.isPrefixOf e.1 then some .directory else none

/-- A directory stands at a place. -/
def isDirectoryAt (disk : Disk) (names : List Text) : Bool :=
  disk.atPlace? names == some .directory

/-- Where the parts of a path lead. All parts but the last have to go through directories. -/
def walk? (disk : Disk) (names : List Text) : List PathPart → Option (List Text)
  | [] => some names
  | .root :: rest => walk? disk [] rest
  | .here :: rest => walk? disk names rest
  | .up :: rest => if disk.isDirectoryAt names then walk? disk names.dropLast rest else none
  | .name n :: rest => if disk.isDirectoryAt names then walk? disk (names ++ [n]) rest else none

/-- The spelling of a path says that it is a directory. -/
def spelledAsDirectory (path : Text) : Bool :=
  match path.reverse with
  | '/' :: _ => true
  | '.' :: '/' :: _ => true
  | _ => false

/-- Where a path leads, seen from the directory `cwd`. The empty path leads nowhere. -/
def locate? (disk : Disk) (cwd : List Text) (path : Text) : Option (List Text) :=
  if path.isEmpty then none
  else
    (disk.walk? cwd (pathParts path)).bind fun names =>
      if spelledAsDirectory path && !disk.isDirectoryAt names then none else some names

/-- What a path leads to. -/
def at? (disk : Disk) (cwd : List Text) (path : Text) : Option DiskEntry :=
  (disk.locate? cwd path).bind disk.atPlace?

/-- A path leads to a file. -/
def isFile (disk : Disk) (cwd : List Text) (path : Text) : Bool :=
  match disk.at? cwd path with
  | some (.file _) => true
  | _ => false

/-- A path leads to a directory. -/
def isDirectory (disk : Disk) (cwd : List Text) (path : Text) : Bool :=
  disk.at? cwd path == some .directory

/-- The text of the file that a path leads to. -/
def readText? (disk : Disk) (cwd : List Text) (path : Text) : Option Text :=
  match disk.at? cwd path with
  | some (.file content) => content
  | _ => none

/-- What leads from a directory to a place below it. -/
def below? : (dir names : List Text) → Option (List Text)
  | [], [] => none
  | [], names => some names
  | _ :: _, [] => none
  | d :: dir, n :: names => if d = n then below? dir names else none

/-- The files below a directory: what leads to them from there. -/
def filesBelow (disk : Disk) (dir : List Text) : List (List Text) :=
  disk.filterMap fun e =>
    match e.2 with
    | .file _ => below? dir e.1
    | .directory => none

/-- The names of the files right inside the directory that a path leads to. -/
def list (disk : Disk) (cwd : List Text) (path : Text) : List Text :=
  match disk.locate? cwd path with
  | none => []
  | some dir =>
    (disk.filesBelow dir).filterMap fun names =>
      match names with
      | [name] => some name
      | _ => none

/-- The files as a view, seen from a directory. -/
def view (disk : Disk) (cwd : List Text) : FileView :=
  { isFile := disk.isFile cwd
    read? := disk.readText? cwd
    list := disk.list cwd }

/-- The disk with something put at a place. -/
def put (disk : Disk) (names : List Text) (e : DiskEntry) : Disk :=
  setEntry names e disk

/-- Makes the directory at the end of the given parts, and those on the way to it. -/
def makeDirectories (disk : Disk) (names : List Text) : List PathPart → Except WriteFault Disk
  | [] => .ok disk
  | .root :: rest => makeDirectories disk [] rest
  | .here :: rest => makeDirectories disk names rest
  | .up :: rest => makeDirectories disk names.dropLast rest
  | .name n :: rest =>
    match disk.atPlace? (names ++ [n]) with
    | some .directory => makeDirectories disk (names ++ [n]) rest
    | some (.file _) => .error (if rest.isEmpty then .fileExists else .notDirectory)
    | none => makeDirectories (disk.put (names ++ [n]) .directory) (names ++ [n]) rest

/-- Writes a text to the file that a path leads to. -/
def writeFile (disk : Disk) (cwd : List Text) (path content : Text) : Except WriteFault Disk :=
  if path.isEmpty then .error .notFound
  else
    match disk.walk? cwd (pathParts path) with
    | none => .error .notFound
    | some names =>
      if disk.isDirectoryAt names then .error .isDirectory
      else if spelledAsDirectory path then .error .isDirectory
      else .ok (disk.put names (.file (some content)))

end Disk

end Gloss
