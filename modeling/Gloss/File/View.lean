import Gloss.File.Path

/-!
# Files around a script

The annotator looks at the files around a script only through a `FileView`: which files there are
and what they hold. A `FileMap` is a set of files held in memory, and gives such a view.

## Main definitions

* `FileView`: what can be asked about files.
* `FileMap`, `FileMap.insert`, `FileMap.view`: files in memory.
-/

namespace Gloss

/-- What can be asked about files. Paths are given as they are written. -/
structure FileView where
  /-- There is a file at the path. -/
  isFile : Text → Bool
  /-- The text of the file at the path, if there is one and it can be read. -/
  read? : Text → Option Text
  /-- The names of the files right inside a directory. -/
  list : Text → List Text

/-- Files in memory: the parts of their paths and their texts, in the order of paths. -/
abbrev FileMap := List (List PathPart × Text)

namespace FileMap

/-- Adds or replaces the file with the given parts. -/
def insertParts (parts : List PathPart) (content : Text) : FileMap → FileMap
  | [] => [(parts, content)]
  | (p, c) :: rest =>
    match pathOrder parts p with
    | .lt => (parts, content) :: (p, c) :: rest
    | .eq => (p, content) :: rest
    | .gt => (p, c) :: insertParts parts content rest

/-- Adds or replaces a file. -/
def insert (files : FileMap) (path content : Text) : FileMap :=
  insertParts (pathParts path) content files

/-- The files with the given paths and texts. -/
def ofList (entries : List (Text × Text)) : FileMap :=
  entries.foldl (fun files entry => files.insert entry.1 entry.2) []

/-- The text of a file. -/
def read? (files : FileMap) (path : Text) : Option Text :=
  files.lookup (pathParts path)

/-- The names of the files right inside a directory, in the order of paths. -/
def list (files : FileMap) (dir : Text) : List Text :=
  files.filterMap fun file =>
    if parentParts? file.1 = some (pathParts dir) then lastName? file.1 else none

/-- The view of files in memory. -/
def view (files : FileMap) : FileView :=
  { isFile := fun path => (files.read? path).isSome
    read? := files.read?
    list := files.list }

end FileMap

end Gloss
