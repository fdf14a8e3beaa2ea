import Gloss.File.Path
import Gloss.Text.Case
import Gloss.Text.Utf8

/-!
# Paths of scripts

A script is named by a path or by a `file://` address. Either kind of slash separates the segments
of its path; empty segments and single dots do not count.

## Main definitions

* `ScriptPath`: a path with at least one segment.
* `ScriptPath.read`: reads a path or an address.
* `ScriptPath.fileStem`, `ScriptPath.parent?`: parts of a path that classification uses.
-/

namespace Gloss

/-- Why a text names no script. -/
inductive ScriptPathFault where
  /-- The bytes of an address are not UTF-8. -/
  | notUtf8 (fault : Utf8Fault)
  /-- The path has no segment. -/
  | noSegments
  deriving Repr, DecidableEq

/-- The wording of the fault. -/
def ScriptPathFault.message : ScriptPathFault → Text
  | .notUtf8 fault => "path is not UTF-8: ".toList ++ fault.message
  | .noSegments => "path has no components".toList

/-- The path of a script. -/
structure ScriptPath where
  /-- The path, written with forward slashes. -/
  path : Text
  /-- A path has a segment. -/
  segments_ne_nil : pathPieces path ≠ []

/-- The path without the slash in front of a drive letter. -/
def dropDriveSlash (path : Text) : Text :=
  match path with
  | '/' :: drive :: ':' :: rest =>
    if Text.isAsciiLetter drive then drive :: ':' :: rest else path
  | _ => path

/-- The path that an identifier names: what an address encodes, or the identifier itself. -/
def identifiedPath (identifier : Text) : Except ScriptPathFault Text :=
  match Text.after? "file://".toList identifier with
  | some encoded =>
    match Text.ofUtf8 (Text.percentDecode encoded) with
    | .ok path => .ok (dropDriveSlash path)
    | .error fault => .error (.notUtf8 fault)
  | none => .ok identifier

namespace ScriptPath

/-- Reads a path or an address. -/
def read (identifier : Text) : Except ScriptPathFault ScriptPath :=
  match identifiedPath identifier with
  | .error fault => .error fault
  | .ok path =>
    if h : pathPieces (forwardSlashes path) ≠ [] then .ok ⟨forwardSlashes path, h⟩
    else .error .noSegments

/-- The segments of the path. -/
def segments (p : ScriptPath) : List Text :=
  pathPieces p.path

/-- The last segment. -/
def fileName (p : ScriptPath) : Text :=
  p.segments.getLast p.segments_ne_nil

/-- The segments before the last, in lower case. -/
def loweredDirs (p : ScriptPath) : List Text :=
  p.segments.dropLast.map Text.lower

/-- The file name up to its last dot. A name without a dot, or with one only at its start, is its
own stem. -/
def fileStem (p : ScriptPath) : Text :=
  let name := p.fileName
  let tail := name.reverse.takeWhile (· != '.')
  match name.reverse.drop tail.length with
  | _ :: c :: rest => (c :: rest).reverse
  | _ => name

/-- The directory of the script, if its path names one. -/
def parent? (p : ScriptPath) : Option Text :=
  let trimmed := Text.dropEndWhile (· == '/') p.path
  let dir := (trimmed.reverse.dropWhile (· != '/')).tail.reverse
  if trimmed.contains '/' && !dir.isEmpty then some dir
  else if p.path.head? = some '/' then some ['/']
  else none

/-- The name of the directory of the script. -/
def parentName? (p : ScriptPath) : Option Text :=
  p.segments.dropLast.getLast?

end ScriptPath

end Gloss
