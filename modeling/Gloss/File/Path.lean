import Gloss.Text.Basic

/-!
# Paths of files

Paths are written with slashes. Two spellings name the same path when they have the same parts:
repeated slashes, a slash at the end and single dots inside a path do not count; a leading dot is a
part of its own, and double dots are kept as they are. Paths are ordered part by part.

## Main definitions

* `forwardSlashes`: a path without backslashes.
* `pathPieces`: the pieces between slashes that count.
* `PathPart`, `pathParts`: the parts of a path.
* `joinPath`: a path below another.
* `pathOrder`: the order of paths.
-/

namespace Gloss

/-- A part of a path. -/
inductive PathPart where
  /-- The root, which an absolute path starts with. -/
  | root
  /-- A leading dot. -/
  | here
  /-- Two dots. -/
  | up
  /-- A name. -/
  | name (n : Text)
  deriving Repr, DecidableEq

/-- The part that a piece between slashes stands for. -/
def PathPart.ofPiece (piece : Text) : PathPart :=
  if piece = ['.', '.'] then .up else .name piece

/-- The path with forward slashes only. -/
def forwardSlashes (path : Text) : Text :=
  path.map fun c => if c = '\\' then '/' else c

/-- The pieces of a path: what stands between slashes and is neither empty nor a single dot. -/
def pathPieces (path : Text) : List Text :=
  (path.split '/').filter fun piece => !piece.isEmpty && piece != ['.']

/-- The parts of a path. -/
def pathParts (path : Text) : List PathPart :=
  let named := (pathPieces path).map PathPart.ofPiece
  match path with
  | '/' :: _ => .root :: named
  | '.' :: '/' :: _ => .here :: named
  | ['.'] => [.here]
  | _ => named

/-- An absolute path. -/
def isAbsolute (path : Text) : Bool :=
  path.head? == some '/'

/-- The path `path`, seen from the directory `dir`. An absolute path stays as it is. -/
def joinPath (dir path : Text) : Text :=
  if isAbsolute path || dir.isEmpty then path
  else if dir.getLast? = some '/' then dir ++ path
  else dir ++ '/' :: path

/-- The parts of the directory that holds a path. The root and the empty path are in none. -/
def parentParts? (parts : List PathPart) : Option (List PathPart) :=
  match parts.getLast? with
  | none => none
  | some .root => none
  | some _ => some parts.dropLast

/-- The name at the end of a path, if it ends in one. -/
def lastName? (parts : List PathPart) : Option Text :=
  match parts.getLast? with
  | some (.name n) => some n
  | _ => none

/-- The part of a name after its last dot, if something stands before that dot. -/
def extension? (name : Text) : Option Text :=
  let tail := name.reverse.takeWhile (· != '.')
  match name.reverse.drop tail.length with
  | _ :: _ :: _ => some tail.reverse
  | _ => none

/-- The order of texts: by the first character that differs, a beginning before the whole. -/
def textOrder : Text → Text → Ordering
  | [], [] => .eq
  | [], _ :: _ => .lt
  | _ :: _, [] => .gt
  | c :: t, d :: u => if c < d then .lt else if d < c then .gt else textOrder t u

/-- The order of parts: the root, a leading dot, double dots, names by their text. -/
def PathPart.rank : PathPart → Nat
  | .root => 0
  | .here => 1
  | .up => 2
  | .name _ => 3

/-- The order of two parts. -/
def partOrder : PathPart → PathPart → Ordering
  | .name a, .name b => textOrder a b
  | a, b => compare a.rank b.rank

/-- The order of paths, part by part, a beginning before the whole. -/
def pathOrder : List PathPart → List PathPart → Ordering
  | [], [] => .eq
  | [], _ :: _ => .lt
  | _ :: _, [] => .gt
  | a :: p, b :: q => (partOrder a b).then (pathOrder p q)

end Gloss
