import Gloss.Note.Line
import Gloss.Pattern.Reader
import Gloss.Text.Offset

/-!
# Fragments

What annotation wants to change in a script, before it is turned into edits: blocks of annotation
lines with their places, and pieces of text that are replaced.

## Main definitions

* `Fragment`: a wanted change.
* `classLinePattern`, `findClassLine?`: where a text declares a class.
* `missingLines`: the lines that a text does not have yet.
-/

namespace Gloss

/-- Where a block of lines goes. -/
inductive Placement where
  /-- At the start of the file. -/
  | fileStart
  /-- Above the line around an offset. -/
  | above (offset : Nat)
  /-- Below the line around an offset. -/
  | below (offset : Nat)
  deriving Repr, DecidableEq

/-- A wanted change. -/
inductive Fragment where
  /-- A block of annotation lines. -/
  | note (lines : List Text) (placement : Placement)
  /-- A new text for the bytes from `start` up to `stop`. -/
  | replacement (start stop : Nat) (text : Text)
  deriving Repr, DecidableEq

namespace Fragment

/-- The annotation lines. -/
def lines : Fragment → List Text
  | .note lines _ => lines
  | .replacement _ _ _ => []

/-- The text that is put into the script. Every annotation line ends in a line feed, and a block
without lines is one. -/
def render : Fragment → Text
  | .note lines _ => ['\n'].intercalate lines ++ ['\n']
  | .replacement _ _ text => text

end Fragment

/-- The written pattern of the lines that declare a class, whatever its base is. -/
def classLinePattern (name : Text) : Text :=
  "(?m)^[ \\t]*---@class[ \\t]+".toList ++ Pattern.escape name ++ "(?:[ \\t:]|$)".toList

/-- Where the first line starts that declares a class. None is found if the name is so long that its
pattern is refused. -/
def findClassLine? (t name : Text) : Option Nat :=
  (Pattern.read? (classLinePattern name)).bind fun pattern =>
    (pattern.expr.find? t).map fun m => t.lineStart m.start.offset

/-- The lines that are not among those in `present`, each once, in their order. -/
def linesOutside (present : List Text) : List Text → List Text
  | [] => []
  | line :: rest =>
    if present.contains line then linesOutside present rest
    else line :: linesOutside (line :: present) rest

/-- The lines that the text does not have, each once, in their order. -/
def missingLines (t : Text) (lines : List Text) : List Text :=
  linesOutside t.trimmedLines lines

end Gloss
