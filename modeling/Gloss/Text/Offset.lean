import Gloss.Text.Basic

/-!
# Byte offsets

Offsets into a text are byte offsets into its UTF-8 form. An offset is a *boundary* when a
character starts there, or the text ends there.

## Main definitions

* `Text.cut?`: the two parts of a text at a boundary.
* `Text.lineStart`, `Text.nextLineStart`, `Text.lineOf`: the line around an offset. They are defined
  for every offset; `Text.lineBounds?` gives all three, and only at boundaries.
-/

namespace Gloss

namespace Text

/-- The parts of the text before and after an offset that is a boundary. -/
def cut? : Text → Nat → Option (Text × Text)
  | t, 0 => some ([], t)
  | [], _ + 1 => none
  | c :: rest, n + 1 =>
    if c.utf8Size ≤ n + 1 then
      (cut? rest (n + 1 - c.utf8Size)).map fun parts => (c :: parts.1, parts.2)
    else none

/-- A character starts at the offset, or the text ends there. -/
def isBoundary (t : Text) (offset : Nat) : Bool :=
  (cut? t offset).isSome

/-- The text between two boundaries. -/
def slice? (t : Text) (start stop : Nat) : Option Text :=
  (cut? t start).bind fun parts => (cut? parts.2 (stop - start)).map (·.1)

/-- The start of the line around `target`, for the text from `here` on; `start` is the start of
the line at `here`. -/
def lineStartFrom (target start here : Nat) : Text → Nat
  | [] => start
  | c :: rest =>
    if target ≤ here then start
    else lineStartFrom target (if c = '\n' then here + 1 else start) (here + c.utf8Size) rest

/-- Where the line around an offset starts: after the last line feed before it. -/
def lineStart (t : Text) (offset : Nat) : Nat :=
  lineStartFrom offset 0 0 t

/-- The first line start after `target`, for the text from `here` on, or the end of the text. -/
def nextLineStartFrom (target here : Nat) : Text → Nat
  | [] => here
  | c :: rest =>
    if target ≤ here ∧ c = '\n' then here + 1
    else nextLineStartFrom target (here + c.utf8Size) rest

/-- Where the line after an offset starts: after the first line feed at or after it, or at the end
of the text. -/
def nextLineStart (t : Text) (offset : Nat) : Nat :=
  nextLineStartFrom offset 0 t

/-- The number of line feeds before `target` in the text from `here` on. -/
def lineFeedsBefore (target here : Nat) : Text → Nat
  | [] => 0
  | c :: rest =>
    if target ≤ here then 0
    else (if c = '\n' then 1 else 0) + lineFeedsBefore target (here + c.utf8Size) rest

/-- The number of the line around an offset, the first line having number zero. -/
def lineOf (t : Text) (offset : Nat) : Nat :=
  lineFeedsBefore offset 0 t

/-- The line around an offset. -/
structure LineBounds where
  /-- The number of the line. -/
  line : Nat
  /-- Where it starts. -/
  start : Nat
  /-- Where the next line starts. -/
  next : Nat
  deriving Repr, DecidableEq

/-- The line around a boundary. Offsets behind the end stand for the end. -/
def lineBounds? (t : Text) (offset : Nat) : Option LineBounds :=
  let offset := min offset t.size
  if isBoundary t offset then
    some { line := lineOf t offset, start := lineStart t offset, next := nextLineStart t offset }
  else none

/-- The lines of a text, white space at their ends left out. -/
def trimmedLines (t : Text) : List Text :=
  t.lines.map trim

/-- Some line of the text, white space at its ends left out, is `line`. -/
def hasLine (t line : Text) : Bool :=
  t.trimmedLines.contains line

end Text

end Gloss
