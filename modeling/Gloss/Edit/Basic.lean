import Gloss.Text.Offset

/-!
# Edits

An edit replaces a piece of a text. Its ends are counted from one and belong to the piece, so an
insertion has its end before its start. Edits are applied one after the other, each to the text
that the edits before it have made.

## Main definitions

* `Edit`: an edit.
* `EditError`: an edit that does not fit a text.
* `applyEdits`: the text after all edits.
-/

namespace Gloss

/-- An edit: the bytes from number `start` to number `finish`, counted from one, become `text`. -/
structure Edit where
  /-- The first byte. -/
  start : Nat
  /-- The last byte; one less than `start` for an insertion. -/
  finish : Nat
  /-- The new text. -/
  text : Text
  deriving Repr, DecidableEq

namespace Edit

/-- Puts a text at an offset. -/
def insert (offset : Nat) (text : Text) : Edit :=
  { start := offset + 1, finish := offset, text := text }

/-- Replaces the bytes from the offset `start` up to the offset `stop`. -/
def replace (start stop : Nat) (text : Text) : Edit :=
  { start := start + 1, finish := stop, text := text }

/-- Nothing is replaced. -/
def isInsertion (e : Edit) : Bool :=
  e.finish < e.start

/-- The offset of the first byte. -/
def offset (e : Edit) : Nat :=
  e.start - 1

/-- The offset after the last byte. -/
def stop (e : Edit) : Nat :=
  max e.finish e.offset

end Edit

/-- Why an edit does not fit a text. -/
inductive EditError where
  /-- It reaches outside a text of `size` bytes. -/
  | outside (start stop size : Nat)
  /-- One of its ends lies inside a character. -/
  | insideCharacter (start stop : Nat)
  deriving Repr, DecidableEq

/-- What the user is told. -/
def EditError.message : EditError → Text
  | .outside start stop size =>
    "Edit at ".toList ++ Text.ofNat start ++ "..".toList ++ Text.ofNat stop ++
      " is outside a text of ".toList ++ Text.ofNat size ++ " bytes".toList
  | .insideCharacter start stop =>
    "Edit at ".toList ++ Text.ofNat start ++ "..".toList ++ Text.ofNat stop ++
      " does not fall on a character boundary".toList

/-- Checks that two offsets are boundaries of a text, the second not before the first. -/
def checkRange (t : Text) (start stop : Nat) : Except EditError Unit :=
  if stop < start ∨ t.size < stop then .error (.outside start stop t.size)
  else if t.isBoundary start && t.isBoundary stop then .ok ()
  else .error (.insideCharacter start stop)

/-- The text with the bytes between two boundaries replaced. -/
def spliced (t : Text) (start stop : Nat) (new : Text) : Text :=
  match t.cut? start, t.cut? stop with
  | some (before, _), some (_, after) => before ++ new ++ after
  | _, _ => t

/-- The text after an edit. -/
def applyEdit (t : Text) (e : Edit) : Except EditError Text :=
  if e.start = 0 then .error (.outside e.start e.finish t.size)
  else
    match checkRange t e.offset e.stop with
    | .error error => .error error
    | .ok () => .ok (spliced t e.offset e.stop e.text)

/-- The text after all edits, one after the other. -/
def applyEdits (t : Text) (edits : List Edit) : Except EditError Text :=
  edits.foldlM applyEdit t

end Gloss
