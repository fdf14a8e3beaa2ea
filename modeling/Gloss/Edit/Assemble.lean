import Gloss.Edit.Basic
import Gloss.Note.Fragment

/-!
# Assembling edits

Fragments become edits. All offsets are those of the unchanged text, so the edits are ordered from
the end of the text to its start. At one offset a replacement comes first and then the insertions,
the latest first: when they have been applied, the insertions stand before the replacement in the
order of their fragments.

## Main definitions

* `Placement.position`: the offset of a placement.
* `Pending`: a change before it becomes an edit.
* `assemble`: the edits of fragments.
-/

namespace Gloss

/-- The character that may mark the byte order at the start of a file. -/
def byteOrderMark : Char :=
  Char.ofNat 0xFEFF

/-- Checks that an offset is a boundary of a text. -/
def checkOffset (t : Text) (offset : Nat) : Except EditError Unit :=
  checkRange t offset offset

/-- The last line of a text is not empty and has no line feed. -/
def endsUnterminated (t : Text) : Bool :=
  !t.isEmpty && t.getLast? != some '\n'

/-- The offset of a placement, and whether a line feed is needed before what is put there. -/
def Placement.position (t : Text) : Placement → Except EditError (Nat × Bool)
  | .fileStart => .ok (if t.head? = some byteOrderMark then byteOrderMark.utf8Size else 0, false)
  | .above offset => do
    checkOffset t offset
    return (t.lineStart offset, false)
  | .below offset => do
    checkOffset t offset
    let position := t.nextLineStart offset
    return (position, position == t.size && endsUnterminated t)

/-- A change before it becomes an edit. -/
structure Pending where
  /-- The number of its fragment. -/
  order : Nat
  /-- The offset where it starts. -/
  start : Nat
  /-- The offset where it ends. -/
  stop : Nat
  /-- It is the insertion of a block. -/
  insertion : Bool
  /-- The new text. -/
  text : Text
  deriving Repr, DecidableEq

namespace Pending

/-- Two replacements share a byte, or one lies inside the other. -/
def overlaps (p : Pending) (start stop : Nat) : Bool :=
  p.start < stop && start < p.stop

/-- An offset lies inside the replacement, not at its ends. -/
def surrounds (p : Pending) (offset : Nat) : Bool :=
  p.start < offset && offset < p.stop

/-- An insertion that lies inside a replacement goes to its end. -/
def movedPast (replacements : List Pending) (p : Pending) : Pending :=
  match replacements.find? fun r => r.surrounds p.start with
  | some r => { p with start := r.stop, stop := r.stop }
  | none => p

/-- The order in which changes are applied. -/
def comesBefore (p q : Pending) : Bool :=
  if p.start = q.start then
    if p.insertion = q.insertion then q.order ≤ p.order else q.insertion
  else q.start < p.start

/-- The edit that a change becomes. -/
def edit (p : Pending) : Edit :=
  if p.insertion then .insert p.start p.text else .replace p.start p.stop p.text

end Pending

/-- The changes that fragments ask for. -/
structure Changes where
  /-- Replacements, in the order of their fragments. -/
  replacements : List Pending
  /-- Insertions, in the order of their fragments. -/
  insertions : List Pending
  deriving Repr, DecidableEq

/-- Adds the change of a fragment. A block without lines changes nothing, and a replacement that
overlaps an earlier one is dropped. -/
def Changes.add (t : Text) (changes : Changes) (fragment : Fragment × Nat) :
    Except EditError Changes :=
  match fragment with
  | (.note lines placement, order) =>
    if lines.isEmpty then .ok changes
    else do
      let (position, needsLineFeed) ← placement.position t
      let body := (Fragment.note lines placement).render
      let new : Pending :=
        { order := order
          start := position
          stop := position
          insertion := true
          text := if needsLineFeed then '\n' :: body else body }
      return { changes with insertions := changes.insertions ++ [new] }
  | (.replacement start stop text, order) => do
    checkRange t start stop
    if changes.replacements.any fun r => r.overlaps start stop then return changes
    else
      let new : Pending :=
        { order := order, start := start, stop := stop, insertion := false, text := text }
      return { changes with replacements := changes.replacements ++ [new] }

/-- The changes of fragments. -/
def Changes.ofFragments (t : Text) (fragments : List Fragment) : Except EditError Changes :=
  fragments.zipIdx.foldlM (Changes.add t) { replacements := [], insertions := [] }

/-- All changes in the order in which they are applied. -/
def Changes.ordered (changes : Changes) : List Pending :=
  (changes.replacements ++
    changes.insertions.map (Pending.movedPast changes.replacements)).mergeSort Pending.comesBefore

/-- The edits of fragments. -/
def assemble (t : Text) (fragments : List Fragment) : Except EditError (List Edit) :=
  match Changes.ofFragments t fragments with
  | .error error => .error error
  | .ok changes => .ok (changes.ordered.map Pending.edit)

end Gloss
