import Gloss.Note.Fragment

/-!
# Blocks for meta tables

Calls on a meta table are documented in place. All calls for one type share a block, which goes
below the last of them.

## Main definitions

* `InlineGroups`: the lines for each type.
* `InlineGroups.push`: adds the lines of a call.
* `InlineGroups.fragments`: the blocks.
-/

namespace Gloss

/-- The lines for one type. -/
structure InlineGroup where
  /-- The type. -/
  typeName : Text
  /-- The offset below whose line the block goes. -/
  anchor : Nat
  /-- The lines, in the order of the calls. -/
  lines : List Text
  deriving Repr, DecidableEq

/-- The lines for each type, in the order in which the types first occur. -/
abbrev InlineGroups := List InlineGroup

namespace InlineGroups

/-- Adds lines for a type. -/
def push (typeName : Text) (anchor : Nat) (lines : List Text) : InlineGroups → InlineGroups
  | [] => [{ typeName := typeName, anchor := anchor, lines := lines }]
  | g :: groups =>
    if g.typeName = typeName then
      { g with anchor := max g.anchor anchor, lines := g.lines ++ lines } :: groups
    else g :: push typeName anchor lines groups

/-- The block of a type, if the text lacks some of its lines. -/
def fragment? (t : Text) (g : InlineGroup) : Option Fragment :=
  match missingLines t g.lines with
  | [] => none
  | fields => some (.note (classLine g.typeName none :: fields) (.below g.anchor))

/-- The blocks of all types. -/
def fragments (groups : InlineGroups) (t : Text) : List Fragment :=
  groups.filterMap (fragment? t)

end InlineGroups

end Gloss
