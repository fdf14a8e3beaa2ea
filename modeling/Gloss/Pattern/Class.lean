import Gloss.Text.Basic
import Gloss.Text.Case
import Gloss.Text.Letter

/-!
# Character classes

The sets of characters that a pattern can name: ranges, the classes of word characters, decimal
digits and white space, and what the set operations make of them.

## Main definitions

* `CharClass`: a description of a set of characters.
* `CharClass.mem`: the set that it describes, as a test.
-/

namespace Gloss

/-- A description of a set of characters. -/
inductive CharClass where
  /-- The empty set. -/
  | nothing
  /-- The characters from `first` to `last`. -/
  | range (first last : Char)
  /-- Word characters. -/
  | word
  /-- Decimal digits. -/
  | decimal
  /-- White space. -/
  | blank
  /-- Characters of one set or the other. -/
  | union (a b : CharClass)
  /-- Characters of both sets. -/
  | inter (a b : CharClass)
  /-- Characters of the first set that are not in the second. -/
  | diff (a b : CharClass)
  /-- Characters of exactly one of the sets. -/
  | symmDiff (a b : CharClass)
  /-- All characters that are not in the set. -/
  | compl (a : CharClass)
  /-- Characters that differ from a member at most in case. -/
  | folded (a : CharClass)
  deriving Repr, DecidableEq

namespace CharClass

/-- The set with one member. -/
def single (c : Char) : CharClass :=
  .range c c

/-- The union of several sets. -/
def unions (classes : List CharClass) : CharClass :=
  classes.foldr .union .nothing

/-- Membership in the set that a description stands for. -/
def mem : CharClass → Char → Bool
  | .nothing, _ => false
  | .range first last, c => first ≤ c && c ≤ last
  | .word, c => Text.isWord c
  | .decimal, c => Text.isDecimal c
  | .blank, c => Text.isBlank c
  | .union a b, c => a.mem c || b.mem c
  | .inter a b, c => a.mem c && b.mem c
  | .diff a b, c => a.mem c && !b.mem c
  | .symmDiff a b, c => a.mem c != b.mem c
  | .compl a, c => !a.mem c
  | .folded a, c => (Text.caseVariants c).any a.mem

end CharClass

end Gloss
