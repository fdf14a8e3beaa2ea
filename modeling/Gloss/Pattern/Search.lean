import Gloss.Pattern.Match

/-!
# Searching a text

The leftmost match of a pattern, and all its matches one after the other. Both walk the places of
the text from left to right and look for a match at each of them.

## Main definitions

* `Expr.find?`: the leftmost match.
* `Expr.findAll`: the matches of a text that do not overlap. An empty match right at the end of
  the match before it is passed over.
-/

namespace Gloss

namespace Expr

/-- The leftmost match in the text after a place. -/
def findFrom? (e : Expr) (before : Option Char) (offset : Nat) : Text → Option Match
  | [] => e.matchAt? { before := before, rest := [], offset := offset }
  | c :: rest =>
    match e.matchAt? { before := before, rest := c :: rest, offset := offset } with
    | some m => some m
    | none => findFrom? e (some c) (offset + c.utf8Size) rest

/-- The leftmost match in a text. -/
def find? (e : Expr) (t : Text) : Option Match :=
  findFrom? e none 0 t

/-- Some piece of the text matches. -/
def matchesIn (e : Expr) (t : Text) : Bool :=
  (e.find? t).isSome

/-- The match at a place that counts after a match that ended at `last`. -/
def nextAt? (e : Expr) (last : Option Nat) (place : Cursor) : Option Match :=
  if last.any (place.offset < ·) then none
  else
    match e.matchAt? place with
    | some m => if m.stop.offset = place.offset ∧ last = some place.offset then none else some m
    | none => none

/-- The matches in the text after a place, the last match before it having ended at `last`. -/
def findAllFrom (e : Expr) (last : Option Nat) (before : Option Char) (offset : Nat) :
    Text → List Match
  | [] => (e.nextAt? last { before := before, rest := [], offset := offset }).toList
  | c :: rest =>
    match e.nextAt? last { before := before, rest := c :: rest, offset := offset } with
    | some m =>
      m :: findAllFrom e (some m.stop.offset) (some c) (offset + c.utf8Size) rest
    | none => findAllFrom e last (some c) (offset + c.utf8Size) rest

/-- The matches of a text, from left to right. -/
def findAll (e : Expr) (t : Text) : List Match :=
  findAllFrom e none none 0 t

end Expr

end Gloss
