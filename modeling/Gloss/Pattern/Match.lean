import Gloss.Pattern.Machine

/-!
# Matches of patterns

The meaning of a pattern at a place is the list of the runs that match there, the preferred one
first. Characters, choices and sequences are read directly; a repetition of anything but characters
is walked by its machine.

## Main definitions

* `Expr.ends`: the runs of a pattern from a place, in order of preference.
* `Match`, `Expr.matchAt?`: the preferred match at a place, with its groups.
-/

namespace Gloss

namespace Run

/-- The runs after zero, one, two and more characters of a class, `rest` being the text that is
left. -/
def along (set : CharClass) (r : Run) : (rest : Text) → List Run
  | [] => [r]
  | c :: rest =>
    if set.mem c then r :: along set { r with place := r.place.step c rest } rest else [r]

/-- The runs after as many characters of a class as a repetition admits. -/
def chars (set : CharClass) (least : Nat) (most : Option Nat) (greedy : Bool) (r : Run) :
    List Run :=
  let all := along set r r.place.rest
  let admitted := match most with
    | none => all.drop least
    | some most => (all.take (most + 1)).drop least
  if greedy then admitted.reverse else admitted

/-- The first run at each place, without those at the places (given by offsets) in `seen`. -/
def distinctFrom (seen : Std.TreeSet Nat) : List Run → List Run
  | [] => []
  | r :: rs =>
    if seen.contains r.place.offset then distinctFrom seen rs
    else r :: distinctFrom (seen.insert r.place.offset) rs

/-- The first run at each place. All that follows a place is the same for the others. -/
def distinct : List Run → List Run
  | [] => []
  | [r] => [r]
  | rs => distinctFrom {} rs

end Run

namespace Expr

/-- The runs of a pattern that continue a run, in order of preference. -/
def ends : Expr → Run → List Run
  | .empty, r => [r]
  | .char set, r => (r.step? set).toList
  | .anchor a, r => (r.anchor? a).toList
  | .seq a b, r => Run.distinct ((a.ends r).flatMap b.ends)
  | .alt a b, r => a.ends r ++ b.ends r
  | .chars set least most greedy, r => Run.chars set least most greedy r
  | .option body greedy, r => if greedy then body.ends r ++ [r] else r :: body.ends r
  | .rep body least most greedy, r => explore (Expr.code (.rep body least most greedy) #[]) r
  | .group index body, r => (body.ends r).map (Run.close index r.place)

/-- The part that comes first can match, as far as one character and one condition tell. Without
this there are no runs. -/
def mayStart : Expr → Run → Bool
  | .char set, r => (r.step? set).isSome
  | .anchor a, r => (r.anchor? a).isSome
  | .seq a _, r => a.mayStart r
  | _, _ => true

end Expr

/-- A match: the piece that is matched and the groups inside. -/
structure Match extends Piece where
  /-- The groups, the latest first. -/
  groups : List (Nat × Piece)
  deriving Repr, DecidableEq

/-- The piece that a group matched, if it took part in the match. -/
def Match.group? (m : Match) (index : Nat) : Option Piece :=
  m.groups.lookup index

/-- The preferred match of a pattern at a place. -/
def Expr.matchAt? (e : Expr) (place : Cursor) : Option Match :=
  let start : Run := { place := place, groups := [] }
  if e.mayStart start then
    (e.ends start).head?.map fun r => { start := place, stop := r.place, groups := r.groups }
  else none

end Gloss
