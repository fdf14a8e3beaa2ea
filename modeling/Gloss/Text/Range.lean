/-!
# Character ranges

A property of characters is given by the list of the closed ranges of code points that have it.
This module looks a character up in such a list, and in a list of case shifts, and has the set
operations on lists whose ranges stand in order and do not meet.

## Main definitions

* `Text.Ranges.contains`: membership of a character in a list of ranges.
* `Text.Ranges.union`, `Text.Ranges.complIn`, `Text.Ranges.interIn`: the set operations.
* `Text.Shifts.apply`: the code point that a list of shifts assigns to a character.
-/

namespace Gloss

namespace Text

/-- Closed ranges of code points. -/
abbrev Ranges := List (Nat × Nat)

/-- A character lies in one of the ranges. -/
def Ranges.contains (ranges : Ranges) (c : Char) : Bool :=
  ranges.any fun r => r.1 ≤ c.toNat && c.toNat ≤ r.2

/-- The ranges with one more; those that it meets are joined with it. -/
def Ranges.insert (r : Nat × Nat) : Ranges → Ranges
  | [] => [r]
  | next :: rest =>
    if r.2 + 1 < next.1 then r :: next :: rest
    else if next.2 + 1 < r.1 then next :: Ranges.insert r rest
    else Ranges.insert (min r.1 next.1, max r.2 next.2) rest

/-- The code points of either list. -/
def Ranges.union (a b : Ranges) : Ranges :=
  b.foldl (fun ranges r => ranges.insert r) a

/-- The code points from `first` to `last` that are in none of the ranges. -/
def Ranges.complIn (first last : Nat) : Ranges → Ranges
  | [] => if first ≤ last then [(first, last)] else []
  | r :: rest =>
    let more := Ranges.complIn (r.2 + 1) last rest
    if first < r.1 then (first, r.1 - 1) :: more else more

/-- The code points from `first` to `last` that are in both lists. -/
def Ranges.interIn (first last : Nat) (a b : Ranges) : Ranges :=
  Ranges.complIn first last ((Ranges.complIn first last a).union (Ranges.complIn first last b))

/-- Runs of code points that move by one distance: first, last, step within the run, distance. -/
abbrev Shifts := List (Nat × Nat × Nat × Int)

/-- A run covers a code point when it lies between its ends, a whole number of steps from the
first. -/
def Shifts.covers (run : Nat × Nat × Nat × Int) (n : Nat) : Bool :=
  run.1 ≤ n && n ≤ run.2.1 && (n - run.1) % run.2.2.1 == 0

/-- The character that the first run covering `c` moves it to, and `c` itself when none does. -/
def Shifts.apply (shifts : Shifts) (c : Char) : Char :=
  match shifts.find? fun run => Shifts.covers run c.toNat with
  | some run => Char.ofNat (Int.toNat (Int.ofNat c.toNat + run.2.2.2))
  | none => c

/-- The characters that some run moves, and those that they are moved to. -/
def Shifts.moved (shifts : Shifts) : List Char :=
  shifts.flatMap fun run =>
    (List.range ((run.2.1 - run.1) / run.2.2.1 + 1)).flatMap fun i =>
      let n := run.1 + i * run.2.2.1
      [Char.ofNat n, Char.ofNat (Int.toNat (Int.ofNat n + run.2.2.2))]

/-- The characters that some run moves to `c`. -/
def Shifts.sources (shifts : Shifts) (c : Char) : List Char :=
  shifts.filterMap fun run =>
    let n := Int.toNat (Int.ofNat c.toNat - run.2.2.2)
    if Shifts.covers run n then some (Char.ofNat n) else none

end Text

end Gloss
