import Gloss.Pattern.Basic

/-!
# Sizes of patterns

Patterns are matched by automata over the bytes of a text, and counted repetitions multiply their
states. This module works out how much memory the automaton of a pattern needs, so that patterns can
be refused before they take up too much of it. A class of characters outside ASCII weighs by the
sequences of byte ranges that its characters have in UTF-8: each of them is a branch, and has a
state for every byte range that does not belong to the sequence before.

## Main definitions

* `CharClass.rangesIn`: the ranges of the characters of a class.
* `ByteRanges.ofRange`: the sequences of byte ranges of a range of characters.
* `Expr.weight`: the memory of the automaton of a pattern, in bytes.
* `Expr.weightLimit`: how much a pattern may need.
-/

namespace Gloss

namespace CharClass

/-- A block of code points, with the characters of the named classes in it. -/
structure Block where
  /-- The first code point. -/
  first : Nat
  /-- The last code point. -/
  last : Nat
  /-- The word characters. -/
  word : Text.Ranges
  /-- The decimal digits. -/
  decimal : Text.Ranges
  /-- White space. -/
  blank : Text.Ranges

/-- The code points of ASCII. -/
def asciiBlock : Block :=
  { first := 0
    last := 0x7F
    word := [(0x30, 0x39), (0x41, 0x5A), (0x5F, 0x5F), (0x61, 0x7A)]
    decimal := [(0x30, 0x39)]
    blank := [(0x09, 0x0D), (0x20, 0x20)] }

/-- The code points outside ASCII. -/
def wideBlock : Block :=
  { first := 0x80
    last := 0x10FFFF
    word := (Text.letterRanges.union Text.decimalRanges).union Text.joinerRanges
    decimal := Text.decimalRanges
    blank := [(0x85, 0x85), (0xA0, 0xA0), (0x1680, 0x1680), (0x2000, 0x200A), (0x2028, 0x2029),
      (0x202F, 0x202F), (0x205F, 0x205F), (0x3000, 0x3000)] }

/-- The ranges of the characters of a class that lie in a block. Characters get into a class by
their case only if case folding moves them. -/
def rangesIn (block : Block) : CharClass → Text.Ranges
  | .nothing => []
  | .range first last =>
    let first := max first.toNat block.first
    let last := min last.toNat block.last
    if first ≤ last then [(first, last)] else []
  | .word => block.word
  | .decimal => block.decimal
  | .blank => block.blank
  | .union a b => (rangesIn block a).union (rangesIn block b)
  | .inter a b => .interIn block.first block.last (rangesIn block a) (rangesIn block b)
  | .diff a b =>
    .interIn block.first block.last (rangesIn block a)
      (.complIn block.first block.last (rangesIn block b))
  | .symmDiff a b =>
    let left := rangesIn block a
    let right := rangesIn block b
    .interIn block.first block.last (left.union right)
      (.complIn block.first block.last (.interIn block.first block.last left right))
  | .compl a => .complIn block.first block.last (rangesIn block a)
  | .folded a =>
    let others := Text.foldShifts.moved.filter fun c =>
      block.first ≤ c.toNat && c.toNat ≤ block.last && (folded a).mem c
    others.foldl (fun ranges c => ranges.insert (c.toNat, c.toNat)) (rangesIn block a)

end CharClass

/-- The bytes at each place of the UTF-8 forms of characters, the first of them as the code point up
to that byte, and the others without their marks. -/
abbrev ByteRanges := List (Nat × Nat)

namespace ByteRanges

/-- The sequences for the code points from `first` to `last`, which have the same bytes up to the
one that `more` bytes follow. Where the bytes that follow are not arbitrary, the range is cut. -/
def ofRange : (more first last : Nat) → List ByteRanges
  | 0, first, last => [[(first, last)]]
  | more + 1, first, last =>
    let size := Nat.pow 64 (more + 1)
    let behind (byte : Nat) (first last : Nat) : List ByteRanges :=
      (ofRange more first last).map fun bytes => (byte, byte) :: bytes
    let low := first / size
    let high := last / size
    if low = high then behind low (first % size) (last % size)
    else
      let cutLow := first % size != 0
      let cutHigh := last % size != size - 1
      let start := if cutLow then low + 1 else low
      let stop := if cutHigh then high else high + 1
      (if cutLow then behind low (first % size) (size - 1) else []) ++
        (if start < stop then [(start, stop - 1) :: List.replicate (more + 1) (0, 63)] else []) ++
        (if cutHigh then behind high 0 (last % size) else [])

/-- The code points whose forms have as many bytes, with the number of bytes after the first. The
surrogates, which are no characters, lie between the third and the fourth. -/
def blocks : List (Nat × Nat × Nat) :=
  [(0, 0x7F, 0), (0x80, 0x7FF, 1), (0x800, 0xD7FF, 2), (0xE000, 0xFFFF, 2), (0x10000, 0x10FFFF, 3)]

/-- The sequences for ranges of code points, in order. -/
def ofRanges (ranges : Text.Ranges) : List ByteRanges :=
  ranges.flatMap fun r =>
    blocks.flatMap fun block =>
      let first := max r.1 block.1
      let last := min r.2 block.2.1
      if first ≤ last then ofRange block.2.2 first last else []

/-- The number of byte ranges with which both sequences start. -/
def shared : ByteRanges → ByteRanges → Nat
  | a :: as, b :: bs => if a = b then shared as bs + 1 else 0
  | _, _ => 0

/-- The memory for sequences after the sequence `last`: for a branch each, and for their states. -/
def weightAfter (last : ByteRanges) : List ByteRanges → Nat
  | [] => 0
  | bytes :: rest => 4 + 32 * (bytes.length - shared last bytes) + weightAfter bytes rest

end ByteRanges

namespace CharClass

/-- All characters of the class are ASCII; not known of a class that is given by what it is not.
Only two letters of ASCII differ in case alone from letters outside. -/
def isAscii : CharClass → Bool
  | .nothing => true
  | .range _ last => Text.isAscii last
  | .union a b => a.isAscii && b.isAscii
  | .inter a b => a.isAscii || b.isAscii
  | .diff a _ => a.isAscii
  | .symmDiff a b => a.isAscii && b.isAscii
  | .folded (.range first last) =>
    Text.isAscii first && first == last && "kKsS".toList.all (· != first)
  | _ => false

/-- The memory for the characters outside ASCII. -/
def rangesWeight (set : CharClass) : Nat :=
  ByteRanges.weightAfter [] (ByteRanges.ofRanges (set.rangesIn wideBlock))

/-- The memory for the characters outside ASCII, which is known for the named classes and not
changed by characters of ASCII. -/
def wideWeight : CharClass → Nat
  | .word => 49628
  | .decimal => 5016
  | .blank => 544
  | .compl .word => 46176
  | .compl .decimal => 12584
  | .compl .blank => 1752
  | .compl a => if a.isAscii then 864 else rangesWeight (.compl a)
  | .union a b =>
    if a.isAscii then b.wideWeight
    else if b.isAscii then a.wideWeight
    else rangesWeight (.union a b)
  | set => if set.isAscii then 0 else set.rangesWeight

/-- The only member of a class that is written as one. -/
def sole? : CharClass → Option Char
  | .range first last => if first = last then some first else none
  | .union a .nothing => a.sole?
  | _ => none

/-- The memory for a character of a class. A class within ASCII is one state with a transition for
each of its ranges. -/
def weight (set : CharClass) : Nat :=
  match set.sole? with
  | some c => 32 * c.utf8Size
  | none =>
    let ranges := (set.rangesIn asciiBlock).length
    let wide := set.wideWeight
    64 + if wide = 0 then 8 * ranges else 36 * ranges + wide

end CharClass

namespace Expr

/-- The memory for rounds that need `round` each. -/
def roundsWeight (round least : Nat) (moves : Bool) : Option Nat → Nat
  | none => if least = 0 then round + (if moves then 40 else 112) else least * round + 40
  | some most => least * round + (most - least) * (round + 40) + 32

/-- The memory of the automaton of a pattern, added to `total`. Long sequences are nested to the
left, so that what stands in front of them comes last. -/
def weightOnto (total : Nat) : Expr → Nat
  | .empty => total + 32
  | .char set => total + set.weight
  | .anchor _ => total + 32
  | .seq a b => weightOnto (weightOnto total b) a
  | .alt a b => weightOnto (weightOnto (total + 72) b) a
  | .chars set least most _ => total + roundsWeight set.weight least true most
  | .option body _ => weightOnto (total + 72) body
  | .rep body least most _ => total + roundsWeight (weightOnto 0 body) least body.moves most
  | .group _ body => weightOnto (total + 64) body

/-- The memory of the automaton of a pattern. -/
def weight (e : Expr) : Nat :=
  e.weightOnto 0

/-- The memory that a pattern may need. -/
def weightLimit : Nat := 10485760

end Expr

end Gloss
