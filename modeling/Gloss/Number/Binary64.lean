/-!
# Binary floating-point numbers

The finite numbers of 64-bit binary floating point, as a sign, a whole significand and a power of
two, and the one nearest to a given fraction.

## Main definitions

* `Binary64`: a finite number.
* `Binary64.ofRatio?`: the number nearest to a fraction; of two equally near ones, the one with the
  even significand. There is none above the largest number.
* `Binary64.bits`: the encoding.
* `Binary64.toInt?`: the integer that a number is, if it is one.
-/

namespace Gloss

/-- A finite number: `significand * 2 ^ exponent`, with its sign. The significand is below `2 ^ 53`,
and at least `2 ^ 52` unless the exponent is the least one, `-1074`. -/
structure Binary64 where
  /-- The sign; zero has one too. -/
  negative : Bool
  /-- The significand. -/
  significand : Nat
  /-- The power of two. -/
  exponent : Int
  deriving Repr, DecidableEq

/-- The fraction `num / den` rounded to a whole number, halves to the even neighbour. -/
def roundRatio (num den : Nat) : Nat :=
  let quotient := num / den
  let double := 2 * (num % den)
  if double < den then quotient
  else if den < double then quotient + 1
  else quotient + quotient % 2

/-- The greatest power of two that is at most the positive fraction `num / den`. -/
def floorLog2 (num den : Nat) : Int :=
  let guess : Int := (num.log2 : Int) - (den.log2 : Int)
  let atLeast : Bool :=
    match guess with
    | .ofNat n => den * Nat.pow 2 n ≤ num
    | .negSucc n => den ≤ num * Nat.pow 2 (n + 1)
  if atLeast then guess else guess - 1

namespace Binary64

/-- Zero with a sign. -/
def zero (negative : Bool) : Binary64 :=
  { negative := negative, significand := 0, exponent := -1074 }

/-- The number nearest to the fraction `num / den`. -/
def ofRatio? (negative : Bool) (num den : Nat) : Option Binary64 :=
  if num = 0 then some (zero negative)
  else
    let exponent := max (floorLog2 num den - 52) (-1074)
    let significand :=
      match exponent with
      | .ofNat n => roundRatio num (den * Nat.pow 2 n)
      | .negSucc n => roundRatio (num * Nat.pow 2 (n + 1)) den
    let (significand, exponent) :=
      if significand = Nat.pow 2 53 then (Nat.pow 2 52, exponent + 1) else (significand, exponent)
    if 971 < exponent then none
    else some { negative := negative, significand := significand, exponent := exponent }

/-- The number nearest to an integer. -/
def ofInt? (n : Int) : Option Binary64 :=
  ofRatio? (n < 0) n.natAbs 1

/-- The 64 bits of the encoding. -/
def bits (x : Binary64) : Nat :=
  let sign := if x.negative then Nat.pow 2 63 else 0
  if x.significand < Nat.pow 2 52 then sign + x.significand
  else sign + (x.exponent + 1075).toNat * Nat.pow 2 52 + (x.significand - Nat.pow 2 52)

/-- The integer that the number is, if it is one. -/
def toInt? (x : Binary64) : Option Int :=
  let magnitude : Option Nat :=
    match x.exponent with
    | .ofNat n => some (x.significand * Nat.pow 2 n)
    | .negSucc n =>
      if x.significand % Nat.pow 2 (n + 1) = 0 then some (x.significand / Nat.pow 2 (n + 1))
      else none
  magnitude.map fun m => if x.negative then -(m : Int) else (m : Int)

end Binary64

end Gloss
