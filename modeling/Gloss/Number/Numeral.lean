import Gloss.Number.Binary64
import Gloss.Text.Letter
import Gloss.Text.Basic

/-!
# Numerals

Numbers as they are written in scripts: decimal numerals with an optional sign, fraction and
exponent, and hexadecimal integers after `0x`.

## Main definitions

* `Decimal`: a decimal numeral, kept exact.
* `Decimal.read?`: reads one.
* `numeral?`: the number that an argument is, rounded to binary floating point.
-/

namespace Gloss

/-- The number `digits * 10 ^ exponent`, with its sign. -/
structure Decimal where
  /-- The sign. -/
  negative : Bool
  /-- The digits. -/
  digits : Nat
  /-- The power of ten. -/
  exponent : Int
  deriving Repr, DecidableEq

/-- A sign, if there is one, and what follows. -/
def readSign : Text → Bool × Text
  | '-' :: rest => (true, rest)
  | '+' :: rest => (false, rest)
  | t => (false, t)

/-- A text that is empty or an exponent: its letter, an optional sign and digits. -/
def readExponent? : Text → Option Int
  | [] => some 0
  | c :: rest =>
    if c = 'e' ∨ c = 'E' then
      let (negative, digits) := readSign rest
      if digits.isEmpty || !digits.all Text.isAsciiDigit then none
      else
        let n : Int := Text.decimalNumber digits
        some (if negative then -n else n)
    else none

/-- The fraction after the whole digits, if there is a point, and what follows. -/
def readFraction : Text → Text × Text
  | '.' :: rest =>
    let digits := rest.takeWhile Text.isAsciiDigit
    (digits, rest.drop digits.length)
  | t => ([], t)

/-- Reads a decimal numeral. It has a digit before or after the point. -/
def Decimal.read? (t : Text) : Option Decimal :=
  let (negative, t) := readSign t
  let whole := t.takeWhile Text.isAsciiDigit
  let (fraction, t) := readFraction (t.drop whole.length)
  if whole.isEmpty && fraction.isEmpty then none
  else
    (readExponent? t).map fun exponent =>
      { negative := negative
        digits := Text.decimalNumber (whole ++ fraction)
        exponent := exponent - fraction.length }

/-- The floating-point number nearest to a decimal, if it is not too large. Numerals far outside
the range are told by their number of digits. -/
def Decimal.toBinary64? (d : Decimal) : Option Binary64 :=
  let magnitude : Int := d.exponent + (Text.ofNat d.digits).length
  if d.digits = 0 ∨ magnitude < -400 then some (Binary64.zero d.negative)
  else if 400 < magnitude then none
  else
    match d.exponent with
    | .ofNat n => Binary64.ofRatio? d.negative (d.digits * Nat.pow 10 n) 1
    | .negSucc n => Binary64.ofRatio? d.negative d.digits (Nat.pow 10 (n + 1))

/-- The integers of 64 bits, from `-2 ^ 63` to `2 ^ 63 - 1`. -/
def isInt64 (n : Int) : Bool :=
  -(Nat.pow 2 63 : Int) ≤ n && n < (Nat.pow 2 63 : Int)

/-- Reads a hexadecimal integer of 64 bits, with an optional sign. -/
def readHex? (t : Text) : Option Int :=
  let (negative, digits) := readSign t
  if digits.isEmpty then none
  else
    (Text.hexNumber? digits).bind fun n =>
      let value : Int := if negative then -(n : Int) else (n : Int)
      if isInt64 value then some value else none

/-- The number that an argument is. -/
def numeral? (argument : Text) : Option Binary64 :=
  match argument.trim with
  | '0' :: 'x' :: rest => (readHex? rest).bind Binary64.ofInt?
  | '0' :: 'X' :: rest => (readHex? rest).bind Binary64.ofInt?
  | t => (Decimal.read? t).bind Decimal.toBinary64?

end Gloss
