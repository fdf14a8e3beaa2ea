import Gloss.Text.Basic
import Gloss.Text.Letter

/-!
# Dates and times

A moment is a date, a time of day or both, the last with a distance from universal time or without
one. Several spellings stand for one moment; `Moment.render` writes the one that is kept.

## Main definitions

* `Date`, `Time`, `Zone`, `Moment`: the parts of a moment, and moments.
* `Moment.read?`: the moment that a text spells.
* `Moment.render`: the text that is kept for a moment.
-/

namespace Gloss

namespace Toml

/-- Two digits, their value and what follows. -/
def twoDigits? : Text → Option (Nat × Text)
  | a :: b :: rest =>
    if Text.isAsciiDigit a && Text.isAsciiDigit b then some (Text.decimalNumber [a, b], rest)
    else none
  | _ => none

/-- The last `width` decimal digits of a number, zeros in front. -/
def paddedDigits (width n : Nat) : Text :=
  (List.range width).reverse.map fun i => Char.ofNat ('0'.toNat + n / Nat.pow 10 i % 10)

/-! ## Dates -/

/-- A day of the calendar. -/
structure Date where
  /-- The year, of four digits. -/
  year : Nat
  /-- The month, from one. -/
  month : Nat
  /-- The day of the month, from one. -/
  day : Nat
  deriving Repr, DecidableEq

namespace Date

/-- The number of days of a month. -/
def daysIn (year month : Nat) : Nat :=
  if month = 2 then
    if year % 4 = 0 ∧ (year % 100 ≠ 0 ∨ year % 400 = 0) then 29 else 28
  else if month = 4 ∨ month = 6 ∨ month = 9 ∨ month = 11 then 30
  else 31

/-- The month and the day exist. -/
def isValid (d : Date) : Bool :=
  1 ≤ d.month && d.month ≤ 12 && 1 ≤ d.day && d.day ≤ daysIn d.year d.month

/-- The date at the start of a text, and what follows. -/
def take? (t : Text) : Option (Date × Text) := do
  let (high, t) ← twoDigits? t
  let (low, t) ← twoDigits? t
  let t ← Text.after? ['-'] t
  let (month, t) ← twoDigits? t
  let t ← Text.after? ['-'] t
  let (day, t) ← twoDigits? t
  let date : Date := { year := 100 * high + low, month := month, day := day }
  if date.isValid then some (date, t) else none

/-- The text that is kept for a date. -/
def render (d : Date) : Text :=
  paddedDigits 4 d.year ++ '-' :: paddedDigits 2 d.month ++ '-' :: paddedDigits 2 d.day

end Date

/-! ## Times -/

/-- A time of day. -/
structure Time where
  /-- The hour, below twenty-four. -/
  hour : Nat
  /-- The minute, below sixty. -/
  minute : Nat
  /-- The second; sixty is a leap second. -/
  second : Nat
  /-- The decimal digits after the second, at most nine, without zeros at the end. -/
  fraction : Text
  deriving Repr, DecidableEq

namespace Time

/-- The fraction of a second at the start of a text, if there is a point, and what follows. Digits
after the ninth do not count. -/
def takeFraction? : Text → Option (Text × Text)
  | '.' :: rest =>
    match rest.takeWhile Text.isAsciiDigit with
    | [] => none
    | digits => some (Text.dropEndWhile (· == '0') (digits.take 9), rest.drop digits.length)
  | t => some ([], t)

/-- The time at the start of a text, and what follows. -/
def take? (t : Text) : Option (Time × Text) := do
  let (hour, t) ← twoDigits? t
  let t ← Text.after? [':'] t
  let (minute, t) ← twoDigits? t
  let t ← Text.after? [':'] t
  let (second, t) ← twoDigits? t
  let (fraction, t) ← takeFraction? t
  if hour < 24 ∧ minute < 60 ∧ second ≤ 60 then
    some ({ hour := hour, minute := minute, second := second, fraction := fraction }, t)
  else none

/-- The text that is kept for a time. -/
def render (s : Time) : Text :=
  paddedDigits 2 s.hour ++ ':' :: paddedDigits 2 s.minute ++ ':' :: paddedDigits 2 s.second ++
    if s.fraction.isEmpty then [] else '.' :: s.fraction

end Time

/-! ## Moments -/

/-- The distance of a time from universal time. -/
inductive Zone where
  /-- The time is universal time. -/
  | universal
  /-- The time is ahead of universal time by a number of minutes, or behind it. -/
  | ahead (minutes : Int)
  deriving Repr, DecidableEq

namespace Zone

/-- The distance that a text spells. -/
def read? : Text → Option Zone
  | ['Z'] => some .universal
  | ['z'] => some .universal
  | sign :: rest =>
    if sign = '+' ∨ sign = '-' then do
      let (hour, rest) ← twoDigits? rest
      let rest ← Text.after? [':'] rest
      let (minute, rest) ← twoDigits? rest
      if hour < 24 ∧ minute < 60 ∧ rest = [] then
        let minutes : Int := (60 * hour + minute : Nat)
        some (.ahead (if sign = '-' then -minutes else minutes))
      else none
    else none
  | [] => none

/-- The text that is kept for a distance. -/
def render : Zone → Text
  | .universal => ['Z']
  | .ahead minutes =>
    (if minutes < 0 then '-' else '+') ::
      paddedDigits 2 (minutes.natAbs / 60) ++ ':' :: paddedDigits 2 (minutes.natAbs % 60)

end Zone

/-- A date, a time of day or both. -/
inductive Moment where
  /-- A date. -/
  | date (d : Date)
  /-- A time of day. -/
  | time (s : Time)
  /-- A time on a date, with its distance from universal time if it is known. -/
  | both (d : Date) (s : Time) (zone : Option Zone)
  deriving Repr, DecidableEq

namespace Moment

/-- The moment that a text spells. Between date and time stands a letter or a space. -/
def read? (t : Text) : Option Moment :=
  match Date.take? t with
  | some (d, []) => some (.date d)
  | some (d, mark :: rest) =>
    if mark = 'T' ∨ mark = 't' ∨ mark = ' ' then
      match Time.take? rest with
      | some (s, []) => some (.both d s none)
      | some (s, rest) => (Zone.read? rest).map fun zone => .both d s (some zone)
      | none => none
    else none
  | none =>
    match Time.take? t with
    | some (s, []) => some (.time s)
    | _ => none

/-- The text that is kept for a moment. -/
def render : Moment → Text
  | .date d => d.render
  | .time s => s.render
  | .both d s zone => d.render ++ 'T' :: s.render ++ (zone.map Zone.render).getD []

end Moment

end Toml

end Gloss
