/-!
# Texts

A text is the list of its characters. Sizes and positions are counted in the bytes of the UTF-8
form, as every offset of this library is; the functions here need no positions yet.

## Main definitions

* `Text.size`: the number of bytes of a text.
* `Text.trim`: the text without the white space at its ends.
* `Text.split`, `Text.lines`, `Text.words`: the pieces of a text.
* `Text.replace`: every occurrence of a text replaced, from left to right.
-/

namespace Gloss

/-- A text, character by character. -/
abbrev Text := List Char

namespace Text

/-- The number of bytes of the UTF-8 form. -/
def size : Text → Nat
  | [] => 0
  | c :: rest => c.utf8Size + size rest

/-- White space: the characters with the property White_Space. -/
def isBlank (c : Char) : Bool :=
  let n := c.toNat
  (9 ≤ n && n ≤ 13) || n == 0x20 || n == 0x85 || n == 0xA0 || n == 0x1680 ||
    (0x2000 ≤ n && n ≤ 0x200A) || n == 0x2028 || n == 0x2029 || n == 0x202F || n == 0x205F ||
    n == 0x3000

/-- The text without the characters at its end that satisfy `p`. -/
def dropEndWhile (p : Char → Bool) (t : Text) : Text :=
  (t.reverse.dropWhile p).reverse

/-- The text without white space at its start. -/
def trimStart (t : Text) : Text :=
  t.dropWhile isBlank

/-- The text without white space at its end. -/
def trimEnd (t : Text) : Text :=
  dropEndWhile isBlank t

/-- The text without white space at either end. -/
def trim (t : Text) : Text :=
  trimEnd (trimStart t)

/-- The pieces between the characters `mark`. There is one piece more than there are marks. -/
def split (mark : Char) : Text → List Text
  | [] => [[]]
  | c :: rest =>
    if c = mark then [] :: split mark rest
    else
      match split mark rest with
      | [] => [[c]]
      | piece :: pieces => (c :: piece) :: pieces

/-- The text without one character `mark` at its end. -/
def chomp (mark : Char) (t : Text) : Text :=
  if t.getLast? = some mark then t.dropLast else t

/-- The pieces of `split '\n'`, given as lines: the last piece counts only if it is not empty, and
a carriage return before a line feed belongs to the line ending. -/
def linesOfPieces : List Text → List Text
  | [] => []
  | [last] => if last.isEmpty then [] else [last]
  | piece :: pieces => chomp '\r' piece :: linesOfPieces pieces

/-- The lines of a text, without their endings. -/
def lines (t : Text) : List Text :=
  linesOfPieces (split '\n' t)

/-- The maximal runs of characters that are not white space. -/
def words : Text → List Text
  | [] => []
  | c :: rest =>
    if isBlank c then words rest
    else
      match rest with
      | [] => [[c]]
      | d :: _ =>
        if isBlank d then [c] :: words rest
        else
          match words rest with
          | [] => [[c]]
          | word :: more => (c :: word) :: more

/-- What follows `lead` in a text that starts with it. -/
def after? : (lead : Text) → Text → Option Text
  | [], t => some t
  | _ :: _, [] => none
  | l :: lead, c :: rest => if l = c then after? lead rest else none

/-- The part of a text before the first occurrence of `mark`, and the whole text if there is
none. -/
def upTo (mark : Text) : Text → Text
  | [] => []
  | c :: rest => if mark.isPrefixOf (c :: rest) then [] else c :: upTo mark rest

/-- Replaces from left to right; the first `skip` characters belong to the last occurrence. -/
def replaceFrom (old new : Text) : (skip : Nat) → Text → Text
  | _, [] => []
  | skip + 1, _ :: rest => replaceFrom old new skip rest
  | 0, c :: rest =>
    if old.isPrefixOf (c :: rest) then new ++ replaceFrom old new (old.length - 1) rest
    else c :: replaceFrom old new 0 rest

/-- The text with every occurrence of the non-empty text `old` replaced by `new`; occurrences are
taken from left to right and do not overlap. -/
def replace (old new t : Text) : Text :=
  replaceFrom old new 0 t

/-- The decimal digits of a number. -/
def ofNat (n : Nat) : Text :=
  Nat.toDigits 10 n

/-- The decimal digits of an integer, after a minus sign if it is negative. -/
def ofInt : Int → Text
  | .ofNat n => ofNat n
  | .negSucc n => '-' :: ofNat (n + 1)

end Text

end Gloss
