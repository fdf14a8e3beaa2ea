import Gloss.Text.Letter
import Gloss.Text.Basic

/-!
# UTF-8 and percent encoding

Bytes as texts. Bytes that are not UTF-8 are described by the place of the first fault: either a
sequence that cannot be completed, with the number of its bytes that fit together, or a sequence
that the end of the input cuts off.

## Main definitions

* `Utf8Fault`, `Text.ofUtf8`: reading bytes as a text.
* `Text.percentDecode`: the bytes that a percent-encoded text stands for.
-/

namespace Gloss

/-- Where bytes stop being UTF-8. -/
structure Utf8Fault where
  /-- The index of the first byte that cannot be read. -/
  index : Nat
  /-- The number of bytes of the bad sequence; none if the input ends within it. -/
  length : Option Nat
  deriving Repr, DecidableEq

/-- The wording of the fault. -/
def Utf8Fault.message (fault : Utf8Fault) : Text :=
  match fault.length with
  | some n =>
    "invalid utf-8 sequence of ".toList ++ Text.ofNat n ++ " bytes from index ".toList ++
      Text.ofNat fault.index
  | none => "incomplete utf-8 byte sequence from index ".toList ++ Text.ofNat fault.index

namespace Text

/-- A byte that continues a character. -/
def isContinuation (b : UInt8) : Bool :=
  0x80 ≤ b && b ≤ 0xBF

/-- The second bytes that may follow a first byte of a character of three or four bytes. -/
def secondByteFits (first second : UInt8) : Bool :=
  if first == 0xE0 then 0xA0 ≤ second && second ≤ 0xBF
  else if first == 0xED then 0x80 ≤ second && second ≤ 0x9F
  else if first == 0xF0 then 0x90 ≤ second && second ≤ 0xBF
  else if first == 0xF4 then 0x80 ≤ second && second ≤ 0x8F
  else isContinuation second

/-- The number of bytes of the character that a byte starts, if it starts one. -/
def byteWidth? (first : UInt8) : Option Nat :=
  if first < 0x80 then some 1
  else if first < 0xC2 then none
  else if first < 0xE0 then some 2
  else if first < 0xF0 then some 3
  else if first < 0xF5 then some 4
  else none

/-- How many of the bytes after the first belong to its character: `good` have been seen, `more` are
needed. The answer is the fault, or nothing if all are there. -/
def continuationFault? (index good : Nat) : (more : Nat) → List UInt8 → Option Utf8Fault
  | 0, _ => none
  | _ + 1, [] => some { index := index, length := none }
  | more + 1, b :: rest =>
    if isContinuation b then continuationFault? index (good + 1) more rest
    else some { index := index, length := some good }

/-- The fault of the character at the start of the bytes, the first of them being `first`. -/
def charFault? (index : Nat) (first : UInt8) (rest : List UInt8) : Option Utf8Fault :=
  match byteWidth? first with
  | none => some { index := index, length := some 1 }
  | some 1 => none
  | some width =>
    match rest with
    | [] => some { index := index, length := none }
    | second :: rest =>
      if secondByteFits first second then continuationFault? index 2 (width - 2) rest
      else some { index := index, length := some 1 }

/-- The first fault of the bytes, of which the first `skip` belong to a character that has been
looked at. -/
def utf8FaultFrom? (index : Nat) : (skip : Nat) → List UInt8 → Option Utf8Fault
  | _, [] => none
  | skip + 1, _ :: rest => utf8FaultFrom? (index + 1) skip rest
  | 0, first :: rest =>
    match charFault? index first rest with
    | some fault => some fault
    | none => utf8FaultFrom? (index + 1) ((byteWidth? first).getD 1 - 1) rest

/-- The text that bytes encode, or where they stop being UTF-8. -/
def ofUtf8 (bytes : List UInt8) : Except Utf8Fault Text :=
  match (ByteArray.mk bytes.toArray).utf8Decode? with
  | some chars => .ok chars.toList
  | none => .error ((utf8FaultFrom? 0 0 bytes).getD { index := 0, length := none })

/-- The bytes of the UTF-8 form. -/
def toUtf8 (t : Text) : List UInt8 :=
  t.flatMap String.utf8EncodeChar

/-- The bytes that a percent-encoded text stands for. A percent sign that is not followed by two
hexadecimal digits stands for itself. -/
def percentDecode : Text → List UInt8
  | [] => []
  | [c] => String.utf8EncodeChar c
  | [c, d] => String.utf8EncodeChar c ++ percentDecode [d]
  | c :: high :: low :: rest =>
    match c, hexDigit? high, hexDigit? low with
    | '%', some h, some l => UInt8.ofNat (16 * h + l) :: percentDecode rest
    | _, _, _ => String.utf8EncodeChar c ++ percentDecode (high :: low :: rest)

end Text

end Gloss
