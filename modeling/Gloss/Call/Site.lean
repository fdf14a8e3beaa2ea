import Gloss.Call.Arguments
import Gloss.Pattern.Reader

/-!
# Call sites

A call is found by a pattern for its head, which ends at the opening parenthesis, and reaches to
the parenthesis that balances it. Calls are looked for from left to right, the next one after the
end of the last. The search stops at a head whose parenthesis is not balanced.

## Main definitions

* `splitClose?`: the text up to the balancing parenthesis.
* `matchingClose?`: where the balancing parenthesis stands.
* `CallSite`: a call in a text.
* `Pattern.calls`: the calls of a text.
-/

namespace Gloss

/-- The text up to the unquoted closing parenthesis that brings the depth to zero, and the place of
that parenthesis. The depth counts the parentheses that are open, one more than `deeper`. -/
def splitCloseFrom? (q : QuoteState) (deeper : Nat) (before : Option Char) (offset : Nat) :
    Text → Option (Text × Cursor)
  | [] => none
  | c :: rest =>
    let onward (deeper : Nat) :=
      (splitCloseFrom? (q.next before c) deeper (some c) (offset + c.utf8Size) rest).map
        fun found => (c :: found.1, found.2)
    if q.quotes c then onward deeper
    else if c = '(' then onward (deeper + 1)
    else if c = ')' then
      match deeper with
      | 0 => some ([], { before := before, rest := c :: rest, offset := offset })
      | deeper + 1 => onward deeper
    else onward deeper

/-- The text from a place inside a pair of parentheses to the closing one, and its place. -/
def splitClose? (place : Cursor) : Option (Text × Cursor) :=
  splitCloseFrom? none 0 place.before place.offset place.rest

/-- The offset of the parenthesis that closes the pair around an offset. -/
def matchingClose? (t : Text) (start : Nat) : Option Nat :=
  (splitClose? (Cursor.seek start none 0 t)).map fun found => found.2.offset

/-- A call in a text. -/
structure CallSite where
  /-- The text of the head, up to the opening parenthesis and with it. -/
  head : Text
  /-- What the first group of the pattern matched: the receiver of a method call. -/
  receiver : Option Text
  /-- The text between the parentheses. -/
  arguments : Text
  /-- Where the head starts. -/
  start : Nat
  /-- Where the closing parenthesis stands. -/
  close : Nat
  deriving Repr, DecidableEq

namespace CallSite

/-- Where the call ends. -/
def stop (site : CallSite) : Nat :=
  site.close + 1

/-- The call whose head is a match, if the match ends in a parenthesis that is balanced. -/
def ofMatch? (m : Match) : Option CallSite :=
  let head := m.toPiece.text
  if head.getLast? = some '(' then
    (splitClose? m.stop).map fun found =>
      { head := head
        receiver := (m.group? 1).map Piece.text
        arguments := found.1
        start := m.start.offset
        close := found.2.offset }
  else none

end CallSite

namespace Pattern

/-- A pattern can stand for the head of a call if its written form ends in an escaped opening
parenthesis. -/
def isCallHead (p : Pattern) : Bool :=
  ['(', '\\'].isPrefixOf p.source.reverse

/-- The calls in the text after a place, from the offset `resume` on. -/
def callsFrom (e : Expr) (resume : Nat) (before : Option Char) (offset : Nat) :
    Text → List CallSite
  | [] => []
  | c :: rest =>
    if offset < resume then callsFrom e resume (some c) (offset + c.utf8Size) rest
    else
      match e.matchAt? { before := before, rest := c :: rest, offset := offset } with
      | none => callsFrom e resume (some c) (offset + c.utf8Size) rest
      | some m =>
        match CallSite.ofMatch? m with
        | none => []
        | some site => site :: callsFrom e site.stop (some c) (offset + c.utf8Size) rest

/-- The calls of a text whose heads match, from left to right. -/
def calls (p : Pattern) (t : Text) : List CallSite :=
  if p.isCallHead then callsFrom p.expr 0 none 0 t else []

end Pattern

end Gloss
