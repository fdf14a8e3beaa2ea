import Gloss.Call.Quote

/-!
# Arguments of a call

The text between the parentheses of a call is cut at its top-level commas: those outside strings
and, if nesting counts, outside inner parentheses.

## Main definitions

* `Nesting`: whether inner parentheses count.
* `splitArguments`: the arguments, without the white space around them.
-/

namespace Gloss

/-- Whether commas inside inner parentheses separate arguments. -/
inductive Nesting where
  /-- Parentheses do not count. -/
  | flat
  /-- Commas inside inner parentheses separate nothing. -/
  | nested
  deriving Repr, DecidableEq

/-- The depth after an unquoted character. A closing parenthesis too many is passed over. -/
def Nesting.depthAfter (nesting : Nesting) (depth : Nat) (c : Char) : Nat :=
  match nesting with
  | .flat => depth
  | .nested => if c = '(' then depth + 1 else if c = ')' then depth - 1 else depth

/-- The pieces between the top-level commas, from a place on. -/
def piecesFrom (nesting : Nesting) (q : QuoteState) (depth : Nat) (before : Option Char) :
    Text → List Text
  | [] => [[]]
  | c :: rest =>
    if !q.quotes c && c == ',' && depth == 0 then
      [] :: piecesFrom nesting q depth (some c) rest
    else
      let depth := if q.quotes c then depth else nesting.depthAfter depth c
      match piecesFrom nesting (q.next before c) depth (some c) rest with
      | [] => [[c]]
      | piece :: pieces => (c :: piece) :: pieces

/-- The arguments in the text between the parentheses of a call; there are none if that text is
only white space. -/
def splitArguments (nesting : Nesting) (arguments : Text) : List Text :=
  if arguments.trim.isEmpty then []
  else (piecesFrom nesting none 0 none arguments).map Text.trim

end Gloss
