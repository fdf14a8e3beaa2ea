import Gloss.Text.Basic

/-!
# Quoted strings

How the scanners of calls and arguments tell strings from code. A string opens at a single or
double quote and closes at the next quote of the same kind that has no backslash right before it.

## Main definitions

* `QuoteState`: the quote that has opened a string, if one is open.
* `QuoteState.next`: the state after a character.
* `QuoteState.quotes`: a character belongs to a string, its quotes included.
* `stringLiteral?`: the contents of an argument that is one string.
-/

namespace Gloss

/-- The quote that has opened a string, if one is open. -/
abbrev QuoteState := Option Char

/-- A single or double quote. -/
def isQuote (c : Char) : Bool :=
  c == '"' || c == '\''

namespace QuoteState

/-- The character belongs to a string: one is open, or it opens one. -/
def quotes (q : QuoteState) (c : Char) : Bool :=
  q.isSome || isQuote c

/-- The state after the character `c`, which stands after `before`. -/
def next (q : QuoteState) (before : Option Char) (c : Char) : QuoteState :=
  match q with
  | some quote => if c = quote ∧ before ≠ some '\\' then none else some quote
  | none => if isQuote c then some c else none

end QuoteState

/-- The quote occurs where it would close a string that is open from the start. -/
def closesWithin (quote : Char) (before : Option Char) : Text → Bool
  | [] => false
  | c :: rest => (c == quote && before != some '\\') || closesWithin quote (some c) rest

/-- The contents of an argument that is one string: it starts and ends with the same quote, and
the string does not close before its end. -/
def stringLiteral? (argument : Text) : Option Text :=
  match argument.trim with
  | quote :: rest =>
    if isQuote quote ∧ rest.getLast? = some quote ∧
        closesWithin quote none rest.dropLast = false then
      some rest.dropLast
    else none
  | [] => none

/-- An ASCII letter or an underscore. -/
def startsIdentifier (c : Char) : Bool :=
  ('a' ≤ c && c ≤ 'z') || ('A' ≤ c && c ≤ 'Z') || c == '_'

/-- A letter, a digit or an underscore, all of ASCII. -/
def continuesIdentifier (c : Char) : Bool :=
  startsIdentifier c || ('0' ≤ c && c ≤ '9')

/-- A name of the script language: it starts with a letter or an underscore and goes on with
letters, digits and underscores. -/
def isIdentifier : Text → Bool
  | [] => false
  | c :: rest => startsIdentifier c && rest.all continuesIdentifier

/-- The name in an argument that is one string and names something. -/
def nameLiteral? (argument : Text) : Option Text :=
  (stringLiteral? argument).filter isIdentifier

end Gloss
