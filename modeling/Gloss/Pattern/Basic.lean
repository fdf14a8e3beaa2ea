import Gloss.Pattern.Class

/-!
# Patterns

A pattern describes pieces of text. Where several pieces match at one place, the *first* counts:
alternatives are tried in the order in which they are written, and a repetition prefers more
rounds, or fewer if it is lazy. This module has the patterns and what their matches are made of.

## Main definitions

* `Cursor`: a place in a text, with the character before it and the text after it.
* `Expr`: the patterns.
* `Expr.repeated`: the repetition of a pattern.
* `Expr.choice`: the choice between patterns, what they all start with being shared.
* `Run`: a match in the making.
-/

namespace Gloss

/-- A place in a text. -/
structure Cursor where
  /-- The character before the place, if it is not the start of the text. -/
  before : Option Char
  /-- The text after the place. -/
  rest : Text
  /-- The byte offset of the place. -/
  offset : Nat
  deriving Repr, DecidableEq

namespace Cursor

/-- The start of a text. -/
def ofText (t : Text) : Cursor :=
  { before := none, rest := t, offset := 0 }

/-- The place after the next character. -/
def step (place : Cursor) (c : Char) (rest : Text) : Cursor :=
  { before := some c, rest := rest, offset := place.offset + c.utf8Size }

/-- The first place of the text that lies at or after a byte offset; the end of the text if there
is none. -/
def seek (target : Nat) (before : Option Char) (offset : Nat) : Text → Cursor
  | [] => { before := before, rest := [], offset := offset }
  | c :: rest =>
    if target ≤ offset then { before := before, rest := c :: rest, offset := offset }
    else seek target (some c) (offset + c.utf8Size) rest

/-- The text between a place and a later place of the same text. -/
def textTo (start stop : Cursor) : Text :=
  start.rest.take (start.rest.length - stop.rest.length)

end Cursor

/-- A condition on a place. -/
inductive Anchor where
  /-- The start of the text. -/
  | textStart
  /-- The end of the text. -/
  | textEnd
  /-- The start of a line. -/
  | lineStart
  /-- The end of a line, before the line feed. -/
  | lineEnd
  /-- The start of a line, where a carriage return, a line feed or both in this order end lines. -/
  | returnLineStart
  /-- The end of a line, where a carriage return, a line feed or both in this order end lines. -/
  | returnLineEnd
  /-- A word character on exactly one side. -/
  | wordEdge
  /-- A word character on both sides or on neither. -/
  | wordInside
  /-- The start of a word. -/
  | wordStart
  /-- The end of a word. -/
  | wordEnd
  /-- No word character before. -/
  | wordStartHalf
  /-- No word character after. -/
  | wordEndHalf
  deriving Repr, DecidableEq

/-- There is a word character, and it is one. -/
def isWordAt : Option Char → Bool
  | some c => Text.isWord c
  | none => false

/-- The condition holds at a place. -/
def Anchor.holds (a : Anchor) (place : Cursor) : Bool :=
  let left := isWordAt place.before
  let right := isWordAt place.rest.head?
  match a with
  | .textStart => place.before.isNone
  | .textEnd => place.rest.isEmpty
  | .lineStart => place.before.isNone || place.before == some '\n'
  | .lineEnd => place.rest.isEmpty || place.rest.head? == some '\n'
  | .returnLineStart =>
    place.before.isNone || place.before == some '\n' ||
      (place.before == some '\r' && place.rest.head? != some '\n')
  | .returnLineEnd =>
    place.rest.isEmpty || place.rest.head? == some '\r' ||
      (place.rest.head? == some '\n' && place.before != some '\r')
  | .wordEdge => left != right
  | .wordInside => left == right
  | .wordStart => !left && right
  | .wordEnd => left && !right
  | .wordStartHalf => !left
  | .wordEndHalf => !right

/-- A pattern. -/
inductive Expr where
  /-- The empty piece. -/
  | empty
  /-- One character of a class. -/
  | char (set : CharClass)
  /-- The empty piece, where a condition holds. -/
  | anchor (a : Anchor)
  /-- A piece for `a` followed by one for `b`. -/
  | seq (a b : Expr)
  /-- A piece for `a`, or else one for `b`. -/
  | alt (a b : Expr)
  /-- At least `least` characters of a class, at most `most` if given; as many as possible if
  `greedy`, else as few as possible. -/
  | chars (set : CharClass) (least : Nat) (most : Option Nat) (greedy : Bool)
  /-- A piece for `body` or the empty piece, the first of them being tried first if `greedy`. -/
  | option (body : Expr) (greedy : Bool)
  /-- At least `least` pieces for `body`, at most `most` if given; as many as possible if `greedy`,
  else as few as possible. -/
  | rep (body : Expr) (least : Nat) (most : Option Nat) (greedy : Bool)
  /-- A piece for `body`, remembered under a number. -/
  | group (index : Nat) (body : Expr)
  deriving Repr, DecidableEq

namespace Expr

/-- The pattern for a given text. -/
def literal (t : Text) : Expr :=
  t.foldr (fun c e => .seq (.char (.single c)) e) .empty

/-- Patterns one after the other. -/
def seqs : List Expr → Expr
  | [] => .empty
  | e :: es => es.foldl .seq e

/-- Any number of characters of a class, as many as possible. -/
def anyOf (set : CharClass) : Expr :=
  .chars set 0 none true

/-- One character of a class or more, as many as possible. -/
def someOf (set : CharClass) : Expr :=
  .chars set 1 none true

/-- The first of several patterns that matches. -/
def alts : List Expr → Expr
  | [] => .empty
  | [e] => e
  | e :: es => .alt e (alts es)

/-- The pattern consumes nothing, wherever it matches. -/
def isVoid : Expr → Bool
  | .empty => true
  | .char _ => false
  | .anchor _ => true
  | .seq a b => a.isVoid && b.isVoid
  | .alt a b => a.isVoid && b.isVoid
  | .chars _ _ most _ => most == some 0
  | .option body _ => body.isVoid
  | .rep body _ most _ => most == some 0 || body.isVoid
  | .group _ body => body.isVoid

/-- The pattern consumes something, wherever it matches. -/
def moves : Expr → Bool
  | .empty => false
  | .char _ => true
  | .anchor _ => false
  | .seq a b => a.moves || b.moves
  | .alt a b => a.moves && b.moves
  | .chars _ least _ _ => 0 < least
  | .option _ _ => false
  | .rep body least _ _ => 0 < least && body.moves
  | .group _ body => body.moves

/-- A repetition of a pattern. One round is as good as many for a pattern that consumes nothing. -/
def repeated (body : Expr) (least : Nat) (most : Option Nat) (greedy : Bool) : Expr :=
  let (least, most) := if body.isVoid then (min least 1, some (min (most.getD 1) 1))
    else (least, most)
  match body, least, most with
  | _, 0, some 0 => .empty
  | body, 1, some 1 => body
  | body, 0, some 1 => .option body greedy
  | .char set, least, most => .chars set least most greedy
  | body, least, most => .rep body least most greedy

/-! ### Choices -/

/-- The patterns that a pattern is a choice between, in order. -/
def branches : Expr → List Expr
  | .alt a b => a.branches ++ b.branches
  | e => [e]

/-- The patterns that a pattern is a sequence of, in order. -/
def parts : Expr → List Expr
  | .empty => []
  | .seq a b => a.parts ++ b.parts
  | e => [e]

/-- The pattern is for one given character. -/
def isLiteral : Expr → Bool
  | .char (.range first last) => first == last
  | _ => false

/-- The parts of a sequence; given characters next to each other go together. -/
def pieces (e : Expr) : List (List Expr) :=
  e.parts.splitBy fun a b => a.isLiteral && b.isLiteral

/-- What two lists of pieces both start with. -/
def commonStart : List (List Expr) → List (List Expr) → List (List Expr)
  | p :: ps, q :: qs => if p = q then p :: commonStart ps qs else []
  | _, _ => []

/-- What lists of pieces all start with. -/
def sharedStart : List (List (List Expr)) → List (List Expr)
  | [] => []
  | row :: rows => rows.foldl commonStart row

/-- A choice between patterns. If all of them are sequences of two pieces or more and start with
the same pieces, those are matched once, before the choice. -/
def choice (es : List Expr) : Expr :=
  let all := es.flatMap branches
  if all.length < 2 then alts all
  else
    let rows := all.map pieces
    let shared := sharedStart rows
    if shared.isEmpty || rows.any (·.length < 2) then alts all
    else
      .seqs (shared.flatten ++ [alts (rows.map fun row => seqs (row.drop shared.length).flatten)])

end Expr

/-- A piece of a text, from one place to a later one. -/
structure Piece where
  /-- Where it starts. -/
  start : Cursor
  /-- Where it ends. -/
  stop : Cursor
  deriving Repr, DecidableEq

/-- The characters of a piece. -/
def Piece.text (p : Piece) : Text :=
  p.start.textTo p.stop

/-- A run of a pattern: where it has come to, and the groups it has seen, the latest first. -/
structure Run where
  /-- The place that is reached. -/
  place : Cursor
  /-- The groups, the latest first. -/
  groups : List (Nat × Piece)
  deriving Repr, DecidableEq

namespace Run

/-- The run after a character of a class. -/
def step? (set : CharClass) (r : Run) : Option Run :=
  match r.place.rest with
  | [] => none
  | c :: rest => if set.mem c then some { r with place := r.place.step c rest } else none

/-- The run after a place where a condition holds. -/
def anchor? (a : Anchor) (r : Run) : Option Run :=
  if a.holds r.place then some r else none

/-- The run after a group that started at a given place. -/
def close (index : Nat) (start : Cursor) (r : Run) : Run :=
  { r with groups := (index, { start := start, stop := r.place }) :: r.groups }

end Run

end Gloss
