import Std.Data.TreeSet
import Gloss.Pattern.Basic

/-!
# Patterns as machines

A repetition can come back to a place where it has been before, since its rounds may consume
nothing, and can come to one place in many ways. So it is taken apart into steps, and the steps are
walked in order of preference, *each of them at most once at each place*: what a step leads to from
a place has been looked at, or is being looked at, when it is met there again.

## Main definitions

* `Step`: a step of a machine.
* `Expr.code`: the steps of a pattern.
* `explore`: the runs of a machine, in order of preference.
-/

namespace Gloss

/-- A step of a machine. After a step that matches comes the next one, if it does not say
otherwise. -/
inductive Step where
  /-- Consumes a character of a class. -/
  | char (set : CharClass)
  /-- Asks for a condition on the place. -/
  | anchor (a : Anchor)
  /-- A group starts. -/
  | enter
  /-- The group that started last ends, and is remembered under a number. -/
  | leave (index : Nat)
  /-- Goes on at the first of two steps, or else at the second. -/
  | split (first second : Nat)
  /-- Goes on at another step. -/
  | jump (target : Nat)
  deriving Repr, DecidableEq

namespace Step

/-- Goes on at a step or stops at another, the first of these if `greedy`. -/
def choose (greedy : Bool) (onward stop : Nat) : Step :=
  if greedy then .split onward stop else .split stop onward

/-- Adds a number of copies of a piece of code. -/
def copies (code : Array Step → Array Step) : Nat → Array Step → Array Step
  | 0, steps => steps
  | n + 1, steps => copies code n (code steps)

/-- Adds a number of copies of a piece of code, each of which may lead to the step `stop`
instead. -/
def options (code : Array Step → Array Step) (greedy : Bool) (stop : Nat) :
    Nat → Array Step → Array Step
  | 0, steps => steps
  | n + 1, steps =>
    options code greedy stop n (code (steps.push (choose greedy (steps.size + 1) stop)))

/-- Adds a piece of code that is gone through once or more. -/
def oneOrMore (code : Array Step → Array Step) (greedy : Bool) (steps : Array Step) :
    Array Step :=
  let onward := code steps
  onward.push (choose greedy steps.size (onward.size + 1))

/-- Adds a piece of code of `size` steps that is gone through any number of times. If it always
consumes something, there is one choice before each round. Otherwise the choice before the first
round is one of its own, so that an empty round does not count as the end of the rounds. -/
def anyNumber (code : Array Step → Array Step) (size : Nat) (moves greedy : Bool)
    (steps : Array Step) : Array Step :=
  let entered := steps.push (choose greedy (steps.size + 1) (steps.size + size + 2))
  if moves then (code entered).push (.jump steps.size) else oneOrMore code greedy entered

/-- Adds the code of a repetition whose rounds have `size` steps. -/
def rounds (code : Array Step → Array Step) (size : Nat) (moves : Bool) (least : Nat)
    (most : Option Nat) (greedy : Bool) (steps : Array Step) : Array Step :=
  match least, most with
  | 0, none => anyNumber code size moves greedy steps
  | n + 1, none => oneOrMore code greedy (copies code n steps)
  | n, some m =>
    let first := copies code n steps
    options code greedy (first.size + (m - n) * (size + 1)) (m - n) first

end Step

namespace Expr

/-- The number of steps of a repetition whose rounds have `size` steps. -/
def roundSteps (size least : Nat) : Option Nat → Nat
  | none => if least = 0 then size + 2 else least * size + 1
  | some most => least * size + (most - least) * (size + 1)

/-- The number of steps of a pattern. -/
def steps : Expr → Nat
  | .empty => 0
  | .char _ => 1
  | .anchor _ => 1
  | .seq a b => a.steps + b.steps
  | .alt a b => a.steps + b.steps + 2
  | .chars _ least most _ => roundSteps 1 least most
  | .option body _ => body.steps + 1
  | .rep body least most _ => roundSteps body.steps least most
  | .group _ body => body.steps + 2

/-- Adds the steps of a pattern. -/
def code : Expr → Array Step → Array Step
  | .empty, steps => steps
  | .char set, steps => steps.push (.char set)
  | .anchor a, steps => steps.push (.anchor a)
  | .seq a b, steps => b.code (a.code steps)
  | .alt a b, steps =>
    let second := steps.size + a.steps + 2
    let first := a.code (steps.push (.split (steps.size + 1) second))
    b.code (first.push (.jump (second + b.steps)))
  | .chars set least most greedy, steps =>
    Step.rounds (fun steps => steps.push (.char set)) 1 true least most greedy steps
  | .option body greedy, steps =>
    body.code (steps.push (Step.choose greedy (steps.size + 1) (steps.size + body.steps + 1)))
  | .rep body least most greedy, steps =>
    Step.rounds body.code body.steps body.moves least most greedy steps
  | .group index body, steps => (body.code (steps.push .enter)).push (.leave index)

end Expr

/-- A run on its way through a machine. -/
structure Thread where
  /-- The next step. -/
  position : Nat
  /-- The run so far. -/
  run : Run
  /-- Where the groups started that have not ended, the latest first. -/
  starts : List Cursor
  deriving Repr, DecidableEq

namespace Thread

/-- The thread at the next step, with a given run. -/
def advance (t : Thread) (run : Run) : Thread :=
  { t with position := t.position + 1, run := run }

/-- Where a step leads, the preferred thread first. -/
def follow (t : Thread) : Step → List Thread
  | .char set => ((t.run.step? set).map t.advance).toList
  | .anchor a => ((t.run.anchor? a).map t.advance).toList
  | .enter => [{ t.advance t.run with starts := t.run.place :: t.starts }]
  | .leave index =>
    match t.starts with
    | [] => [t.advance t.run]
    | start :: starts => [{ t.advance (t.run.close index start) with starts := starts }]
  | .split first second => [{ t with position := first }, { t with position := second }]
  | .jump target => [{ t with position := target }]

end Thread

/-- Steps at places, each given by its position and the offset of the place. -/
abbrev StepSet := Std.TreeSet (Nat × Nat) (compareLex (compareOn Prod.fst) (compareOn Prod.snd))

/-- The runs that come to the end of a machine, the latest first, after those found before. Steps
that were met at a place (given by its offset) are not walked again; `bound` is at least the number
of threads that are still to come. -/
def exploreFrom (steps : Array Step) :
    (bound : Nat) → (pending : List Thread) → (met : StepSet) → (found : List Run) → List Run
  | 0, _, _, found => found
  | _, [], _, found => found
  | bound + 1, t :: pending, met, found =>
    let here := (t.position, t.run.place.offset)
    if met.contains here then exploreFrom steps bound pending met found
    else
      match steps[t.position]? with
      | none => exploreFrom steps bound pending (met.insert here) (t.run :: found)
      | some step => exploreFrom steps bound (t.follow step ++ pending) (met.insert here) found

/-- The runs of a machine that continue a run, in order of preference, one for each place. Each
step leads to two threads at most, at each of the places that are left. -/
def explore (steps : Array Step) (r : Run) : List Run :=
  let bound := 2 * (steps.size + 1) * (r.place.rest.length + 1) + 1
  (exploreFrom steps bound [{ position := 0, run := r, starts := [] }] {} []).reverse

end Gloss
