import Gloss.Note.Field

/-!
# Registered controls

Controls are registered by calls that name them and the table they are made of. The class of a
control is declared above the assignment of that table, together with the fields that the calls
between assignment and registration give it. Each class is declared once.

## Main definitions

* `Registration`, `registrations`: the registrations of a text.
* `assignmentBefore?`: the line of the last assignment of a table before an offset.
* `registrationFragments`: the blocks of all registered controls.
-/

namespace Gloss

/-- What the arguments of a registration say. -/
structure RegistrationShape where
  /-- The name of the control. -/
  name : Text
  /-- The description, which only one kind of registration has. -/
  description : Option Text
  /-- The table. -/
  table : Text
  /-- The base, if one is given as a string. -/
  base : Option Text
  deriving Repr, DecidableEq

namespace RegistrationShape

/-- The base in the arguments after the table, of which there may be one. -/
def base? : List Text → Option Text
  | [] => none
  | argument :: _ => stringLiteral? argument

/-- A registration with a name, a table and what follows them. -/
def ofParts? (name : Text) (description : Option Text) (table : Text) (rest : List Text) :
    Option RegistrationShape :=
  if rest.length ≤ 1 then
    (stringLiteral? name).bind fun name =>
      if !name.isEmpty && isIdentifier table then
        some { name := name, description := description, table := table, base := base? rest }
      else none
  else none

/-- What the arguments of a registration say, if they are understood. -/
def ofArguments? (kind : RegistrationKind) (arguments : Text) : Option RegistrationShape :=
  match kind, splitArguments .nested arguments with
  | .panel, name :: table :: rest => ofParts? name none table rest
  | .control, name :: description :: table :: rest => ofParts? name (some description) table rest
  | _, _ => none

end RegistrationShape

/-- A registration. -/
structure Registration where
  /-- Where it stands. -/
  site : CallSite
  /-- What its arguments say. -/
  shape : RegistrationShape
  /-- The base if the arguments give none. -/
  defaultBase : Text
  deriving Repr, DecidableEq

/-- The base of the control. -/
def Registration.base (r : Registration) : Text :=
  r.shape.base.getD r.defaultBase

/-- The registrations of one kind. -/
def registrationsOf (t : Text) (rule : RegistrationRule) : List Registration :=
  (rule.head.calls t).filterMap fun site =>
    (RegistrationShape.ofArguments? rule.kind site.arguments).map fun shape =>
      { site := site, shape := shape, defaultBase := rule.defaultBase }

/-- The registrations of a text, in the order in which they start. -/
def registrations (ctx : Context) (t : Text) : List Registration :=
  (ctx.registrations.flatMap (registrationsOf t)).mergeSort fun a b => a.site.start ≤ b.site.start

/-- The start of the last match before an offset. -/
def lastMatchBefore? (p : Pattern) (t : Text) (offset : Nat) : Option Nat :=
  (((p.expr.findAll t).map fun m => m.start.offset).takeWhile (· < offset)).getLast?

/-- The line of the last assignment, local or global, of a variable before an offset. -/
def assignmentBefore? (ctx : Context) (t name : Text) (offset : Nat) : Option Nat :=
  let starts := [ctx.localAssignment? name, ctx.globalAssignment? name].filterMap fun p =>
    p.bind fun p => lastMatchBefore? p t offset
  starts.max?.map t.lineStart

/-- The fields that a registered table has: those of the calls between its assignment and its
registration which the text does not have yet. -/
def registrationFields (ctx : Context) (b : Bindings) (calls : FieldCalls) (t : Text)
    (r : Registration) (assignment : Nat) : List Text :=
  missingLines t (calls.lines ctx b r.shape.table r.shape.name assignment r.site.start)

/-- The block of a registration: there is none if the class is declared in the text already, or if
the table is not assigned before. -/
def registrationFragment? (ctx : Context) (b : Bindings) (calls : FieldCalls) (t : Text)
    (r : Registration) : Option Fragment :=
  if (findClassLine? t r.shape.name).isSome then none
  else
    (assignmentBefore? ctx t r.shape.table r.site.start).map fun assignment =>
      .note (classLine r.shape.name (some r.base) :: registrationFields ctx b calls t r assignment)
        (.above assignment)

/-- The blocks of registrations, except of the controls in `done`. -/
def registrationFragmentsExcept (ctx : Context) (b : Bindings) (calls : FieldCalls) (t : Text)
    (done : List Text) : List Registration → List Fragment
  | [] => []
  | r :: rest =>
    if done.contains r.shape.name then registrationFragmentsExcept ctx b calls t done rest
    else
      match registrationFragment? ctx b calls t r with
      | none => registrationFragmentsExcept ctx b calls t done rest
      | some fragment =>
        fragment :: registrationFragmentsExcept ctx b calls t (r.shape.name :: done) rest

/-- The blocks of all registered controls. -/
def registrationFragments (ctx : Context) (b : Bindings) (t : Text) : List Fragment :=
  registrationFragmentsExcept ctx b (.ofText ctx t) t [] (registrations ctx t)

end Gloss
