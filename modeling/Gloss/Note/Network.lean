import Gloss.Note.Inline
import Gloss.Note.Owner

/-!
# Networked fields

A method call with a type and a name declares a networked field with a setter and a getter. There
may be a slot between the two, and then a table for the editor may follow.

## Main definitions

* `NetworkField`, `NetworkField.ofArguments?`: the field that arguments declare.
* `NetworkField.lines`: the annotation lines, setter first.
* `NetworkCall`: the calls of a text.
* `networkFields`: the lines of the calls on a table inside a part of a text.
* `networkFragments`: the blocks of calls on meta tables.
-/

namespace Gloss

/-- A networked field. -/
inductive NetworkField where
  /-- Declared by a type and a name. -/
  | plain (declared name : Text)
  /-- Declared by a type, a slot and a name. -/
  | indexed (declared slot name : Text)
  deriving Repr, DecidableEq

namespace NetworkField

/-- The type that is declared. -/
def declared : NetworkField → Text
  | .plain declared _ => declared
  | .indexed declared _ _ => declared

/-- The name of the field. -/
def name : NetworkField → Text
  | .plain _ name => name
  | .indexed _ _ name => name

/-- What follows a slot and a name is nothing, or a table for the editor. Commas cut such a table
into several arguments, of which only the first is looked at. -/
def isEditorTable : List Text → Bool
  | [] => true
  | first :: _ => first.head? == some '{'

/-- The field that a list of arguments declares. -/
def ofList? : List Text → Option NetworkField
  | [declared, name] =>
    (stringLiteral? declared).bind fun declared => (nameLiteral? name).map fun name =>
      .plain declared name
  | declared :: slot :: name :: extra =>
    if isEditorTable extra then
      (stringLiteral? declared).bind fun declared => (nameLiteral? name).map fun name =>
        .indexed declared slot name
    else none
  | _ => none

/-- The field that the arguments of a call declare, if they are understood. -/
def ofArguments? (arguments : Text) : Option NetworkField :=
  ofList? (splitArguments .nested arguments)

/-- The annotation lines for a type that owns the field. -/
def lines (ctx : Context) (owner : Text) (field : NetworkField) : List Text :=
  let value := ctx.networkType field.declared
  [setterLine field.name owner value, getterLine field.name owner value]

end NetworkField

/-- A call that declares a networked field. -/
structure NetworkCall where
  /-- Where it stands. -/
  site : CallSite
  /-- The receiver. -/
  receiver : Text
  /-- The field. -/
  field : NetworkField
  deriving Repr, DecidableEq

/-- The declaration that a call makes. Without a receiver it is one of `self`. -/
def NetworkCall.ofSite? (site : CallSite) : Option NetworkCall :=
  (NetworkField.ofArguments? site.arguments).map fun field =>
    { site := site, receiver := site.receiver.getD "self".toList, field := field }

/-- The calls of a text that declare networked fields. -/
def networkCalls (ctx : Context) (t : Text) : List NetworkCall :=
  (ctx.network.calls t).filterMap NetworkCall.ofSite?

/-- The lines, for the type `owner`, of those of the calls on `table` that start in the span from
`start` up to `stop`. -/
def networkFields (ctx : Context) (b : Bindings) (calls : List NetworkCall)
    (table owner : Text) (start stop : Nat) : List Text :=
  (calls.filter fun call =>
    (start ≤ call.site.start && call.site.start < stop) &&
      b.ownedBy call.receiver call.site.start table).flatMap fun call =>
        call.field.lines ctx owner

/-- Adds the lines of a call on a meta table. -/
def pushNetwork (ctx : Context) (b : Bindings) (groups : InlineGroups) (call : NetworkCall) :
    InlineGroups :=
  match b.owner? call.receiver call.site.start with
  | some (.metaTable type) => groups.push type call.site.close (call.field.lines ctx type)
  | _ => groups

/-- The blocks for calls on meta tables. -/
def networkFragments (ctx : Context) (b : Bindings) (t : Text) : List Fragment :=
  InlineGroups.fragments ((networkCalls ctx t).foldl (pushNetwork ctx b) []) t

end Gloss
