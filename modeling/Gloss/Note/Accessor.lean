import Gloss.Note.Inline
import Gloss.Note.Owner

/-!
# Accessors

A call with a table, a key and a name makes a getter and a setter of that name, and a field behind
them if the key is given. A fourth argument forces the type of the value.

## Main definitions

* `AccessorCall`, `AccessorCall.ofSite?`: the calls.
* `AccessorCall.lines`: the annotation lines of a call, the field first, then setter and getter.
* `accessorFields`: the lines of the calls on a table inside a part of a text.
* `accessorFragments`: the blocks of calls on meta tables.
-/

namespace Gloss

/-- A call that makes accessors. -/
structure AccessorCall where
  /-- Where it stands. -/
  site : CallSite
  /-- The table. -/
  target : Text
  /-- The key of the field behind the accessors. -/
  key : Option Text
  /-- The name of the accessors. -/
  name : Text
  /-- The argument that forces a type. -/
  force : Option Text
  deriving Repr, DecidableEq

namespace AccessorCall

/-- The call with a table, a key, a name and perhaps a forced type; the table and the name have to
be identifiers. -/
def ofArguments? (site : CallSite) (target key name : Text) (force : Option Text) :
    Option AccessorCall :=
  if isIdentifier target then
    (nameLiteral? name).map fun name =>
      { site := site
        target := target
        key := (stringLiteral? key).filter (!·.isEmpty)
        name := name
        force := force }
  else none

/-- The accessors that a call makes, if its arguments are understood. -/
def ofSite? (site : CallSite) : Option AccessorCall :=
  match splitArguments .nested site.arguments with
  | [target, key, name] => ofArguments? site target key name none
  | [target, key, name, force] => ofArguments? site target key name (some force)
  | _ => none

/-- The type of the value. -/
def valueType (ctx : Context) (call : AccessorCall) : Text :=
  match call.force with
  | none => ctx.untyped
  | some force => ctx.forceType force

/-- The annotation lines for a type that owns the accessors. -/
def lines (ctx : Context) (owner : Text) (call : AccessorCall) : List Text :=
  let value := call.valueType ctx
  (call.key.map fun key => backingLine key value ctx.backingVisibility).toList ++
    [setterLine call.name owner value, getterLine call.name owner value]

end AccessorCall

/-- The calls of a text that make accessors. -/
def accessorCalls (ctx : Context) (t : Text) : List AccessorCall :=
  (ctx.accessor.calls t).filterMap AccessorCall.ofSite?

/-- The lines, for the type `owner`, of those of the calls on `table` that start in the span from
`start` up to `stop`. -/
def accessorFields (ctx : Context) (b : Bindings) (calls : List AccessorCall)
    (table owner : Text) (start stop : Nat) : List Text :=
  (calls.filter fun call =>
    (start ≤ call.site.start && call.site.start < stop) &&
      b.ownedBy call.target call.site.start table).flatMap (AccessorCall.lines ctx owner)

/-- Adds the lines of a call on a meta table. -/
def pushAccessor (ctx : Context) (b : Bindings) (groups : InlineGroups) (call : AccessorCall) :
    InlineGroups :=
  match b.owner? call.target call.site.start with
  | some (.metaTable type) => groups.push type call.site.close (call.lines ctx type)
  | _ => groups

/-- The blocks for calls on meta tables. -/
def accessorFragments (ctx : Context) (b : Bindings) (t : Text) : List Fragment :=
  InlineGroups.fragments ((accessorCalls ctx t).foldl (pushAccessor ctx b) []) t

end Gloss
