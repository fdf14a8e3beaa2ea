import Gloss.Note.Accessor
import Gloss.Note.Network

/-!
# Fields of tables

Two kinds of calls give fields to a table: those that make accessors and those that declare
networked fields. The types of scope folders and of registered controls take the lines of both.

## Main definitions

* `FieldCalls`: the calls of a text that give fields to tables.
* `FieldCalls.lines`: the lines of the calls on one table.
-/

namespace Gloss

/-- The calls of a text that give fields to tables. -/
structure FieldCalls where
  /-- The calls that make accessors. -/
  accessors : List AccessorCall
  /-- The calls that declare networked fields. -/
  networks : List NetworkCall
  deriving Repr, DecidableEq

namespace FieldCalls

/-- The calls of a text that give fields to tables. -/
def ofText (ctx : Context) (t : Text) : FieldCalls :=
  { accessors := accessorCalls ctx t, networks := networkCalls ctx t }

/-- The lines, for the type `owner`, of the calls on `table` that start in the span from `start` up
to `stop`: first those of accessors, then those of networked fields. -/
def lines (ctx : Context) (b : Bindings) (calls : FieldCalls) (table owner : Text)
    (start stop : Nat) : List Text :=
  accessorFields ctx b calls.accessors table owner start stop ++
    networkFields ctx b calls.networks table owner start stop

end FieldCalls

end Gloss
