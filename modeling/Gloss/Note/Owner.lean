import Gloss.Context

/-!
# Owners of calls

Which table a call writes to. A receiver is followed one step: `self` is the table of the method
definition around the call, a local variable that was assigned a name stands for that name, and a
name bound to a meta table stands for the type of that table.

## Main definitions

* `Owner`: a table, or the meta table of a type.
* `Bindings`: the definitions and assignments of a text.
* `Bindings.owner?`: the owner that a receiver stands for at an offset.
-/

namespace Gloss

/-- What a call writes to. -/
inductive Owner where
  /-- A table of the script. -/
  | table (name : Text)
  /-- The meta table of a type. -/
  | metaTable (type : Text)
  deriving Repr, DecidableEq

/-- A name and what it is bound to, from an offset on. -/
structure Binding where
  /-- Where the statement starts. -/
  offset : Nat
  /-- The name. -/
  name : Text
  /-- What it stands for. -/
  value : Text
  deriving Repr, DecidableEq

/-- The definitions and assignments of a text, each in the order of offsets. -/
structure Bindings where
  /-- Method definitions: their offsets and tables. -/
  headers : List (Nat × Text)
  /-- Meta tables: a variable and a type. -/
  metas : List Binding
  /-- Local variables that were assigned a name. -/
  aliases : List Binding
  deriving Repr, DecidableEq

/-- The words that look like names and are none that can be a table. -/
def notTables : List Text :=
  ["nil", "true", "false", "not", "function", "self"].map String.toList

/-- The name that is assigned, given the text after the equals sign: up to the end of the line or a
comment, semicolons left out. -/
def assignedName? (t : Text) : Option Text :=
  let line := Text.upTo "--".toList (t.takeWhile (· != '\n'))
  let value := (Text.dropEndWhile (· == ';') line.trim).trimEnd
  if isIdentifier value && !notTables.contains value then some value else none

namespace Bindings

/-- The table of a method definition. -/
def headerBinding? (m : Match) : Option (Nat × Text) :=
  (m.group? 1).map fun piece => (m.start.offset, piece.text)

/-- The variable and the type of a meta table. -/
def metaBinding? (m : Match) : Option Binding :=
  (m.group? 1).bind fun variableName => (m.group? 2).map fun type =>
    { offset := m.start.offset, name := variableName.text, value := type.text }

/-- The variable and the name of a local assignment. -/
def aliasBinding? (p : Pattern) (m : Match) : Option Binding :=
  (p.named? "name".toList m).bind fun variableName =>
    if m.toPiece.text.contains '=' then
      (assignedName? (m.start.rest.dropWhile (· != '=')).tail).map fun name =>
        { offset := m.start.offset, name := variableName.text, value := name }
    else none

/-- The definitions and assignments of a text. -/
def ofText (ctx : Context) (t : Text) : Bindings :=
  { headers := (ctx.functionHeader.expr.findAll t).filterMap headerBinding?
    metas := (ctx.metaTable.expr.findAll t).filterMap metaBinding?
    aliases :=
      match ctx.anyLocalAssignment? with
      | some p => (p.expr.findAll t).filterMap (aliasBinding? p)
      | none => [] }

/-- The last binding of a name before an offset. -/
def last? (bindings : List Binding) (name : Text) (offset : Nat) : Option Text :=
  (bindings.reverse.find? fun b => b.offset < offset && b.name == name).map (·.value)

/-- The table of the last method definition before an offset. -/
def enclosing? (b : Bindings) (offset : Nat) : Option Text :=
  (b.headers.reverse.find? fun h => h.1 < offset).map (·.2)

/-- The name that a receiver stands for at an offset. -/
def direct? (b : Bindings) (name : Text) (offset : Nat) : Option Text :=
  if name = "self".toList then b.enclosing? offset
  else some ((last? b.aliases name offset).getD name)

/-- The owner that a receiver stands for at an offset. -/
def owner? (b : Bindings) (receiver : Text) (offset : Nat) : Option Owner :=
  if isIdentifier receiver.trim then
    (b.direct? receiver.trim offset).map fun name =>
      match last? b.metas name offset with
      | some type => .metaTable type
      | none => .table name
  else none

/-- The receiver stands for the given table at an offset. -/
def ownedBy (b : Bindings) (receiver : Text) (offset : Nat) (table : Text) : Bool :=
  b.owner? receiver offset == some (.table table)

end Bindings

end Gloss
