import Gloss.Scope.Rule

/-!
# Bases of types

The base of a type is declared by an assignment: of a string, or of a name of the script.

## Main definitions

* `Base`: a declared base.
* `declaredBase?`: the base that a text declares.
-/

namespace Gloss

/-- A declared base. -/
inductive Base where
  /-- A string, or the scope itself where nothing is declared. -/
  | literal (value : Text)
  /-- A name of the script. -/
  | identifier (value : Text)
  deriving Repr, DecidableEq

/-- The name of the base. -/
def Base.value : Base → Text
  | .literal v => v
  | .identifier v => v

/-- The base is given by a name of the script. -/
def Base.isIdentifier : Base → Bool
  | .literal _ => false
  | .identifier _ => true

/-- The base in the first assignment that a pattern finds: the first or second group is a string,
the third a name. -/
def declaredBase? (assignment : Pattern) (t : Text) : Option Base :=
  (assignment.expr.find? t).bind fun m =>
    match (m.group? 1).or (m.group? 2) with
    | some piece => some (.literal piece.text)
    | none => (m.group? 3).map fun piece => .identifier piece.text

end Gloss
