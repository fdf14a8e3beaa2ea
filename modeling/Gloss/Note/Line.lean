import Gloss.Text.Basic

/-!
# Annotation lines

The lines of documentation that are put into scripts. They are read by language servers, so every
character counts.

## Main definitions

* `classLine`: the line that declares a class.
* `setterLine`, `getterLine`: the lines of a pair of methods.
* `backingLine`: the line of the field behind an accessor.
-/

namespace Gloss

/-- The beginning of every line that declares a class. -/
def classMark : Text :=
  "---@class".toList

/-- The line that declares a class, with its base if there is one. -/
def classLine (name : Text) (base : Option Text) : Text :=
  match base with
  | some base => classMark ++ ' ' :: name ++ " : ".toList ++ base
  | none => classMark ++ ' ' :: name

/-- The line of the method that sets a field. -/
def setterLine (name owner value : Text) : Text :=
  "---@field Set".toList ++ name ++ " fun(self: ".toList ++ owner ++ ", value: ".toList ++ value ++
    [')']

/-- The line of the method that gets a field. -/
def getterLine (name owner value : Text) : Text :=
  "---@field Get".toList ++ name ++ " fun(self: ".toList ++ owner ++ "): ".toList ++ value

/-- The line of the field behind an accessor, with its visibility if there is one. -/
def backingLine (key value : Text) (visibility : Option Text) : Text :=
  match visibility with
  | some v => "---@field ".toList ++ v ++ ' ' :: key ++ ' ' :: value
  | none => "---@field ".toList ++ key ++ ' ' :: value

end Gloss
