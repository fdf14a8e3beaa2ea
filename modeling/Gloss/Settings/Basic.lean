import Gloss.Text.Basic

/-!
# Settings

What can be configured: which folders hold which kinds of script types, the names of types, and
the patterns by which calls and assignments are found.

## Main definitions

* `Settings`: the settings, with the defaults of the game's conventions.
* `ScopeSettings`: one kind of script type and the folder it lives in.
* `RegistrationSettings`: one kind of call that registers a control.
-/

namespace Gloss

/-- A table from names to names of types. -/
abbrev TypeTable := List (Text × Text)

namespace Settings

/-- The file names at which a folder type is entered. -/
def defaultHubs : List Text :=
  ["init.lua".toList, "shared.lua".toList, "cl_init.lua".toList]

/-- The file names that belong to a folder type beside its hubs. -/
def defaultSatellites : List Text :=
  ["^(sh|sv|cl)_[\\w\\-]+\\.lua$".toList]

/-- The methods in which networked fields are declared. -/
def defaultInitMethods : List Text :=
  ["SetupDataTables".toList]

/-- The base of a control whose registration names none. -/
def defaultPanelBase : Text :=
  "Panel".toList

end Settings

/-- A kind of script type: the global table it is written against and the folder it lives in. -/
structure ScopeSettings where
  /-- The global table. -/
  name : Text
  /-- The folder, with slashes between its segments. -/
  folder : Text
  /-- The file names at which a folder type is entered. -/
  hubs : List Text := Settings.defaultHubs
  /-- Patterns for the other file names of a folder type. -/
  satellites : List Text := Settings.defaultSatellites
  /-- The methods in which networked fields are declared. -/
  initMethods : List Text := Settings.defaultInitMethods
  deriving Repr, DecidableEq

/-- The order of the arguments of a registration. -/
inductive RegistrationKind where
  /-- A name and a table. -/
  | panel
  /-- A name, a description and a table. -/
  | control
  deriving Repr, DecidableEq

/-- A kind of call that registers a control. -/
structure RegistrationSettings where
  /-- The pattern for the head of the call. -/
  head : Text
  /-- The order of its arguments. -/
  kind : RegistrationKind
  /-- The base of a control whose registration names none. -/
  defaultBase : Text := Settings.defaultPanelBase
  deriving Repr, DecidableEq

/-- The names of types. -/
structure TypeSettings where
  /-- Types of networked fields by their tags. -/
  network : TypeTable :=
    [("String", "string"), ("Bool", "boolean"), ("Float", "number"), ("Double", "number"),
      ("Int", "integer"), ("Vector", "Vector"), ("Angle", "Angle"),
      ("Entity", "Entity")].map fun e => (e.1.toList, e.2.toList)
  /-- Types of accessors by the constants that force them. -/
  force : TypeTable :=
    [("FORCE_STRING", "string"), ("FORCE_NUMBER", "number"), ("FORCE_BOOL", "boolean"),
      ("FORCE_ANGLE", "Angle"), ("FORCE_COLOR", "Color"),
      ("FORCE_VECTOR", "Vector")].map fun e => (e.1.toList, e.2.toList)
  /-- Types of accessors by the values of those constants. -/
  forceIndex : TypeTable :=
    [("1", "string"), ("2", "number"), ("3", "boolean"), ("4", "Angle"), ("5", "Color"),
      ("6", "Vector")].map fun e => (e.1.toList, e.2.toList)
  deriving Repr, DecidableEq

/-- The patterns by which calls and assignments are found. -/
structure PatternSettings where
  /-- The head of a call that makes an accessor. -/
  accessor : Text := "\\bAccessorFunc\\s*\\(".toList
  /-- The head of a call that declares a networked field; its group is the receiver. -/
  network : Text := "\\b([A-Za-z_][\\w]*)\\s*:\\s*NetworkVar\\s*\\(".toList
  /-- The method that declares a networked field. -/
  networkMethod : Text := "NetworkVar".toList
  /-- The head of a call that stands for the declaration of the base class. -/
  baseCall : Text := "\\bDEFINE_BASECLASS\\s*\\(".toList
  /-- The assignment of a base, with a place for the scope; its groups are a value in double
  quotes, one in single quotes and an identifier. -/
  baseAssignment : Text :=
    ("(?m)^[ \\t]*\x7bscope\x7d\\.Base[ \\t]*=[ \\t]*" ++
      "(?:\"([^\"\\n]*)\"|'([^'\\n]*)'|([A-Za-z_][\\w\\.]*))").toList
  /-- The assignment of a local variable, with a place for its name. -/
  localAssignment : Text := "(?m)^[ \\t]*local[ \\t]+\x7bname\x7d[ \\t]*=(?:[^=]|$)".toList
  /-- The assignment of a global variable, with a place for its name. -/
  globalAssignment : Text := "(?m)^[ \\t]*\x7bname\x7d[ \\t]*=(?:[^=]|$)".toList
  /-- The assignment of a meta table; its groups are the variable and the type. -/
  metaTable : Text :=
    ("(?m)^[ \\t]*(?:local[ \\t]+)?([A-Za-z_]\\w*)[ \\t]*=[ \\t]*" ++
      "FindMetaTable[ \\t]*\\([ \\t]*[\"']([^\"'\\n]+)[\"'][ \\t]*\\)").toList
  /-- The head of a method definition; its first group is the table. -/
  functionHeader : Text :=
    "(?m)^[ \\t]*function[ \\t]+([A-Za-z_]\\w*)[:\\.]([A-Za-z_]\\w*)[ \\t]*\\(".toList
  /-- The calls that register controls. -/
  registration : List RegistrationSettings :=
    [{ head := "\\bvgui\\.Register\\s*\\(".toList, kind := .panel },
      { head := "\\bderma\\.DefineControl\\s*\\(".toList, kind := .control }]
  deriving Repr, DecidableEq

/-- How fields are written. -/
structure FieldSettings where
  /-- The visibility of the field behind an accessor; none if it is blank. -/
  backingVisibility : Text := "protected".toList
  deriving Repr, DecidableEq

/-- The settings. -/
structure Settings where
  /-- The version of the settings format. -/
  version : Nat := 1
  /-- More log output is wanted. -/
  debug : Bool := false
  /-- The type of values that nothing is known about. -/
  untyped : Text := "any".toList
  /-- What a call for the base class is replaced by, with a place for its arguments. -/
  baseCallReplacement : Text := "local BaseClass = baseclass.Get(\x7bargs\x7d)".toList
  /-- The kinds of script types. -/
  scopes : List ScopeSettings :=
    [{ name := "ENT".toList, folder := "entities".toList },
      { name := "SWEP".toList, folder := "weapons".toList },
      { name := "EFFECT".toList, folder := "effects".toList },
      { name := "TOOL".toList, folder := "weapons/gmod_tool/stools".toList },
      { name := "GM".toList, folder := "gamemodes".toList }]
  /-- The names of types. -/
  types : TypeSettings := {}
  /-- The patterns. -/
  patterns : PatternSettings := {}
  /-- How fields are written. -/
  fields : FieldSettings := {}
  deriving Repr, DecidableEq

/-- The default settings. -/
def Settings.default : Settings := {}

end Gloss
