import Gloss.File.Path
import Gloss.Pattern.Reader
import Gloss.Settings.Basic
import Gloss.Settings.Error

/-!
# Scope rules

A scope rule says which folder the types of a scope live in and which files make up a type that
fills a folder of its own.

## Main definitions

* `ScopeRule`: a rule that is ready for use.
* `ScopeRule.ofSettings`: checks the settings of a scope and makes the rule.
* `ScopeRule.isHub`, `ScopeRule.isSatellite`: the files of a folder type.
-/

namespace Gloss

/-- A scope rule. -/
structure ScopeRule where
  /-- The global table that the scope is written against. -/
  scope : Text
  /-- The segments of the folder, in lower case. -/
  folder : List Text
  /-- The names of hub files, in lower case and in the order in which they are looked at. -/
  hubs : List Text
  /-- Patterns for the names of the other files, in lower case. -/
  satellites : List Pattern
  /-- The methods in which networked fields are declared. -/
  initMethods : List Text
  /-- The assignment of a base. -/
  baseAssignment : Pattern
  deriving Repr, DecidableEq

/-- Reads a pattern of the settings; `name` says where it stands. -/
def readSettingsPattern (name pattern : Text) : Except SettingsError Pattern :=
  match Pattern.read pattern with
  | .ok p => .ok p
  | .error fault => .error (.badPattern name pattern fault)

/-- The lower-cased segments of a folder, either kind of slash separating them. -/
def folderSegments (folder : Text) : List Text :=
  ((Text.split '/' (forwardSlashes folder)).filter (!·.isEmpty)).map Text.lower

/-- A template with the escaped form of a name in its places. -/
def fillTemplate (place template name : Text) : Text :=
  Text.replace place (Pattern.escape name) template

namespace ScopeRule

/-- Makes the rule of a scope. The first fault in the order name, folder, satellites, base
assignment is reported. -/
def ofSettings (baseTemplate : Text) (s : ScopeSettings) : Except SettingsError ScopeRule := do
  if s.name.trim.isEmpty then throw (.badScope s.name .blankName)
  let folder := folderSegments s.folder
  if folder.isEmpty then throw (.badScope s.name .emptyFolder)
  let satellites ← s.satellites.mapM
    (readSettingsPattern ("scopes.".toList ++ s.name ++ ".satellites".toList))
  let baseAssignment ← readSettingsPattern "patterns.base_assignment".toList
    (fillTemplate "\x7bscope\x7d".toList baseTemplate s.name)
  return {
    scope := s.name
    folder := folder
    hubs := s.hubs.map Text.lower
    satellites := satellites
    initMethods := s.initMethods
    baseAssignment := baseAssignment }

/-- Makes the rules of all scopes. -/
def allOfSettings (s : Settings) : Except SettingsError (List ScopeRule) :=
  s.scopes.mapM (ofSettings s.patterns.baseAssignment)

/-- The file name, in any case, is that of a hub. -/
def isHub (rule : ScopeRule) (fileName : Text) : Bool :=
  rule.hubs.contains fileName.lower

/-- The file name, in any case, is that of a satellite. -/
def isSatellite (rule : ScopeRule) (fileName : Text) : Bool :=
  rule.satellites.any fun p => p.expr.matchesIn fileName.lower

end ScopeRule

end Gloss
