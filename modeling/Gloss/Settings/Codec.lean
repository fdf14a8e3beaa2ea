import Gloss.Settings.Basic
import Gloss.Settings.Error
import Gloss.Toml.Value

/-!
# Settings as documents

The value that settings have in a settings document, and the settings that such a value gives.
Every name is read from an entry of exactly its kind; names that are not known do not count, and
a missing name stands for its default where it has one.

## Main definitions

* `Settings.toValue`: the document of settings.
* `Settings.ofValue?`: the settings of a complete document.
* `Settings.ofLayers`: the settings that documents give when they are layered over the defaults.
-/

namespace Gloss

/-- A table of texts, as a value. -/
def TypeTable.toValue (table : TypeTable) : Value :=
  .table (table.map fun e => (e.1, .text e.2))

/-- A list of texts, as a value. -/
def Value.ofTexts (texts : List Text) : Value :=
  .list (texts.map .text)

/-- A record, as a value. -/
def Value.ofFields (fields : List (String × Value)) : Value :=
  .table (fields.map fun f => (f.1.toList, f.2))

namespace ScopeSettings

/-- The names of a scope's entries, in their order. -/
def names : List Text :=
  ["name", "folder", "hubs", "satellites", "init_methods"].map String.toList

/-- A scope, as a value. -/
def toValue (s : ScopeSettings) : Value :=
  .ofFields [("name", .text s.name), ("folder", .text s.folder), ("hubs", .ofTexts s.hubs),
    ("satellites", .ofTexts s.satellites), ("init_methods", .ofTexts s.initMethods)]

/-- The scope that a value gives. -/
def ofValue? (v : Value) : Option ScopeSettings := do
  let entries ← v.record? names
  let texts := Value.list? Value.text?
  return {
    name := ← Value.field? entries "name".toList Value.text? none
    folder := ← Value.field? entries "folder".toList Value.text? none
    hubs := ← Value.field? entries "hubs".toList texts (some Settings.defaultHubs)
    satellites := ← Value.field? entries "satellites".toList texts
      (some Settings.defaultSatellites)
    initMethods := ← Value.field? entries "init_methods".toList texts
      (some Settings.defaultInitMethods) }

end ScopeSettings

/-- The word for a kind of registration. -/
def RegistrationKind.word : RegistrationKind → Text
  | .panel => "panel".toList
  | .control => "control".toList

/-- The kind of registration that a word stands for. -/
def RegistrationKind.ofWord? (word : Text) : Option RegistrationKind :=
  if word = "panel".toList then some .panel
  else if word = "control".toList then some .control
  else none

namespace RegistrationSettings

/-- The names of a registration's entries, in their order. -/
def names : List Text :=
  ["prefix", "shape", "default_base"].map String.toList

/-- A registration, as a value. -/
def toValue (r : RegistrationSettings) : Value :=
  .ofFields [("prefix", .text r.head), ("shape", .text r.kind.word),
    ("default_base", .text r.defaultBase)]

/-- The registration that a value gives. -/
def ofValue? (v : Value) : Option RegistrationSettings := do
  let entries ← v.record? names
  return {
    head := ← Value.field? entries "prefix".toList Value.text? none
    kind := ← Value.field? entries "shape".toList
      (fun v => v.text?.bind RegistrationKind.ofWord?) none
    defaultBase := ← Value.field? entries "default_base".toList Value.text?
      (some Settings.defaultPanelBase) }

end RegistrationSettings

namespace TypeSettings

/-- The names of the type tables, in their order. -/
def names : List Text :=
  ["network", "force", "force_index"].map String.toList

/-- The type tables, as a value. -/
def toValue (s : TypeSettings) : Value :=
  .ofFields [("network", TypeTable.toValue s.network), ("force", TypeTable.toValue s.force),
    ("force_index", TypeTable.toValue s.forceIndex)]

/-- The type tables that a value gives. -/
def ofValue? (v : Value) : Option TypeSettings := do
  let entries ← v.record? names
  let default : TypeSettings := {}
  return {
    network := ← Value.field? entries "network".toList Value.texts? (some default.network)
    force := ← Value.field? entries "force".toList Value.texts? (some default.force)
    forceIndex := ← Value.field? entries "force_index".toList Value.texts?
      (some default.forceIndex) }

end TypeSettings

namespace PatternSettings

/-- The names of the patterns, in their order. -/
def names : List Text :=
  ["accessor", "network", "network_method", "base_macro", "base_assignment", "local_assignment",
    "global_assignment", "meta_table", "function_header", "registration"].map String.toList

/-- The patterns, as a value. -/
def toValue (s : PatternSettings) : Value :=
  .ofFields [("accessor", .text s.accessor), ("network", .text s.network),
    ("network_method", .text s.networkMethod), ("base_macro", .text s.baseCall),
    ("base_assignment", .text s.baseAssignment), ("local_assignment", .text s.localAssignment),
    ("global_assignment", .text s.globalAssignment), ("meta_table", .text s.metaTable),
    ("function_header", .text s.functionHeader),
    ("registration", .list (s.registration.map RegistrationSettings.toValue))]

/-- The patterns that a value gives. -/
def ofValue? (v : Value) : Option PatternSettings := do
  let entries ← v.record? names
  let default : PatternSettings := {}
  let text (name : String) (default : Text) :=
    Value.field? entries name.toList Value.text? (some default)
  return {
    accessor := ← text "accessor" default.accessor
    network := ← text "network" default.network
    networkMethod := ← text "network_method" default.networkMethod
    baseCall := ← text "base_macro" default.baseCall
    baseAssignment := ← text "base_assignment" default.baseAssignment
    localAssignment := ← text "local_assignment" default.localAssignment
    globalAssignment := ← text "global_assignment" default.globalAssignment
    metaTable := ← text "meta_table" default.metaTable
    functionHeader := ← text "function_header" default.functionHeader
    registration := ← Value.field? entries "registration".toList
      (Value.list? RegistrationSettings.ofValue?) (some default.registration) }

end PatternSettings

namespace FieldSettings

/-- The names of the entries about fields, in their order. -/
def names : List Text :=
  ["backing_visibility".toList]

/-- How fields are written, as a value. -/
def toValue (s : FieldSettings) : Value :=
  .ofFields [("backing_visibility", .text s.backingVisibility)]

/-- How fields are written according to a value. -/
def ofValue? (v : Value) : Option FieldSettings := do
  let entries ← v.record? names
  let default : FieldSettings := {}
  return {
    backingVisibility := ← Value.field? entries "backing_visibility".toList Value.text?
      (some default.backingVisibility) }

end FieldSettings

namespace Settings

/-- The names of the settings, in their order. -/
def names : List Text :=
  ["version", "debug", "untyped", "base_macro_replacement", "scopes", "types", "patterns",
    "fields"].map String.toList

/-- The settings, as a value. -/
def toValue (s : Settings) : Value :=
  .ofFields [("version", .integer s.version), ("debug", .boolean s.debug),
    ("untyped", .text s.untyped), ("base_macro_replacement", .text s.baseCallReplacement),
    ("scopes", .list (s.scopes.map ScopeSettings.toValue)), ("types", s.types.toValue),
    ("patterns", s.patterns.toValue), ("fields", s.fields.toValue)]

/-- The settings that a value gives. -/
def ofValue? (v : Value) : Option Settings := do
  let entries ← v.record? names
  let default : Settings := {}
  return {
    version := ← Value.field? entries "version".toList Value.nat32? (some default.version)
    debug := ← Value.field? entries "debug".toList Value.boolean? (some default.debug)
    untyped := ← Value.field? entries "untyped".toList Value.text? (some default.untyped)
    baseCallReplacement := ← Value.field? entries "base_macro_replacement".toList Value.text?
      (some default.baseCallReplacement)
    scopes := ← Value.field? entries "scopes".toList (Value.list? ScopeSettings.ofValue?)
      (some default.scopes)
    types := ← Value.field? entries "types".toList TypeSettings.ofValue? (some default.types)
    patterns := ← Value.field? entries "patterns".toList PatternSettings.ofValue?
      (some default.patterns)
    fields := ← Value.field? entries "fields".toList FieldSettings.ofValue?
      (some default.fields) }

/-- The settings that documents give when they are layered over the defaults, the last on top. -/
def ofLayers (layers : List Value) : Except SettingsError Settings :=
  match ofValue? (layers.foldl Value.merge Settings.default.toValue) with
  | some s => .ok s
  | none => .error .unreadable

end Settings

end Gloss
