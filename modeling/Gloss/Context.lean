import Gloss.Call.Site
import Gloss.Number.Numeral
import Gloss.Scope.Folder
import Gloss.Text.Printable

/-!
# Context of annotation

Settings that are ready for use: every pattern has been read, and what cannot be read has been
reported. One context serves all scripts of a session.

## Main definitions

* `Context`: the context.
* `Context.ofSettings`: makes a context of settings.
* `Context.networkType`, `Context.forceType`: the types that tags and constants stand for.
-/

namespace Gloss

/-- A kind of call that registers a control. -/
structure RegistrationRule where
  /-- The head of the call. -/
  head : Pattern
  /-- The order of its arguments. -/
  kind : RegistrationKind
  /-- The base of a control whose registration names none. -/
  defaultBase : Text
  deriving Repr, DecidableEq

/-- The context of annotation. -/
structure Context where
  /-- The scope rules. -/
  rules : List ScopeRule
  /-- The head of a call that makes an accessor. -/
  accessor : Pattern
  /-- The head of a call that declares a networked field. -/
  network : Pattern
  /-- The method that declares a networked field. -/
  networkMethod : Text
  /-- The head of a call for the base class. -/
  baseCall : Pattern
  /-- The assignment of a meta table. -/
  metaTable : Pattern
  /-- The head of a method definition. -/
  functionHeader : Pattern
  /-- The calls that register controls. -/
  registrations : List RegistrationRule
  /-- The template of a local assignment. -/
  localTemplate : Text
  /-- The template of a global assignment. -/
  globalTemplate : Text
  /-- The names of types. -/
  types : TypeSettings
  /-- The type of values that nothing is known about. -/
  untyped : Text
  /-- The visibility of the field behind an accessor. -/
  backingVisibility : Option Text
  /-- The template for what a call for the base class is replaced by. -/
  replacementTemplate : Text
  deriving Repr, DecidableEq

/-- The place for a name in a template. -/
def namePlace : Text :=
  "\x7bname\x7d".toList

/-- The place for arguments in a template. -/
def argumentsPlace : Text :=
  "\x7bargs\x7d".toList

namespace Context

/-- Makes the rule of a registration. -/
def registrationRule (s : RegistrationSettings) : Except SettingsError RegistrationRule := do
  let head ← readSettingsPattern "patterns.registration.prefix".toList s.head
  return { head := head, kind := s.kind, defaultBase := s.defaultBase }

/-- Checks that a template becomes a pattern when a name stands in its places. -/
def checkTemplate (name template : Text) : Except SettingsError Unit := do
  let _ ← readSettingsPattern name (Text.replace namePlace "PANEL".toList template)

/-- Makes a context of settings. The first pattern or scope that is refused is reported. -/
def ofSettings (s : Settings) : Except SettingsError Context := do
  let p := s.patterns
  let registrations ← p.registration.mapM registrationRule
  let accessor ← readSettingsPattern "patterns.accessor".toList p.accessor
  let network ← readSettingsPattern "patterns.network".toList p.network
  let baseCall ← readSettingsPattern "patterns.base_macro".toList p.baseCall
  let metaTable ← readSettingsPattern "patterns.meta_table".toList p.metaTable
  let functionHeader ← readSettingsPattern "patterns.function_header".toList p.functionHeader
  checkTemplate "patterns.local_assignment".toList p.localAssignment
  checkTemplate "patterns.global_assignment".toList p.globalAssignment
  let rules ← ScopeRule.allOfSettings s
  let visibility := s.fields.backingVisibility.trim
  return {
    rules := rules
    accessor := accessor
    network := network
    networkMethod := p.networkMethod
    baseCall := baseCall
    metaTable := metaTable
    functionHeader := functionHeader
    registrations := registrations
    localTemplate := p.localAssignment
    globalTemplate := p.globalAssignment
    types := s.types
    untyped := s.untyped
    backingVisibility := if visibility.isEmpty then none else some visibility
    replacementTemplate := s.baseCallReplacement }

/-- The first rule of a scope. -/
def rule? (ctx : Context) (scope : Text) : Option ScopeRule :=
  ctx.rules.find? fun rule => rule.scope == scope

/-- The pattern for a local assignment of a variable. -/
def localAssignment? (ctx : Context) (name : Text) : Option Pattern :=
  Pattern.read? (fillTemplate namePlace ctx.localTemplate name)

/-- The pattern for a global assignment of a variable. -/
def globalAssignment? (ctx : Context) (name : Text) : Option Pattern :=
  Pattern.read? (fillTemplate namePlace ctx.globalTemplate name)

/-- The pattern for a local assignment of any variable, which its group `name` holds. -/
def anyLocalAssignment? (ctx : Context) : Option Pattern :=
  Pattern.read?
    (Text.replace namePlace "(?P<name>[A-Za-z_]\\w*)".toList ctx.localTemplate)

/-- What a call for the base class is replaced by. -/
def baseCallReplacement (ctx : Context) (arguments : Text) : Text :=
  Text.replace argumentsPlace arguments ctx.replacementTemplate

/-- The type of a networked field with a tag. -/
def networkType (ctx : Context) (tag : Text) : Text :=
  (ctx.types.network.lookup tag).getD ctx.untyped

/-- The integer of 64 bits that is nearest to an integer. -/
def clampInt64 (n : Int) : Int :=
  max (-(Nat.pow 2 63 : Int)) (min n ((Nat.pow 2 63 : Int) - 1))

/-- The type that an argument forces: the argument is a constant, or a whole number that is the
value of one. -/
def forceType (ctx : Context) (argument : Text) : Text :=
  match ctx.types.force.lookup argument.trim with
  | some type => type
  | none =>
    (((numeral? argument).bind Binary64.toInt?).bind fun n =>
      ctx.types.forceIndex.lookup (Text.ofInt (clampInt64 n))).getD ctx.untyped

/-- A short description of the context, with the folders that are remembered. -/
def describe (ctx : Context) (cache : FolderCache) : Text :=
  "AnnotatorContext \x7b rules: ".toList ++ Text.ofNat ctx.rules.length ++
    ", untyped: ".toList ++ Text.quoted ctx.untyped ++
    ", folder_cache: ".toList ++ cache.describe ++ " \x7d".toList

end Context

end Gloss
