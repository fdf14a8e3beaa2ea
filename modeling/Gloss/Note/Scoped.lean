import Gloss.Note.Field
import Gloss.Scope.Folder

/-!
# Types of scope folders

A script in the folder of a scope belongs to a type that its path names. The class of that type is
declared at the start of the file, with the fields that the calls on the scope's table give it; if
the text declares the class already, the missing fields go below that declaration.

## Main definitions

* `ScopeTarget`: the type that a script belongs to.
* `targetUnder`, `resolveTarget`: how it is found.
* `scopedFragment?`: the block for that type.
-/

namespace Gloss

/-- The type that a script belongs to. -/
structure ScopeTarget where
  /-- The global table of the scope. -/
  scope : Text
  /-- The name of the type. -/
  typeName : Text
  /-- Its base. -/
  base : Base
  /-- The directory that the type fills, if it fills one. -/
  folder : Option FolderScope
  deriving Repr, DecidableEq

/-- The line that declares the class of a type. -/
def ScopeTarget.classLine (target : ScopeTarget) : Text :=
  Gloss.classLine target.typeName (some target.base.value)

/-- The type that a script has under a rule, and what is remembered about folders after it. The base
is the one that the script declares, else that of its folder, else the scope itself. -/
def targetUnder (rule : ScopeRule) (files : FileView) (p : ScriptPath) (typeName t : Text)
    (cache : FolderCache) : Option ScopeTarget × FolderCache :=
  let detected := detectFolder files rule p typeName cache
  let base := ((declaredBase? rule.baseAssignment t).or (detected.1.map (·.base))).getD
    (.literal rule.scope)
  (some { scope := rule.scope, typeName := typeName, base := base, folder := detected.1 },
    detected.2)

/-- The type that a script belongs to, and what is remembered about folders after it: the type that
its path names, under the first rule of its scope. -/
def resolveTarget (ctx : Context) (files : FileView) (p : ScriptPath) (t : Text)
    (cache : FolderCache) : Option ScopeTarget × FolderCache :=
  match classify p ctx.rules with
  | none => (none, cache)
  | some c =>
    match ctx.rule? c.scope with
    | none => (none, cache)
    | some rule => targetUnder rule files p c.typeName t cache

/-- The fields that the calls on the scope's table give a type. -/
def scopedFields (ctx : Context) (b : Bindings) (t : Text) (target : ScopeTarget) : List Text :=
  (FieldCalls.ofText ctx t).lines ctx b target.scope target.typeName 0 t.size

/-- The block for the type of a script. -/
def scopedFragment? (ctx : Context) (b : Bindings) (t : Text) (target : ScopeTarget) :
    Option Fragment :=
  let fields := missingLines t (scopedFields ctx b t target)
  match findClassLine? t target.typeName with
  | some line => if fields.isEmpty then none else some (.note fields (.below line))
  | none => some (.note (target.classLine :: fields) .fileStart)

/-- The replacements of the calls for the base class. -/
def baseCallFragments (ctx : Context) (t : Text) : List Fragment :=
  (ctx.baseCall.calls t).map fun site =>
    .replacement site.start site.stop (ctx.baseCallReplacement site.arguments)

end Gloss
