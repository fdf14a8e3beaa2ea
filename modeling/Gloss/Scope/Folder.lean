import Gloss.File.View
import Gloss.Scope.Base
import Gloss.Scope.Classify

/-!
# Types that fill a folder

A type may be spread over the files of a directory. Then its base is declared in a hub file of that
directory. Bases of folders are remembered for a whole session, by the folder in lower case and the
scope: the first base that is found stays.

## Main definitions

* `FolderCache`: the bases that are remembered.
* `FolderScope`: a directory that a type fills, with its base.
* `detectFolder`: the folder scope of a script, and what is remembered after it.
-/

namespace Gloss

/-- The bases of folders that are remembered, by folder in lower case and scope. -/
abbrev FolderCache := List ((Text × Text) × Base)

namespace FolderCache

/-- The key of a folder and a scope. -/
def key (folder scope : Text) : Text × Text :=
  (folder.lower, scope)

/-- The base that is remembered. -/
def get? (cache : FolderCache) (folder scope : Text) : Option Base :=
  cache.lookup (key folder scope)

/-- The base that is remembered, which is the given one if there was none. -/
def getOrInsert (cache : FolderCache) (folder scope : Text) (base : Base) : Base × FolderCache :=
  match cache.get? folder scope with
  | some known => (known, cache)
  | none => (base, cache ++ [(key folder scope, base)])

/-- A short description of what is remembered. -/
def describe (cache : FolderCache) : Text :=
  "FolderBaseCache \x7b entries: ".toList ++ Text.ofNat cache.length ++ " \x7d".toList

end FolderCache

/-- A directory that a type fills. -/
structure FolderScope where
  /-- The directory. -/
  path : Text
  /-- The base of the type. -/
  base : Base
  deriving Repr, DecidableEq

/-- The directory holds a hub or a satellite. -/
def holdsTypeFiles (files : FileView) (rule : ScopeRule) (dir : Text) : Bool :=
  (rule.hubs.any fun hub => files.isFile (joinPath dir hub)) ||
    (files.list dir).any fun name => rule.isHub name || rule.isSatellite name

/-- The base that the first hub file with a declaration declares; the scope if none does. -/
def folderBase (files : FileView) (rule : ScopeRule) (dir : Text) : Base :=
  let contents := rule.hubs.filterMap fun hub => files.read? (joinPath dir hub)
  (contents.findSome? (declaredBase? rule.baseAssignment)).getD (.literal rule.scope)

/-- A script belongs to a folder type if it is a hub, or if its directory is named like the type
and holds hubs or satellites. -/
def isFolderMember (files : FileView) (rule : ScopeRule) (p : ScriptPath) (typeName dir : Text) :
    Bool :=
  rule.isHub p.fileName ||
    (p.parentName?.any (Text.eqIgnoringAsciiCase · typeName) && holdsTypeFiles files rule dir)

/-- The folder scope of a script, and what is remembered after it. -/
def detectFolder (files : FileView) (rule : ScopeRule) (p : ScriptPath) (typeName : Text)
    (cache : FolderCache) : Option FolderScope × FolderCache :=
  match p.parent? with
  | none => (none, cache)
  | some dir =>
    if isFolderMember files rule p typeName dir then
      let found := cache.getOrInsert dir rule.scope (folderBase files rule dir)
      (some { path := dir, base := found.1 }, found.2)
    else (none, cache)

end Gloss
