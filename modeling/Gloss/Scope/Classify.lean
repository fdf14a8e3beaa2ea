import Gloss.Scope.Rule
import Gloss.Script.Path

/-!
# Classification of scripts

The path of a script tells its scope and the name of the type that it belongs to. The rule whose
folder occurs nearest to the end of the path wins, then the longer folder, then the earlier rule.
Only directories are compared, never the file name.

## Main definitions

* `lastRunEnd?`: where the last occurrence of a folder among directories ends.
* `Classification`: a scope and the name of a type.
* `classify`: the classification of a path.
-/

namespace Gloss

/-- The scope of a script and the name of the type that it belongs to. -/
structure Classification where
  /-- The scope. -/
  scope : Text
  /-- The type, named by the file or by a directory. -/
  typeName : Text
  deriving Repr, DecidableEq

/-- Where the last occurrence of the run `folder` in `dirs` ends: the number of directories up to
and with it. -/
def lastRunEnd? (folder : List Text) : (dirs : List Text) → Option Nat
  | [] => none
  | d :: dirs =>
    match lastRunEnd? folder dirs with
    | some n => some (n + 1)
    | none =>
      if !folder.isEmpty && folder.isPrefixOf (d :: dirs) then some folder.length else none

/-- A rule with the end of the last occurrence of its folder. -/
structure Candidate where
  /-- The rule. -/
  rule : ScopeRule
  /-- The number of directories up to the end of the occurrence. -/
  stop : Nat
  deriving Repr, DecidableEq

/-- The candidate that a rule is for the given directories. -/
def candidate? (dirs : List Text) (rule : ScopeRule) : Option Candidate :=
  (lastRunEnd? rule.folder dirs).map fun stop => { rule := rule, stop := stop }

/-- A candidate wins over an earlier one if it ends later, or ends there too and is wider. -/
def Candidate.beats (new old : Candidate) : Bool :=
  old.stop < new.stop || (new.stop == old.stop && old.rule.folder.length < new.rule.folder.length)

/-- The better of the best candidate so far and a later one. -/
def Candidate.better (best : Option Candidate) (new : Candidate) : Option Candidate :=
  match best with
  | none => some new
  | some old => if new.beats old then some new else some old

/-- The winning rule for a path. -/
def bestCandidate? (p : ScriptPath) (rules : List ScopeRule) : Option Candidate :=
  (rules.filterMap (candidate? p.loweredDirs)).foldl Candidate.better none

/-- The name of the type of a script: its stem right inside the folder of the scope, else the
segment after that folder. -/
def typeNameAfter (p : ScriptPath) (stop : Nat) : Text :=
  if stop = p.segments.dropLast.length then p.fileStem else p.segments.getD stop []

/-- The classification of a path, if some rule has it. -/
def classify (p : ScriptPath) (rules : List ScopeRule) : Option Classification :=
  (bestCandidate? p rules).map fun best =>
    { scope := best.rule.scope, typeName := typeNameAfter p best.stop }

end Gloss
