import Gloss.Edit.Assemble
import Gloss.Note.Registration
import Gloss.Note.Scoped

/-!
# Annotating a script

The whole pass over the text of a script: the fragments for the calls for the base class, the type
of the scope folder, the registered controls and the meta tables, and the edits that they make.

## Main definitions

* `fragmentsOf`: the fragments of a script.
* `annotate`: the edits of a script, and what is remembered about folders after it.
* `annotateQuietly`: the same for a host that is not to be bothered: no edits are no answer.
-/

namespace Gloss

/-- Why a script cannot be annotated. -/
inductive AnnotateError where
  /-- Its identifier names no script. -/
  | badPath (identifier : Text) (fault : ScriptPathFault)
  /-- An edit does not fit the text. -/
  | edit (error : EditError)
  deriving Repr, DecidableEq

/-- What the user is told. -/
def AnnotateError.message : AnnotateError → Text
  | .badPath identifier fault =>
    "Invalid file identifier '".toList ++ identifier ++ "': ".toList ++ fault.message
  | .edit error => error.message

/-- The fixed word for the kind of error. -/
def AnnotateError.code : AnnotateError → Text
  | .badPath _ _ => "INVALID_URI".toList
  | .edit (.outside _ _ _) => "EDIT_OUT_OF_BOUNDS".toList
  | .edit (.insideCharacter _ _) => "EDIT_NOT_ON_BOUNDARY".toList

/-- Reads the identifier of a script. -/
def readIdentifier (identifier : Text) : Except AnnotateError ScriptPath :=
  match ScriptPath.read identifier with
  | .ok p => .ok p
  | .error fault => .error (.badPath identifier fault)

/-- The fragments of a script whose type is known. -/
def fragmentsFor (ctx : Context) (target : Option ScopeTarget) (t : Text) : List Fragment :=
  let b := Bindings.ofText ctx t
  baseCallFragments ctx t ++ (target.bind (scopedFragment? ctx b t)).toList ++
    registrationFragments ctx b t ++ accessorFragments ctx b t ++ networkFragments ctx b t

/-- The fragments of a script, and what is remembered about folders after it. -/
def fragmentsOf (ctx : Context) (files : FileView) (p : ScriptPath) (t : Text)
    (cache : FolderCache) : List Fragment × FolderCache :=
  let resolved := resolveTarget ctx files p t cache
  (fragmentsFor ctx resolved.1 t, resolved.2)

/-- The edits of a script, and what is remembered about folders after it. -/
def annotate (ctx : Context) (files : FileView) (identifier t : Text) (cache : FolderCache) :
    Except AnnotateError (List Edit) × FolderCache :=
  match readIdentifier identifier with
  | .error error => (.error error, cache)
  | .ok p =>
    let (fragments, cache) := fragmentsOf ctx files p t cache
    match assemble t fragments with
    | .ok edits => (.ok edits, cache)
    | .error error => (.error (.edit error), cache)

/-- The edits of a script if there are any; errors are no edits. -/
def annotateQuietly (ctx : Context) (files : FileView) (identifier t : Text)
    (cache : FolderCache) : Option (List Edit) × FolderCache :=
  match annotate ctx files identifier t cache with
  | (.ok [], cache) => (none, cache)
  | (.ok edits, cache) => (some edits, cache)
  | (.error _, cache) => (none, cache)

end Gloss
