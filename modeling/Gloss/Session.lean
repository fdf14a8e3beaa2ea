import Gloss.Tree

/-!
# Sessions

A session serves many requests with one context. It keeps the files that have been written, the
bases of folders that are remembered, and the syntax tree.

## Main definitions

* `Session`: the state between requests.
* `SessionStep`, `Session.perform`: the requests and their answers.
* `Session.run`: a sequence of requests.
-/

namespace Gloss

/-- The state between requests. -/
structure Session where
  /-- The files. -/
  files : FileMap
  /-- The bases of folders that are remembered. -/
  cache : FolderCache
  /-- The syntax tree. -/
  tree : ScriptTree

/-- A request. A request about a script may bring its text; else the file of that name is read. -/
inductive SessionStep where
  /-- Writes a file. -/
  | write (path text : Text)
  /-- Asks whether there is a file. -/
  | isFile (path : Text)
  /-- Asks for the text of a file. -/
  | read (path : Text)
  /-- Asks for the names of the files of a directory. -/
  | list (path : Text)
  /-- Asks for the edits of a script, and applies them to its file if that is wanted. -/
  | annotate (identifier : Text) (text : Option Text) (apply : Bool)
  /-- Asks for the type of a script. -/
  | target (identifier : Text) (text : Option Text)
  /-- Attaches documentation to the tree; if `quiet`, errors are an empty report. -/
  | bind (identifier : Text) (text : Option Text) (quiet : Bool)
  /-- Asks for the base that is remembered. -/
  | recall (folder scope : Text)
  /-- Remembers a base unless there is one. -/
  | remember (base : Base) (folder scope : Text)
  /-- Forgets all bases. -/
  | forget
  deriving Repr, DecidableEq

/-- The answer to a request. -/
inductive SessionAnswer where
  | done
  | flag (value : Bool)
  | text (value : Option Text)
  | names (value : List Text)
  | edits (value : List Edit)
  | target (value : Option ScopeTarget)
  | report (value : BindReport)
  | base (value : Option Base)
  | error (error : AnnotateError)
  deriving Repr, DecidableEq

namespace Session

/-- The text of a script: the one that was brought, else that of the file. -/
def textOf (s : Session) (identifier : Text) (text : Option Text) : Text :=
  text.getD ((s.files.read? identifier).getD [])

/-- Annotates a script. -/
def annotateStep (s : Session) (ctx : Context) (identifier : Text) (text : Option Text)
    (apply : Bool) : SessionAnswer × Session :=
  let t := s.textOf identifier text
  match Gloss.annotate ctx s.files.view identifier t s.cache with
  | (.error error, cache) => (.error error, { s with cache := cache })
  | (.ok edits, cache) =>
    if apply then
      match applyEdits t edits with
      | .error error => (.error (.edit error), { s with cache := cache })
      | .ok patched =>
        (.edits edits, { s with cache := cache, files := s.files.insert identifier patched })
    else (.edits edits, { s with cache := cache })

/-- Finds the type of a script. -/
def targetStep (s : Session) (ctx : Context) (identifier : Text) (text : Option Text) :
    SessionAnswer × Session :=
  match readIdentifier identifier with
  | .error error => (.error error, s)
  | .ok p =>
    let (target, cache) := resolveTarget ctx s.files.view p (s.textOf identifier text) s.cache
    (.target target, { s with cache := cache })

/-- Attaches documentation to the tree. -/
def bindStep (s : Session) (ctx : Context) (identifier : Text) (text : Option Text)
    (quiet : Bool) : SessionAnswer × Session :=
  match bindTree ctx s.files.view s.tree identifier (s.textOf identifier text) s.cache with
  | (.ok report, tree, cache) => (.report report, { s with tree := tree, cache := cache })
  | (.error error, tree, cache) =>
    (if quiet then .report {} else .error error, { s with tree := tree, cache := cache })

/-- The answer to a request, and the session after it. -/
def perform (s : Session) (ctx : Context) : SessionStep → SessionAnswer × Session
  | .write path text => (.done, { s with files := s.files.insert path text })
  | .isFile path => (.flag (s.files.read? path).isSome, s)
  | .read path => (.text (s.files.read? path), s)
  | .list path => (.names (s.files.list path), s)
  | .annotate identifier text apply => s.annotateStep ctx identifier text apply
  | .target identifier text => s.targetStep ctx identifier text
  | .bind identifier text quiet => s.bindStep ctx identifier text quiet
  | .recall folder scope => (.base (s.cache.get? folder scope), s)
  | .remember base folder scope =>
    let (base, cache) := s.cache.getOrInsert folder scope base
    (.base (some base), { s with cache := cache })
  | .forget => (.flag true, { s with cache := [] })

/-- The session after a sequence of requests. -/
def run (s : Session) (ctx : Context) (steps : List SessionStep) : Session :=
  steps.foldl (fun s step => (s.perform ctx step).2) s

end Session

end Gloss
