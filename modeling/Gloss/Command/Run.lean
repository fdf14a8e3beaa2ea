import Gloss.Annotate
import Gloss.Command.Arguments
import Gloss.Command.Response
import Gloss.Settings.Store

/-!
# Running commands

What a command prints, what it leaves on the disk and how it ends.

## Main definitions

* `Outcome`: what is left of a command.
* `scriptsUnder`: the scripts that a command works on.
* `runCommand`: runs a command line.
-/

namespace Gloss

/-- Where a command is run. -/
structure Workspace where
  /-- The files. -/
  disk : Disk
  /-- The current directory. -/
  cwd : List Text
  /-- The environment variables. -/
  environment : List (Text × Text)
  deriving Repr, DecidableEq

/-- What a command prints. -/
inductive Printed where
  /-- A text. -/
  | text (t : Text)
  /-- The settings. -/
  | settings (s : Settings)
  /-- Why settings cannot be used, for machines. -/
  | failure (e : SettingsError)
  deriving Repr, DecidableEq

/-- The line below the headline of printed settings. -/
def headlineRule : Text :=
  List.replicate 50 '='

/-- What the user sees. -/
def Printed.render : Printed → Text
  | .text t => t
  | .settings s =>
    "Current Configuration:\n".toList ++ headlineRule ++ '\n' :: s.render ++ ['\n']
  | .failure e =>
    ((Response.ofSettingsError e : Response JsonValue).toJson id).render ++ ['\n']

/-- What is left of a command. -/
structure Outcome where
  /-- What it has printed. -/
  printed : Printed
  /-- The lines of complaint. -/
  complaints : List Text
  /-- How it has ended. -/
  exit : ExitCode
  /-- The files after it. -/
  disk : Disk
  deriving Repr, DecidableEq

/-- Lines with a line feed after each. -/
def unlines (lines : List Text) : Text :=
  lines.flatMap fun line => line ++ ['\n']

/-- A command that has printed a text. -/
def Outcome.ofText (disk : Disk) (exit : ExitCode) (t : Text) : Outcome :=
  { printed := .text t, complaints := [], exit := exit, disk := disk }

/-- A command that has only complained. -/
def Outcome.ofComplaints (disk : Disk) (exit : ExitCode) (lines : List Text) : Outcome :=
  { printed := .text [], complaints := lines, exit := exit, disk := disk }

/-- The complaint about settings, after a word that says what went wrong. -/
def settingsComplaint (head : Text) (e : SettingsError) : List Text :=
  (head ++ e.message) :: e.suggestions.map fun line => "  - ".toList ++ line

/-- A command whose settings cannot be used. One that breaks off prints nothing. -/
def Outcome.ofSettingsError (disk : Disk) (json : Bool) (e : SettingsError) : Outcome :=
  if e.exit = .aborted then .ofComplaints disk .aborted []
  else if json then { printed := .failure e, complaints := [], exit := e.exit, disk := disk }
  else .ofComplaints disk e.exit (settingsComplaint "Configuration error: ".toList e)

/-! ## Scripts -/

/-- A file name with the extension of scripts, in any case. -/
def isScriptName (name : Text) : Bool :=
  (extension? name).any fun extension => Text.eqIgnoringAsciiCase extension "lua".toList

/-- The scripts at or below a path. A path to a file is taken as it is. -/
def scriptsAt (disk : Disk) (cwd : List Text) (root : Text) : List Text :=
  if disk.isFile cwd root then [root]
  else
    match disk.locate? cwd root with
    | none => []
    | some dir =>
      (disk.filesBelow dir).filterMap fun names =>
        if (names.getLast?.map isScriptName).getD false then some (names.foldl joinPath root)
        else none

/-- The paths without those that equal the one before them. -/
def dropRepeats : List Text → List Text
  | [] => []
  | path :: rest =>
    match dropRepeats rest with
    | [] => [path]
    | next :: later =>
      if pathParts next = pathParts path then path :: later else path :: next :: later

/-- The scripts at or below paths, in the order of paths, each once. -/
def scriptsUnder (disk : Disk) (cwd : List Text) (roots : List Text) : List Text :=
  dropRepeats <| (roots.flatMap (scriptsAt disk cwd)).mergeSort fun a b =>
    pathOrder (pathParts a) (pathParts b) != .gt

/-! ## Annotating -/

/-- The edits of a file. -/
structure FileEdits where
  /-- The path of the file. -/
  path : Text
  /-- The edits. -/
  edits : List Edit
  /-- They have been written. -/
  applied : Bool
  deriving Repr, DecidableEq

namespace FileEdits

/-- An edit for machines. -/
def editJson (e : Edit) : JsonValue :=
  .ofFields [("start", .number e.start), ("finish", .number e.finish), ("text", .text e.text)]

/-- The edits of a file for machines. -/
def toJson (f : FileEdits) : JsonValue :=
  .ofFields [("path", .text f.path), ("edits", .list (f.edits.map editJson)),
    ("applied", .boolean f.applied)]

/-- The lines that show an edit. -/
def editLines (e : Edit) : List Text :=
  let mark := if e.isInsertion then "  + ".toList else "  ~ ".toList
  e.text.lines.map (mark ++ ·)

/-- The lines that show the edits of a file, from its start to its end. -/
def lines (f : FileEdits) : List Text :=
  let verb := if f.applied then "annotated ".toList else "would annotate ".toList
  (verb ++ f.path ++ " (".toList ++ Text.ofNat f.edits.length ++ " edit(s))".toList) ::
    if f.applied then [] else f.edits.reverse.flatMap editLines

end FileEdits

/-- What annotation has done so far. -/
structure AnnotateState where
  /-- The files. -/
  disk : Disk
  /-- What is remembered about folders. -/
  cache : FolderCache := []
  /-- The edits, file by file. -/
  results : List FileEdits := []
  deriving Repr, DecidableEq

/-- The complaint about a file whose edits cannot be written. -/
def writeComplaint (activity path reason : Text) : Text :=
  "Error: ".toList ++ activity ++ ' ' :: path ++ ": ".toList ++ reason

/-- Writes the edits of a file. -/
def applyToFile (disk : Disk) (cwd : List Text) (path t : Text) (edits : List Edit) :
    Except Text Disk :=
  match applyEdits t edits with
  | .error e => .error (writeComplaint "applying edits to".toList path e.message)
  | .ok patched =>
    match disk.writeFile cwd path patched with
    | .error fault => .error (writeComplaint "writing".toList path fault.message)
    | .ok disk => .ok disk

/-- Annotates a file. Files that cannot be read are passed over; a failure keeps what has been
written before it. -/
def annotateScript (ctx : Context) (cwd : List Text) (apply : Bool) (s : AnnotateState)
    (path : Text) : Except (Disk × Text) AnnotateState :=
  match s.disk.readText? cwd path with
  | none => .ok s
  | some t =>
    match annotateQuietly ctx (s.disk.view cwd) path t s.cache with
    | (none, cache) => .ok { s with cache := cache }
    | (some edits, cache) =>
      let results := s.results ++ [{ path := path, edits := edits, applied := apply }]
      if apply then
        match applyToFile s.disk cwd path t edits with
        | .error complaint => .error (s.disk, complaint)
        | .ok disk => .ok { disk := disk, cache := cache, results := results }
      else .ok { s with cache := cache, results := results }

/-- The lines that show edits. -/
def annotateLines (results : List FileEdits) : List Text :=
  if results.isEmpty then ["Nothing to annotate.".toList] else results.flatMap FileEdits.lines

/-- The edits for machines. -/
def annotateResponse (results : List FileEdits) (pending : Bool) : Response (List FileEdits) :=
  if pending then
    (Response.success results).withExit .pendingEdits
      (Text.ofNat results.length ++ " file(s) need annotation".toList)
  else .success results

/-- Annotates scripts. -/
def runAnnotate (ctx : Context) (w : Workspace) (paths : List Text) (mode : AnnotateMode)
    (json : Bool) : Outcome :=
  match (scriptsUnder w.disk w.cwd paths).foldlM
      (annotateScript ctx w.cwd (mode == .apply)) { disk := w.disk } with
  | .error (disk, complaint) => .ofComplaints disk .generalError [complaint]
  | .ok s =>
    let pending := mode == .check && !s.results.isEmpty
    let printed :=
      if json then
        let response := annotateResponse s.results pending
        (response.toJson fun results => .list (results.map FileEdits.toJson)).render ++ ['\n']
      else unlines (annotateLines s.results)
    .ofText s.disk (if pending then .pendingEdits else .success) printed

/-! ## Classifying -/

/-- The type that a file belongs to. -/
structure FileClass where
  /-- The path of the file. -/
  path : Text
  /-- The type. -/
  target : Option ScopeTarget
  deriving Repr, DecidableEq

namespace FileClass

/-- A base for machines. -/
def baseJson (b : Base) : JsonValue :=
  let kind := if b.isIdentifier then "identifier".toList else "literal".toList
  .ofFields [("kind", .text kind), ("value", .text b.value)]

/-- A folder for machines. -/
def folderJson (f : FolderScope) : JsonValue :=
  .ofFields [("path", .text f.path), ("base", baseJson f.base)]

/-- A type for machines. -/
def targetJson (t : ScopeTarget) : JsonValue :=
  .ofFields [("global", .text t.scope), ("logical_type", .text t.typeName),
    ("base", baseJson t.base), ("folder", (t.folder.map folderJson).getD .null)]

/-- The type of a file for machines. -/
def toJson (f : FileClass) : JsonValue :=
  .ofFields (("path", .text f.path) :: (f.target.map fun t => ("target", targetJson t)).toList)

/-- The line that shows the type of a file. -/
def line (f : FileClass) : Text :=
  match f.target with
  | none => f.path ++ ": not scoped".toList
  | some t =>
    let layout :=
      match t.folder with
      | some folder => "folder ".toList ++ folder.path
      | none => "single file".toList
    f.path ++ ": ".toList ++ t.scope ++ ' ' :: t.typeName ++ " : ".toList ++ t.base.value ++
      " (".toList ++ layout ++ [')']

end FileClass

/-- The types of scripts, one after the other. A file that cannot be read counts as empty. -/
def classifyScripts (ctx : Context) (w : Workspace) :
    FolderCache → List Text → Except AnnotateError (List FileClass)
  | _, [] => .ok []
  | cache, path :: rest =>
    match readIdentifier path with
    | .error e => .error e
    | .ok p =>
      let t := (w.disk.readText? w.cwd path).getD []
      let (target, cache) := resolveTarget ctx (w.disk.view w.cwd) p t cache
      match classifyScripts ctx w cache rest with
      | .error e => .error e
      | .ok results => .ok ({ path := path, target := target } :: results)

/-- Shows how scripts are classified. -/
def runClassify (ctx : Context) (w : Workspace) (paths : List Text) (json : Bool) : Outcome :=
  match classifyScripts ctx w [] (scriptsUnder w.disk w.cwd paths) with
  | .error e => .ofComplaints w.disk .generalError ["Error: ".toList ++ e.message]
  | .ok results =>
    .ofText w.disk .success <|
      if json then
        ((Response.success results).toJson fun results =>
          .list (results.map FileClass.toJson)).render ++ ['\n']
      else unlines (results.map FileClass.line)

/-! ## Commands -/

/-- Writes the default settings. -/
def runInit (w : Workspace) (force : Bool) : Outcome :=
  match Settings.createFile w.disk w.cwd force with
  | .error e => .ofComplaints w.disk e.exit (settingsComplaint "Error: ".toList e)
  | .ok disk =>
    .ofText disk .success <| unlines
      ["Created configuration file at: ".toList ++ Settings.localPath,
        "Edit this file to customize your settings.".toList]

/-- The settings that a command works with. -/
def loadSettings (w : Workspace) : Option Text → Except SettingsError Settings
  | some path => Settings.loadFrom w.disk w.cwd path
  | none => Settings.load w.disk w.cwd w.environment

/-- Runs what needs a context. -/
def runWithContext (w : Workspace) (s : Settings) (json : Bool) (run : Context → Outcome) :
    Outcome :=
  match Context.ofSettings s with
  | .error e => .ofSettingsError w.disk json e
  | .ok ctx => run ctx

/-- Runs a command with its settings. -/
def runWithSettings (w : Workspace) (s : Settings) : Command → Outcome
  | .init force => runInit w force
  | .config => { printed := .settings s, complaints := [], exit := .success, disk := w.disk }
  | .annotate paths mode json =>
    runWithContext w s json fun ctx => runAnnotate ctx w paths mode json
  | .classify paths json => runWithContext w s json fun ctx => runClassify ctx w paths json

/-- Runs what a command line asks for. Writing default settings needs none. -/
def runInvocation (w : Workspace) (i : Invocation) : Outcome :=
  match i.command with
  | .init force => runInit w force
  | command =>
    match loadSettings w i.config with
    | .error e => .ofSettingsError w.disk command.wantsJson e
    | .ok s => runWithSettings w s command

/-- The name and the version of the program. -/
def versionLine : Text :=
  "gluadoc 0.1.0".toList

/-- How the program is used. -/
def usageLines : List Text :=
  ["Generate LuaLS annotations for Garry's Mod framework calls",
    "",
    "Usage: gluadoc [--config <CONFIG>] [--debug] <COMMAND>",
    "",
    "Commands:",
    "  init [--force]                                   Set up a default configuration",
    "  config                                           Display active settings",
    "  annotate <PATHS>... [--apply|--check] [--json]   Generate annotations for Lua files",
    "  classify <PATHS>... [--json]                     Show the type inferred for each file",
    "  help                                             Print this message"].map String.toList

/-- Runs a command line. -/
def runCommand (w : Workspace) (arguments : List Text) : Outcome :=
  match Invocation.ofArguments arguments with
  | .ok i => runInvocation w i
  | .error .version => .ofText w.disk .success (unlines [versionLine])
  | .error .help => .ofText w.disk .success (unlines usageLines)
  | .error (.fault f) => .ofComplaints w.disk .blockingError ["error: ".toList ++ f.message]

end Gloss
