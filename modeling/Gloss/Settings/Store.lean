import Gloss.File.Disk
import Gloss.Settings.Codec
import Gloss.Settings.Environment
import Gloss.Toml.Printer

/-!
# Settings files

Where settings are kept. The settings of a workspace are in the nearest directory above the current
one that has a settings directory; a file can also be named. A file is layered over the defaults,
and the environment over the file of a workspace.

## Main definitions

* `Settings.load`: the settings of a workspace.
* `Settings.loadFrom`: the settings of a named file.
* `Settings.saveWith`, `Settings.save`: write settings to a file.
* `Settings.createFile`: writes the default settings of a workspace.
-/

namespace Gloss

namespace Settings

/-- The name of the settings directory. -/
def directoryName : Text :=
  ".gluadoc".toList

/-- The name of the settings file. -/
def fileName : Text :=
  "settings.toml".toList

/-- The settings file of the current directory. -/
def localPath : Text :=
  joinPath directoryName fileName

/-- The text of a settings file, as a document; none if it is not one. -/
def documentOf? (content : Option Text) : Option Value :=
  content.bind Toml.read?

/-- The settings that a file at a place gives, under further layers. Without a file there are only
those layers. -/
def ofFile (disk : Disk) (place : Option (List Text)) (layers : List Value) :
    Except SettingsError Settings :=
  match place.bind disk.atPlace? with
  | some (.file content) =>
    match documentOf? content with
    | some document => ofLayers (document :: layers)
    | none => .error .unreadable
  | _ => ofLayers layers

/-- The places that a directory and those above it give for a path, the nearest first. -/
def ancestors (names : List Text) : List (List Text) :=
  (List.range (names.length + 1)).reverse.map names.take

/-- The settings file of a workspace: in the nearest settings directory, if there is one. -/
def workspaceFile? (disk : Disk) (cwd : List Text) : Option (List Text) :=
  ((ancestors cwd).find? fun dir => disk.isDirectoryAt (dir ++ [directoryName])).map fun dir =>
    dir ++ [directoryName, fileName]

/-- The settings of a workspace. The environment is looked at before the file. -/
def load (disk : Disk) (cwd : List Text) (environment : List (Text × Text)) :
    Except SettingsError Settings :=
  match Environment.layer? environment with
  | none => .error .splitCharacter
  | some layer => ofFile disk (workspaceFile? disk cwd) [layer]

/-- The nearest file that a path leads to from a directory or from one above it. -/
def nearestFile? (disk : Disk) (cwd : List Text) (path : Text) : Option (List Text) :=
  ((ancestors cwd).find? fun dir => disk.isFile dir path).bind fun dir => disk.locate? dir path

/-- The settings of a named file. -/
def loadFrom (disk : Disk) (cwd : List Text) (path : Text) : Except SettingsError Settings :=
  if (disk.at? cwd path).isSome then ofFile disk (nearestFile? disk cwd path) []
  else .error (.missing path)

/-- The text of a settings file. -/
def render (s : Settings) : Text :=
  Toml.render s.toValue

/-- Writes a text to a file, with the directories on the way to it. -/
def write (disk : Disk) (cwd : List Text) (path content : Text) : Except SettingsError Disk :=
  let parent := (parentParts? (pathParts path)).getD []
  match disk.makeDirectories cwd parent with
  | .error fault => .error (.unwritable path fault)
  | .ok disk =>
    match disk.writeFile cwd path content with
    | .error fault => .error (.unwritable path fault)
    | .ok disk => .ok disk

/-- Writes the text that a printer gives for settings to a file. -/
def saveWith (print : Settings → Text) (s : Settings) (disk : Disk) (cwd : List Text)
    (path : Text) : Except SettingsError Disk :=
  write disk cwd path (print s)

/-- Writes settings to a file. -/
def save (s : Settings) (disk : Disk) (cwd : List Text) (path : Text) :
    Except SettingsError Disk :=
  saveWith render s disk cwd path

/-- The comment at the start of a new settings file. -/
def fileHeader : Text :=
  ("# gluadoc configuration\n" ++
    "#\n" ++
    "# Scopes map a global table (ENT, SWEP, ...) to the folder its types live in.\n" ++
    "# Patterns are Rust regex syntax; call prefixes must end with \\(.\n" ++
    "\n").toList

/-- Writes the default settings of the current directory. A file that is there is only replaced if
that is wanted. -/
def createFile (disk : Disk) (cwd : List Text) (force : Bool) : Except SettingsError Disk :=
  if !force && (disk.at? cwd localPath).isSome then .error (.unwritable localPath .kept)
  else write disk cwd localPath (fileHeader ++ Settings.default.render)

end Settings

end Gloss
