import Gloss.Pattern.Reader

/-!
# What can be wrong with settings

## Main definitions

* `SettingsError`: why settings cannot be read, written or used.
* `SettingsError.code`, `SettingsError.message`, `SettingsError.suggestions`: what the user is told.
-/

namespace Gloss

/-- Why a scope is refused. -/
inductive ScopeFault where
  /-- The name is blank. -/
  | blankName
  /-- The folder has no segment. -/
  | emptyFolder
  deriving Repr, DecidableEq

/-- The wording of the fault. -/
def ScopeFault.message : ScopeFault → Text
  | .blankName => "scope name is empty".toList
  | .emptyFolder => "folder is empty".toList

/-- Why a file cannot be written. -/
inductive WriteFault where
  /-- The settings file is there and is to be kept. -/
  | kept
  /-- Something that is no directory stands where one is to be made. -/
  | fileExists
  /-- A directory stands where the file is to be written. -/
  | isDirectory
  /-- A part of the path is no directory. -/
  | notDirectory
  /-- A part of the path does not exist. -/
  | notFound
  deriving Repr, DecidableEq

/-- The wording of the fault. -/
def WriteFault.message : WriteFault → Text
  | .kept => "configuration file already exists, use --force to overwrite".toList
  | .fileExists => "File exists (os error 17)".toList
  | .isDirectory => "Is a directory (os error 21)".toList
  | .notDirectory => "Not a directory (os error 20)".toList
  | .notFound => "No such file or directory (os error 2)".toList

/-- Why settings cannot be read, written or used. -/
inductive SettingsError where
  /-- The settings file or the environment holds something else than settings. -/
  | unreadable
  /-- The settings file that was asked for does not exist. -/
  | missing (path : Text)
  /-- The settings file cannot be written. -/
  | unwritable (path : Text) (fault : WriteFault)
  /-- A text that is to be a pattern is none. -/
  | badPattern (name pattern : Text) (fault : PatternFault)
  /-- A scope is refused. -/
  | badScope (scope : Text) (fault : ScopeFault)
  /-- A character in an environment variable is split. Nothing is said about it. -/
  | splitCharacter
  deriving Repr, DecidableEq

namespace SettingsError

/-- What the user is told. -/
def message : SettingsError → Text
  | .unreadable => "Failed to load configuration: not a settings document".toList
  | .missing path =>
    "Failed to read configuration file '".toList ++ path ++ "': file does not exist".toList
  | .unwritable path fault =>
    "Failed to write configuration file '".toList ++ path ++ "': ".toList ++ fault.message
  | .badPattern name pattern fault =>
    "Invalid pattern '".toList ++ name ++ "' (".toList ++ pattern ++ "): ".toList ++ fault.message
  | .badScope scope fault =>
    "Invalid scope rule '".toList ++ scope ++ "': ".toList ++ fault.message
  | .splitCharacter => []

/-- The fixed word for the kind of error. -/
def code : SettingsError → Text
  | .unreadable => "CONFIG_LOAD_ERROR".toList
  | .missing _ => "CONFIG_READ_ERROR".toList
  | .unwritable _ _ => "CONFIG_WRITE_ERROR".toList
  | .badPattern _ _ _ => "INVALID_PATTERN".toList
  | .badScope _ _ => "INVALID_SCOPE".toList
  | .splitCharacter => "ABORTED".toList

/-- What the user may try. -/
def suggestions : SettingsError → List Text
  | .unreadable | .missing _ =>
    ["Check that .gluadoc/settings.toml is valid TOML".toList,
      "Run 'gluadoc init --force' to regenerate the default configuration".toList]
  | .badPattern _ _ _ =>
    ["Patterns are Rust regex syntax, not Lua patterns".toList,
      "Call prefixes must end with an escaped opening parenthesis: \\(".toList]
  | .badScope _ _ => ["Every scope needs a name and a non-empty folder".toList]
  | .unwritable _ _ => ["Check write permissions for the .gluadoc directory".toList]
  | .splitCharacter => []

end SettingsError

end Gloss
