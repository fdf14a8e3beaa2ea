import Gloss.Settings.Error

/-!
# Exit codes

What a command tells the shell.

## Main definitions

* `ExitCode`: the codes, with their numbers and words.
* `SettingsError.exit`: the code for settings that cannot be used.
-/

namespace Gloss

/-- The exit codes. -/
inductive ExitCode where
  /-- Every file has been processed. -/
  | success
  /-- Something went wrong. -/
  | generalError
  /-- Nothing can be done, since the settings cannot be read or used. -/
  | blockingError
  /-- A check found files that would change. -/
  | pendingEdits
  /-- A file cannot be written. -/
  | fileError
  /-- The settings file does not exist. -/
  | settingsError
  /-- The command broke off without a word. -/
  | aborted
  deriving Repr, DecidableEq

namespace ExitCode

/-- The number that the shell sees. -/
def number : ExitCode → Nat
  | .success => 0
  | .generalError => 1
  | .blockingError => 2
  | .pendingEdits => 3
  | .fileError => 5
  | .settingsError => 6
  | .aborted => 101

/-- The fixed word for the code. -/
def word : ExitCode → Text
  | .success => "OK".toList
  | .generalError => "GENERAL_ERROR".toList
  | .blockingError => "BLOCKING_ERROR".toList
  | .pendingEdits => "PENDING_EDITS".toList
  | .fileError => "IO_ERROR".toList
  | .settingsError => "CONFIG_ERROR".toList
  | .aborted => "ABORTED".toList

end ExitCode

/-- The exit code for settings that cannot be used. -/
def SettingsError.exit : SettingsError → ExitCode
  | .unreadable => .blockingError
  | .badPattern _ _ _ => .blockingError
  | .badScope _ _ => .blockingError
  | .missing _ => .settingsError
  | .unwritable _ _ => .fileError
  | .splitCharacter => .aborted

end Gloss
