import Gloss.Command.Exit
import Gloss.Command.Json

/-!
# Responses

The envelope of every machine-readable result, so that scripts can branch on one set of fields.

## Main definitions

* `Response`: the envelope around a result.
* `Response.success`, `Response.withExit`, `Response.ofSettingsError`: its forms.
* `Response.toJson`: its JSON form.
-/

namespace Gloss

/-- The envelope around a result. -/
structure Response (α : Type) where
  /-- The command did its work. -/
  succeeded : Bool
  /-- The fixed word for the outcome. -/
  code : Text
  /-- What the user is told. -/
  message : Text
  /-- The result, if there is one. -/
  data : Option α
  /-- What the user may try, if something went wrong. -/
  suggestions : Option (List Text)
  /-- What the shell is told. -/
  exit : ExitCode
  deriving Repr, DecidableEq

namespace Response

variable {α : Type}

/-- The word for success or failure. -/
def status (r : Response α) : Text :=
  if r.succeeded then "success".toList else "error".toList

/-- A result. -/
def success (data : α) : Response α :=
  { succeeded := true
    code := ExitCode.success.word
    message := "Operation completed successfully".toList
    data := some data
    suggestions := none
    exit := .success }

/-- The same result with another exit code and message. -/
def withExit (r : Response α) (exit : ExitCode) (message : Text) : Response α :=
  { r with code := exit.word, message := message, exit := exit }

/-- Settings that cannot be used. -/
def ofSettingsError (e : SettingsError) : Response α :=
  { succeeded := false
    code := e.code
    message := e.message
    data := none
    suggestions := some e.suggestions
    exit := e.exit }

/-- The JSON form; fields without a value are left out. -/
def toJson (item : α → JsonValue) (r : Response α) : JsonValue :=
  .ofFields <|
    [("status", .text r.status), ("code", .text r.code), ("message", .text r.message)] ++
      (r.data.map fun data => ("data", item data)).toList ++
      (r.suggestions.map fun lines => ("suggestions", .list (lines.map .text))).toList ++
      [("exit_code", .number r.exit.number)]

end Response

end Gloss
