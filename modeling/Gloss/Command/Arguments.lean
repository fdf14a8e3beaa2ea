import Gloss.Text.Basic

/-!
# The command line

What the words of a command line ask for. Options are read from left to right, first those before
the name of the command and then its own; an option that holds for all commands may stand in either
place, and there the later one counts. A word that is not understood ends the reading.

## Main definitions

* `Invocation`: what is asked for.
* `Stop`: why nothing is to be run.
* `Invocation.ofArguments`: reads a command line.
-/

namespace Gloss

/-- The names of the commands. -/
inductive CommandName where
  /-- Writes a settings file. -/
  | init
  /-- Shows the settings. -/
  | config
  /-- Annotates scripts. -/
  | annotate
  /-- Shows how scripts are classified. -/
  | classify
  deriving Repr, DecidableEq

/-- The options without a value. -/
inductive Switch where
  /-- More log output. -/
  | debug
  /-- Shows how the program is used. -/
  | help
  /-- Shows the version of the program. -/
  | version
  /-- Replaces a settings file. -/
  | force
  /-- Writes the edits. -/
  | apply
  /-- Only checks whether there are edits. -/
  | check
  /-- Results are for machines. -/
  | json
  deriving Repr, DecidableEq

/-- An option. -/
inductive OptionName where
  /-- Names the settings file; the option takes a value. -/
  | config
  /-- An option without a value. -/
  | switch (s : Switch)
  deriving Repr, DecidableEq

/-- Why a command line is refused. -/
inductive UsageFault where
  /-- There is no command. -/
  | missingCommand
  /-- A word that is no command. -/
  | unknownCommand (word : Text)
  /-- A word that is not expected. -/
  | unexpected (word : Text)
  /-- An option without the value that it takes. -/
  | missingValue (word : Text)
  /-- An option that stands twice in one place. -/
  | repeated (word : Text)
  /-- No path is given. -/
  | missingPaths
  /-- Two options that exclude each other. -/
  | conflict
  deriving Repr, DecidableEq

/-- What the user is told. -/
def UsageFault.message : UsageFault → Text
  | .missingCommand => "a command is required".toList
  | .unknownCommand word => "unrecognized command '".toList ++ word ++ "'".toList
  | .unexpected word => "unexpected argument '".toList ++ word ++ "' found".toList
  | .missingValue word => "a value is required for '".toList ++ word ++ "'".toList
  | .repeated word => "the argument '".toList ++ word ++ "' cannot be used multiple times".toList
  | .missingPaths => "at least one path is required".toList
  | .conflict => "the arguments '--apply' and '--check' cannot be used together".toList

/-- Why nothing is to be run. -/
inductive Stop where
  /-- The user wants to know how the program is used. -/
  | help
  /-- The user wants to know the version of the program. -/
  | version
  /-- The command line is refused. -/
  | fault (f : UsageFault)
  deriving Repr, DecidableEq

/-- What annotation is for. -/
inductive AnnotateMode where
  /-- The edits are shown. -/
  | preview
  /-- The edits are written. -/
  | apply
  /-- The edits are shown, and the exit code tells whether there are any. -/
  | check
  deriving Repr, DecidableEq

/-- A command with what it works on. -/
inductive Command where
  /-- Writes a settings file. -/
  | init (force : Bool)
  /-- Shows the settings. -/
  | config
  /-- Annotates the scripts at and below paths. -/
  | annotate (paths : List Text) (mode : AnnotateMode) (json : Bool)
  /-- Shows how the scripts at and below paths are classified. -/
  | classify (paths : List Text) (json : Bool)
  deriving Repr, DecidableEq

/-- The results are for machines. -/
def Command.wantsJson : Command → Bool
  | .annotate _ _ json => json
  | .classify _ json => json
  | _ => false

/-- What a command line asks for. -/
structure Invocation where
  /-- The settings file that is named. -/
  config : Option Text
  /-- The command. -/
  command : Command
  deriving Repr, DecidableEq

/-! ## Words -/

/-- The command with a name. -/
def CommandName.ofWord? (word : Text) : Option CommandName :=
  if word = "init".toList then some .init
  else if word = "config".toList then some .config
  else if word = "annotate".toList then some .annotate
  else if word = "classify".toList then some .classify
  else none

/-- The switches that stand after a command, or before it, with their long names. -/
def switchNames : Option CommandName → List (Text × Switch)
  | none =>
    [("debug".toList, .debug), ("help".toList, .help), ("version".toList, .version)]
  | some .init => [("debug".toList, .debug), ("help".toList, .help), ("force".toList, .force)]
  | some .config => [("debug".toList, .debug), ("help".toList, .help)]
  | some .annotate =>
    [("debug".toList, .debug), ("help".toList, .help), ("apply".toList, .apply),
      ("check".toList, .check), ("json".toList, .json)]
  | some .classify => [("debug".toList, .debug), ("help".toList, .help), ("json".toList, .json)]

/-- The switches with a letter. -/
def switchLetters : Option CommandName → List (Char × Switch)
  | none => [('h', .help), ('V', .version)]
  | some .init => [('h', .help), ('f', .force)]
  | some _ => [('h', .help)]

/-- The option with a long name. -/
def longOption? (command : Option CommandName) (name : Text) : Option OptionName :=
  if name = "config".toList then some .config
  else ((switchNames command).lookup name).map .switch

/-- The option with a letter. -/
def shortOption? (command : Option CommandName) (letter : Char) : Option OptionName :=
  if letter = 'c' then some .config
  else ((switchLetters command).lookup letter).map .switch

/-- A word of a command line. -/
inductive Word where
  /-- Two hyphens: only plain words follow. -/
  | terminator
  /-- A long name, and the value after an equals sign. -/
  | long (name : Text) (value : Option Text)
  /-- Letters. -/
  | short (letters : Text)
  /-- Neither; a single hyphen is a plain word. -/
  | plain
  deriving Repr, DecidableEq

/-- What a word is. -/
def Word.ofText : Text → Word
  | '-' :: '-' :: [] => .terminator
  | '-' :: '-' :: rest =>
    let name := rest.takeWhile (· != '=')
    match rest.drop name.length with
    | _ :: value => .long name (some value)
    | [] => .long name none
  | '-' :: c :: rest => .short (c :: rest)
  | _ => .plain

/-! ## Reading -/

/-- What has been read on one side of the command's name. -/
structure Given where
  /-- The switches. -/
  switches : List Switch := []
  /-- The settings file. -/
  config : Option Text := none
  /-- The paths. -/
  paths : List Text := []
  deriving Repr, DecidableEq

namespace Given

/-- The switch was given. -/
def has (g : Given) (s : Switch) : Bool :=
  g.switches.contains s

/-- Adds a switch; `word` is the word that holds it. -/
def addSwitch (g : Given) (word : Text) : Switch → Except Stop Given
  | .help => .error .help
  | .version => .error .version
  | s =>
    if g.has s then .error (.fault (.repeated word))
    else .ok { g with switches := s :: g.switches }

/-- Adds the name of the settings file. -/
def addConfig (g : Given) (word value : Text) : Except Stop Given :=
  if value.isEmpty then .error (.fault (.missingValue word))
  else if g.config.isSome then .error (.fault (.repeated word))
  else .ok { g with config := some value }

/-- Adds a path, if the command takes paths. -/
def addPath (g : Given) (command : CommandName) (path : Text) : Except Stop Given :=
  match command with
  | .annotate | .classify =>
    if path.isEmpty then .error (.fault (.missingValue path))
    else .ok { g with paths := g.paths ++ [path] }
  | .init | .config => .error (.fault (.unexpected path))

end Given

/-- What has been read after a word, and whether its value is the next word. -/
structure Progress where
  /-- What has been read. -/
  given : Given
  /-- The value of an option has to follow. -/
  wantsValue : Bool
  deriving Repr, DecidableEq

/-- Reads a long option. -/
def readLong (command : Option CommandName) (g : Given) (word name : Text) (value : Option Text) :
    Except Stop Progress :=
  match longOption? command name, value with
  | some .config, some v => do return { given := ← g.addConfig word v, wantsValue := false }
  | some .config, none => .ok { given := g, wantsValue := true }
  | some (.switch s), none => do return { given := ← g.addSwitch word s, wantsValue := false }
  | _, _ => .error (.fault (.unexpected word))

/-- Reads letters. What stands after the letter of an option with a value is that value, an equals
sign before it left out. -/
def readLetters (command : Option CommandName) (word : Text) :
    Given → Text → Except Stop Progress
  | g, [] => .ok { given := g, wantsValue := false }
  | g, c :: rest =>
    match shortOption? command c with
    | none => .error (.fault (.unexpected word))
    | some (.switch s) =>
      match g.addSwitch word s with
      | .error stop => .error stop
      | .ok g => readLetters command word g rest
    | some .config =>
      match rest with
      | [] => .ok { given := g, wantsValue := true }
      | '=' :: value => do return { given := ← g.addConfig word value, wantsValue := false }
      | value => do return { given := ← g.addConfig word value, wantsValue := false }

/-- Reads a word that is an option. -/
def readOption (command : Option CommandName) (g : Given) (word : Text) : Except Stop Progress :=
  match Word.ofText word with
  | .long name value => readLong command g word name value
  | .short letters => readLetters command word g letters
  | .terminator | .plain => .error (.fault (.unexpected word))

/-- The words after the command, if a command stands in front of them. -/
abbrev Remaining := Option (CommandName × List Text)

/-- Reads a plain word before the command: it has to be one. -/
def readCommandWord (g : Given) (word : Text) (rest : List Text) :
    Except Stop (Given × Remaining) :=
  match CommandName.ofWord? word with
  | some command => .ok (g, some (command, rest))
  | none =>
    if word = "help".toList then
      match rest with
      | [] => .error .help
      | [name] =>
        if (CommandName.ofWord? name).isSome || name = "help".toList then .error .help
        else .error (.fault (.unknownCommand name))
      | _ :: name :: _ => .error (.fault (.unknownCommand name))
    else .error (.fault (.unknownCommand word))

/-- Reads plain words after two hyphens. -/
def readPlain (command : Option CommandName) (g : Given) :
    List Text → Except Stop (Given × Remaining)
  | [] => .ok (g, none)
  | word :: rest =>
    match command with
    | none => .error (.fault (.unexpected word))
    | some c =>
      match g.addPath c word with
      | .error stop => .error stop
      | .ok g => readPlain command g rest

/-- Reads the words on one side of the command's name. -/
def readWords (command : Option CommandName) (g : Given) :
    List Text → Except Stop (Given × Remaining)
  | [] => .ok (g, none)
  | word :: rest =>
    match Word.ofText word with
    | .terminator => readPlain command g rest
    | .plain =>
      match command with
      | none => readCommandWord g word rest
      | some c =>
        match g.addPath c word with
        | .error stop => .error stop
        | .ok g => readWords command g rest
    | _ =>
      match readOption command g word with
      | .error stop => .error stop
      | .ok { given := g, wantsValue := false } => readWords command g rest
      | .ok { given := g, wantsValue := true } =>
        match rest with
        | [] => .error (.fault (.missingValue word))
        | value :: rest =>
          if Word.ofText value = .plain then
            match g.addConfig word value with
            | .error stop => .error stop
            | .ok g => readWords command g rest
          else .error (.fault (.missingValue word))

/-- The command that has been read. -/
def Command.ofGiven (name : CommandName) (g : Given) : Except Stop Command :=
  match name with
  | .init => .ok (.init (g.has .force))
  | .config => .ok .config
  | .annotate =>
    if g.paths.isEmpty then .error (.fault .missingPaths)
    else if g.has .apply && g.has .check then .error (.fault .conflict)
    else
      let mode : AnnotateMode :=
        if g.has .apply then .apply else if g.has .check then .check else .preview
      .ok (.annotate g.paths mode (g.has .json))
  | .classify =>
    if g.paths.isEmpty then .error (.fault .missingPaths)
    else .ok (.classify g.paths (g.has .json))

/-- Reads a command line. -/
def Invocation.ofArguments (arguments : List Text) : Except Stop Invocation :=
  match readWords none {} arguments with
  | .error stop => .error stop
  | .ok (_, none) => .error (.fault .missingCommand)
  | .ok (outer, some (name, rest)) =>
    match readWords (some name) {} rest with
    | .error stop => .error stop
    | .ok (inner, _) =>
      match Command.ofGiven name inner with
      | .error stop => .error stop
      | .ok command => .ok { config := inner.config.or outer.config, command := command }

end Gloss
