import Gloss.Toml.Reader

/-!
# Writing TOML

The text form of a document: one line for every key, lists in brackets and inner tables in braces.

## Main definitions

* `Toml.renderValue`: the text of a value.
* `Toml.render`: the text of a document.
-/

namespace Gloss

namespace Toml

/-- The four digits of a code point below `2 ^ 16`. -/
def fourDigits (n : Nat) : Text :=
  let digits := Nat.toDigits 16 n
  List.replicate (4 - digits.length) '0' ++ digits

/-- The form of a character inside double quotes. -/
def renderChar (c : Char) : Text :=
  if c = '"' then ['\\', '"']
  else if c = '\\' then ['\\', '\\']
  else if c = '\n' then ['\\', 'n']
  else if c = '\r' then ['\\', 'r']
  else if c = '\t' then ['\\', 't']
  else if isControl c then ['\\', 'u'] ++ fourDigits c.toNat
  else [c]

/-- A text in double quotes. -/
def renderString (t : Text) : Text :=
  '"' :: t.flatMap renderChar ++ ['"']

/-- A key, in quotes where it needs them. -/
def renderKey (key : Text) : Text :=
  if !key.isEmpty && key.all isBareKey then key else renderString key

mutual

/-- The text of a value. -/
def renderValue : Value → Text
  | .text t => renderString t
  | .integer n => Text.ofInt n
  | .real written => written
  | .boolean b => if b then "true".toList else "false".toList
  | .list items => '[' :: renderItems items ++ [']']
  | .table entries => '{' :: renderEntries entries ++ ['}']

/-- The items of a list, with commas between them. -/
def renderItems : List Value → Text
  | [] => []
  | [v] => renderValue v
  | v :: rest => renderValue v ++ [',', ' '] ++ renderItems rest

/-- The entries of a table, with commas between them. -/
def renderEntries : List (Text × Value) → Text
  | [] => []
  | [(key, v)] => renderKey key ++ " = ".toList ++ renderValue v
  | (key, v) :: rest =>
    renderKey key ++ " = ".toList ++ renderValue v ++ [',', ' '] ++ renderEntries rest

end

/-- The lines of a document. -/
def renderLines : List (Text × Value) → Text
  | [] => []
  | (key, v) :: rest => renderKey key ++ " = ".toList ++ renderValue v ++ '\n' :: renderLines rest

/-- The text of a document, which is a table. -/
def render : Value → Text
  | .table entries => renderLines entries
  | _ => []

end Toml

end Gloss
