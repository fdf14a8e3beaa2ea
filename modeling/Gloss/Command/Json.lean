import Gloss.Text.Basic

/-!
# Printing JSON

The machine-readable form of results. Objects and lists are spread over lines, with two spaces for
each level; fields keep their order, and characters outside ASCII stand as they are.

## Main definitions

* `JsonValue`: a value.
* `JsonValue.render`: its text.
-/

namespace Gloss

/-- A JSON value. -/
inductive JsonValue where
  /-- Nothing. -/
  | null
  /-- A truth value. -/
  | boolean (b : Bool)
  /-- A natural number. -/
  | number (n : Nat)
  /-- A text. -/
  | text (t : Text)
  /-- A list. -/
  | list (items : List JsonValue)
  /-- An object with its fields in order. -/
  | object (fields : List (Text × JsonValue))
  deriving Repr, BEq, Inhabited

namespace JsonValue

/-- An object with the given fields. -/
def ofFields (fields : List (String × JsonValue)) : JsonValue :=
  .object (fields.map fun f => (f.1.toList, f.2))

/-- The form of a character inside quotes. -/
def escaped (c : Char) : Text :=
  if c = '"' then ['\\', '"']
  else if c = '\\' then ['\\', '\\']
  else if c = '\n' then ['\\', 'n']
  else if c = '\r' then ['\\', 'r']
  else if c = '\t' then ['\\', 't']
  else if c.toNat = 8 then ['\\', 'b']
  else if c.toNat = 12 then ['\\', 'f']
  else if c.toNat < 32 then
    let digits := Nat.toDigits 16 c.toNat
    "\\u".toList ++ List.replicate (4 - digits.length) '0' ++ digits
  else [c]

/-- A text in quotes. -/
def quote (t : Text) : Text :=
  '"' :: t.flatMap escaped ++ ['"']

/-- The start of a line at a level. -/
def newLine (level : Nat) : Text :=
  '\n' :: List.replicate (2 * level) ' '

mutual

/-- The text of a value that stands at a level. -/
def renderAt (level : Nat) : JsonValue → Text
  | .null => "null".toList
  | .boolean b => if b then "true".toList else "false".toList
  | .number n => Text.ofNat n
  | .text t => quote t
  | .list [] => "[]".toList
  | .list (item :: items) =>
    '[' :: newLine (level + 1) ++ renderAt (level + 1) item ++ renderItems (level + 1) items ++
      newLine level ++ [']']
  | .object [] => ['\x7b', '\x7d']
  | .object ((name, v) :: fields) =>
    '\x7b' :: newLine (level + 1) ++ quote name ++ ": ".toList ++ renderAt (level + 1) v ++
      renderFields (level + 1) fields ++ newLine level ++ ['\x7d']

/-- The items of a list after the first. -/
def renderItems (level : Nat) : List JsonValue → Text
  | [] => []
  | item :: items => ',' :: newLine level ++ renderAt level item ++ renderItems level items

/-- The fields of an object after the first. -/
def renderFields (level : Nat) : List (Text × JsonValue) → Text
  | [] => []
  | (name, v) :: fields =>
    ',' :: newLine level ++ quote name ++ ": ".toList ++ renderAt level v ++
      renderFields level fields

end

/-- The text of a value. -/
def render (v : JsonValue) : Text :=
  v.renderAt 0

end JsonValue

end Gloss
