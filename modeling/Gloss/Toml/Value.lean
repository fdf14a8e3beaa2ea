import Gloss.Entries
import Gloss.Text.Basic

/-!
# Values of settings documents

What a settings document holds, once it has been read: texts, numbers, lists and tables. Documents
are layered: a later table adds to an earlier one key by key, and any other later value takes the
place of the earlier one.

## Main definitions

* `Value`: a value.
* `Value.merge`: a document with a later one on top.
-/

namespace Gloss

/-- A value of a settings document. -/
inductive Value where
  /-- A text. -/
  | text (t : Text)
  /-- A whole number. -/
  | integer (n : Int)
  /-- A number with a fraction or an exponent, as it is written. -/
  | real (written : Text)
  /-- A truth value. -/
  | boolean (b : Bool)
  /-- A list of values. -/
  | list (items : List Value)
  /-- A table; its keys differ. -/
  | table (entries : List (Text × Value))
  deriving Repr, BEq, Inhabited

namespace Value

mutual

/-- The value that remains when `new` is put on top of `old`. -/
def merge (old : Value) (new : Value) : Value :=
  match new with
  | .table newEntries =>
    match old with
    | .table oldEntries => .table (mergeEntries oldEntries newEntries)
    | _ => .table newEntries
  | other => other

/-- The entries that remain when `new` ones are put on top of `old` ones. -/
def mergeEntries (old : List (Text × Value)) (new : List (Text × Value)) :
    List (Text × Value) :=
  match new with
  | [] => old
  | (key, v) :: rest =>
    let merged :=
      match old.lookup key with
      | some o => merge o v
      | none => v
    mergeEntries (setEntry key merged old) rest

end

/-- The text, if the value is one. -/
def text? : Value → Option Text
  | .text t => some t
  | _ => none

/-- The truth value, if the value is one. -/
def boolean? : Value → Option Bool
  | .boolean b => some b
  | _ => none

/-- The natural number below `2 ^ 32`, if the value is one. -/
def nat32? : Value → Option Nat
  | .integer n => if 0 ≤ n ∧ n < (Nat.pow 2 32 : Int) then some n.toNat else none
  | _ => none

/-- The items, if the value is a list of the wanted kind. -/
def list? {α : Type} (item : Value → Option α) : Value → Option (List α)
  | .list items => items.mapM item
  | _ => none

/-- The texts by their keys, if the value is a table of texts. -/
def texts? : Value → Option (List (Text × Text))
  | .table entries => entries.mapM fun e => (text? e.2).map fun t => (e.1, t)
  | _ => none

/-- The entries of a record: those of a table, or the items of a list in the order of the names. -/
def record? (names : List Text) : Value → Option (List (Text × Value))
  | .table entries => some entries
  | .list items => some (names.zip items)
  | _ => none

/-- What is read from the entry with a name; a missing entry stands for the default, if any. -/
def field? {α : Type} (entries : List (Text × Value)) (name : Text) (read : Value → Option α)
    (default : Option α) : Option α :=
  match entries.lookup name with
  | some v => read v
  | none => default

end Value

end Gloss
