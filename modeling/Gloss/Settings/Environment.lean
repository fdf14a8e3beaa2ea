import Gloss.Number.Numeral
import Gloss.Text.Case
import Gloss.Text.Offset
import Gloss.Toml.Reader

/-!
# Settings from the environment

Environment variables with the program's beginning override settings. The rest of the name, in
lower case, names the setting, two underscores leading into a table. The value is a truth value, a
number, a quoted text, a list in brackets or a table in braces; anything else is the text itself.

Where a quoted text has escapes, as many *bytes* are kept of what stands before the first of them as
there are *characters* before it. A count of bytes that ends inside a character leaves no value at
all, and then the environment makes no document.

## Main definitions

* `Environment.resolve`: a quoted text with its escapes resolved.
* `Environment.readValue?`: the value of a variable.
* `Environment.layer?`: the document that the environment makes.
-/

namespace Gloss

namespace Environment

/-- The beginning of the variables that count, in any case. -/
def variableMark : Text :=
  "GLUADOC_".toList

/-- White space between the parts of a value. -/
def isGap (c : Char) : Bool :=
  c == ' ' || c == '\t' || c == '\n' || c == '\r' || c.toNat == 12

/-- What follows white space. -/
def skipGap (t : Text) : Text :=
  t.dropWhile isGap

/-- A character that does not end a plain word. -/
def isPlain (c : Char) : Bool :=
  c != ',' && c != '{' && c != '}' && c != '[' && c != ']'

/-- A number of at most 64 bits, with an optional sign. -/
def integer? (word : Text) : Option Int :=
  let (negative, digits) := readSign word
  if digits.isEmpty || !digits.all Text.isAsciiDigit then none
  else
    let n := Text.decimalNumber digits
    if negative then if n ≤ Nat.pow 2 63 then some (-(n : Int)) else none
    else if n < Nat.pow 2 64 then some n else none

/-- The value of a plain word. -/
def ofWord (word : Text) : Value :=
  if word.contains '.' && (Decimal.read? word).isSome then .real word
  else
    match integer? word with
    | some n => .integer n
    | none => .text word

/-- Why no value is read. -/
inductive Fault where
  /-- The text does not have the form of a value. -/
  | malformed
  /-- An escape stands where a count of bytes ends inside a character. -/
  | splitCharacter
  deriving Repr, DecidableEq

/-! ## Quoted texts -/

/-- What stands between the quotes of a quoted text, after the opening one, and what follows the
closing one. -/
def takeQuoted? : Text → Option (Text × Text)
  | [] => none
  | '"' :: rest => some ([], rest)
  | '\\' :: c :: rest => (takeQuoted? rest).map fun (t, rest) => ('\\' :: c :: t, rest)
  | c :: rest => (takeQuoted? rest).map fun (t, rest) => (c :: t, rest)

/-- The part of a text from its character number `index` on, escapes resolved. Every escape has to
stand where as many bytes as there are characters before it end a character. -/
def resolveFrom (whole : Text) : (bound index : Nat) → Text → Except Fault Text
  | 0, _, _ => .error .malformed
  | _ + 1, _, [] => .ok []
  | bound + 1, index, c :: rest =>
    if c = '\\' then
      if Text.isBoundary whole index then
        match Toml.readEscape rest with
        | none => .error .malformed
        | some (e, after) =>
          (resolveFrom whole bound (index + 1 + (rest.length - after.length)) after).map (e :: ·)
      else .error .splitCharacter
    else if Toml.isControl c then .error .malformed
    else (resolveFrom whole bound (index + 1) rest).map (c :: ·)

/-- A quoted text with its escapes resolved. Without an escape it stays as it is; before the first
one, as many bytes are kept as there are characters. -/
def resolve (t : Text) : Except Fault Text :=
  let head := t.takeWhile (· != '\\')
  let tail := t.drop head.length
  if head.any Toml.isControl then .error .malformed
  else if tail.isEmpty then .ok t
  else
    match Text.cut? head head.length with
    | none => .error .splitCharacter
    | some (kept, _) => (resolveFrom t (tail.length + 1) head.length tail).map (kept ++ ·)

/-- A quoted text, after its opening quote, and what follows it. -/
def readQuoted (t : Text) : Except Fault (Text × Text) :=
  match takeQuoted? t with
  | none => .error .malformed
  | some (inner, rest) => (resolve inner).map fun s => (s, rest)

/-- A quoted text, or a plain word of letters, digits, underscores and hyphens. -/
def readKey (t : Text) : Except Fault (Text × Text) :=
  match t with
  | '"' :: rest => readQuoted rest
  | _ =>
    match t.takeWhile Toml.isBareKey with
    | [] => .error .malformed
    | key => .ok (key, t.drop key.length)

/-! ## Values -/

mutual

/-- A value and what follows it. -/
def readFrom (bound : Nat) (t : Text) : Except Fault (Value × Text) :=
  match bound with
  | 0 => .error .malformed
  | bound + 1 =>
    let t := skipGap t
    let found : Except Fault (Value × Text) :=
      match Text.after? "true".toList t, Text.after? "false".toList t with
      | some rest, _ => .ok (.boolean true, rest)
      | none, some rest => .ok (.boolean false, rest)
      | none, none =>
        match t with
        | '{' :: rest => (readEntries bound [] rest).map fun (es, rest) => (.table es, rest)
        | '[' :: rest => (readItems bound rest).map fun (items, rest) => (.list items, rest)
        | '"' :: rest => (readQuoted rest).map fun (s, rest) => (.text s, rest)
        | '\'' :: c :: '\'' :: rest => .ok (.text [c], rest)
        | '\'' :: _ => .error .malformed
        | _ =>
          let word := t.takeWhile isPlain
          .ok (ofWord (Text.trim word), t.drop word.length)
    found.map fun (v, rest) => (v, skipGap rest)

/-- The items of a list, after its opening bracket or a comma. -/
def readItems (bound : Nat) (t : Text) : Except Fault (List Value × Text) :=
  match bound with
  | 0 => .error .malformed
  | bound + 1 =>
    match t with
    | ']' :: rest => .ok ([], rest)
    | _ =>
      match readFrom bound t with
      | .error fault => .error fault
      | .ok (v, ',' :: rest) => (readItems bound rest).map fun (items, rest) => (v :: items, rest)
      | .ok (v, ']' :: rest) => .ok ([v], rest)
      | .ok _ => .error .malformed

/-- The entries of a table, after its opening brace or a comma. -/
def readEntries (bound : Nat) (entries : List (Text × Value)) (t : Text) :
    Except Fault (List (Text × Value) × Text) :=
  match bound with
  | 0 => .error .malformed
  | bound + 1 =>
    match t with
    | '}' :: rest => .ok (entries, rest)
    | _ =>
      match readKey (skipGap t) with
      | .error fault => .error fault
      | .ok (key, rest) =>
        match skipGap rest with
        | '=' :: rest =>
          match readFrom bound rest with
          | .error fault => .error fault
          | .ok (v, ',' :: rest) => readEntries bound (setEntry key v entries) rest
          | .ok (v, '}' :: rest) => .ok (setEntry key v entries, rest)
          | .ok _ => .error .malformed
        | _ => .error .malformed

end

/-- The value of a variable; none if a character is split. -/
def readValue? (t : Text) : Option Value :=
  match readFrom (2 * t.length + 2) t with
  | .ok (v, []) => some v
  | .error .splitCharacter => none
  | _ => some (.text t)

/-! ## Variables -/

/-- The path of the setting that a variable names, if it names one. -/
def pathOf? (name : Text) : Option (List Text) :=
  let trimmed := name.trim
  if Text.eqIgnoringAsciiCase (trimmed.take variableMark.length) variableMark then
    let key := Text.replace ['_', '_'] ['.'] (Text.lower (trimmed.drop variableMark.length))
    let path := Text.split '.' key.trim
    if path.any List.isEmpty then none else some (path.map Text.lowerAscii)
  else none

/-- A value inside tables at the end of a path. -/
def nest (path : List Text) (v : Value) : Value :=
  path.foldr (fun key inner => .table [(key, inner)]) v

/-- The document that a variable makes: an empty one, if it names no setting; and none, if a
character of its value is split. -/
def ofVariable? (name value : Text) : Option Value :=
  match pathOf? name with
  | none => some (.table [])
  | some path => (readValue? value).map (nest path)

/-- The document that the variables make; later ones win. -/
def layer? (environment : List (Text × Text)) : Option Value :=
  environment.foldlM (fun layer (name, value) => (ofVariable? name value).map layer.merge)
    (.table [])

end Environment

end Gloss
