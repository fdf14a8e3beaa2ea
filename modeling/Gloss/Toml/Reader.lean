import Gloss.Number.Numeral
import Gloss.Toml.Moment
import Gloss.Toml.Value

/-!
# Reading TOML

The text form of settings documents: keys with values, under the headers of tables and of arrays of
tables.

While a document is read, every table remembers how it came about, since this decides what may
still be added to it: a table with a header of its own, one that is only implied by the header of a
table inside it, or one that dotted keys have made.

## Main definitions

* `Toml.readValue`: a value.
* `Toml.Entry`: what a key holds while a document is read.
* `Toml.read?`: a document.
-/

namespace Gloss

namespace Toml

/-- A space or a tab. -/
def isSpace (c : Char) : Bool :=
  c == ' ' || c == '\t'

/-- A character that may not stand in strings and comments. -/
def isControl (c : Char) : Bool :=
  (c.toNat < 32 && c != '\t') || c.toNat == 127

/-- What follows spaces and tabs. -/
def skipSpaces (t : Text) : Text :=
  t.dropWhile isSpace

/-- What follows a line ending, if there is one. -/
def afterLineEnd? : Text → Option Text
  | '\n' :: rest => some rest
  | '\r' :: '\n' :: rest => some rest
  | _ => none

/-- What follows a comment, after its mark. -/
def skipComment (t : Text) : Text :=
  t.dropWhile fun c => !isControl c

/-- What follows spaces, comments and line endings; `bound` is at least the number of characters. -/
def skipBlank : (bound : Nat) → Text → Text
  | 0, t => t
  | bound + 1, t =>
    match skipSpaces t with
    | '#' :: rest => skipBlank bound (skipComment rest)
    | rest =>
      match afterLineEnd? rest with
      | some rest => skipBlank bound rest
      | none => rest

/-! ## Strings -/

/-- The character with a code point of exactly `width` hexadecimal digits, and what follows. -/
def readCodePoint (width : Nat) (t : Text) : Option (Char × Text) :=
  if t.length < width then none
  else
    (Text.hexNumber? (t.take width)).bind fun n =>
      if n.isValidChar then some (Char.ofNat n, t.drop width) else none

/-- What an escape stands for, after its backslash, and what follows. -/
def readEscape : Text → Option (Char × Text)
  | 'b' :: rest => some (Char.ofNat 8, rest)
  | 't' :: rest => some ('\t', rest)
  | 'n' :: rest => some ('\n', rest)
  | 'f' :: rest => some (Char.ofNat 12, rest)
  | 'r' :: rest => some ('\r', rest)
  | '"' :: rest => some ('"', rest)
  | '\\' :: rest => some ('\\', rest)
  | 'u' :: rest => readCodePoint 4 rest
  | 'U' :: rest => readCodePoint 8 rest
  | _ => none

/-- The rest of a string in double quotes. -/
def readBasic : (bound : Nat) → Text → Option (Text × Text)
  | 0, _ => none
  | _ + 1, [] => none
  | bound + 1, c :: rest =>
    if c = '"' then some ([], rest)
    else if c = '\\' then
      (readEscape rest).bind fun (e, rest) =>
        (readBasic bound rest).map fun (t, rest) => (e :: t, rest)
    else if isControl c then none
    else (readBasic bound rest).map fun (t, rest) => (c :: t, rest)

/-- The rest of a string in single quotes. -/
def readLiteral : Text → Option (Text × Text)
  | [] => none
  | c :: rest =>
    if c = '\'' then some ([], rest)
    else if isControl c then none
    else (readLiteral rest).map fun (t, rest) => (c :: t, rest)

/-- What follows spaces, tabs and line endings. -/
def skipLineEnds : Text → Text
  | [] => []
  | '\r' :: '\n' :: rest => skipLineEnds rest
  | c :: rest => if isSpace c || c == '\n' then skipLineEnds rest else c :: rest

/-- What follows a backslash at the end of a line: all white space up to the next character, if a
line ending is in it. -/
def skipFolded? (t : Text) : Option Text :=
  (afterLineEnd? (skipSpaces t)).map skipLineEnds

/-- The end of a string in triple quotes: three quotes, after at most two that belong to the
string. -/
def readTripleEnd? (quote : Char) (t : Text) : Option (Text × Text) :=
  let quotes := (t.takeWhile (· == quote)).length
  if quotes < 3 then none
  else
    let inside := min (quotes - 3) 2
    some (List.replicate inside quote, t.drop (inside + 3))

/-- The rest of a string in triple quotes. Only in one of double quotes are escapes read. -/
def readTriple (quote : Char) : (bound : Nat) → Text → Option (Text × Text)
  | 0, _ => none
  | bound + 1, t =>
    match readTripleEnd? quote t with
    | some found => some found
    | none =>
      match afterLineEnd? t with
      | some rest => (readTriple quote bound rest).map fun (t, rest) => ('\n' :: t, rest)
      | none =>
        match t with
        | [] => none
        | c :: rest =>
          if c = '\\' ∧ quote = '"' then
            match skipFolded? rest with
            | some rest => readTriple quote bound rest
            | none =>
              (readEscape rest).bind fun (e, rest) =>
                (readTriple quote bound rest).map fun (t, rest) => (e :: t, rest)
          else if isControl c then none
          else (readTriple quote bound rest).map fun (t, rest) => (c :: t, rest)

/-- A line ending right after the opening quotes does not count. -/
def skipFirstLineEnd (t : Text) : Text :=
  (afterLineEnd? t).getD t

/-- A string, if one starts here. -/
def readString (t : Text) : Option (Text × Text) :=
  match t with
  | '"' :: '"' :: '"' :: rest => readTriple '"' (rest.length + 1) (skipFirstLineEnd rest)
  | '\'' :: '\'' :: '\'' :: rest => readTriple '\'' (rest.length + 1) (skipFirstLineEnd rest)
  | '"' :: rest => readBasic rest.length rest
  | '\'' :: rest => readLiteral rest
  | _ => none

/-! ## Keys -/

/-- A character of a key without quotes. -/
def isBareKey (c : Char) : Bool :=
  Text.isAsciiLetter c || Text.isAsciiDigit c || c == '_' || c == '-'

/-- A key, quoted on one line or bare. -/
def readSimpleKey (t : Text) : Option (Text × Text) :=
  match t with
  | '"' :: rest => readBasic rest.length rest
  | '\'' :: rest => readLiteral rest
  | _ =>
    match t.takeWhile isBareKey with
    | [] => none
    | key => some (key, t.drop key.length)

/-- The parts of a key with dots: those before the last dot and the one after it. -/
def readKeyParts : (bound : Nat) → Text → Option ((List Text × Text) × Text)
  | 0, _ => none
  | bound + 1, t =>
    (readSimpleKey (skipSpaces t)).bind fun (key, rest) =>
      match skipSpaces rest with
      | '.' :: rest =>
        (readKeyParts bound rest).map fun ((path, last), rest) => ((key :: path, last), rest)
      | rest => some (([], key), rest)

/-- Keys have fewer parts than this, and lists and tables in braces are less deep. -/
def depthLimit : Nat :=
  80

/-- A key with dots that has not too many parts. -/
def readKey (t : Text) : Option ((List Text × Text) × Text) :=
  (readKeyParts t.length t).filter fun ((path, _), _) => path.length + 1 < depthLimit

/-! ## Numbers and moments -/

/-- The digits of a number whose underscores stand between digits. -/
def digitsOf? (isDigit : Char → Bool) (t : Text) : Option Text :=
  let groups := Text.split '_' t
  if groups.all fun g => !g.isEmpty && g.all isDigit then some groups.flatten else none

/-- A digit below `base`, which is two or eight. -/
def isDigitBelow (base : Nat) (c : Char) : Bool :=
  '0' ≤ c && c.toNat < '0'.toNat + base

/-- The number that digits below `base` stand for. -/
def numberOf (base : Nat) (digits : Text) : Nat :=
  digits.foldl (fun n c => base * n + (Text.hexDigit? c).getD 0) 0

/-- A whole number of 64 bits. -/
def int64? (n : Int) : Option Value :=
  if isInt64 n then some (.integer n) else none

/-- The digits of a decimal integer: no zero in front. -/
def decimalDigits? (t : Text) : Option Text :=
  (digitsOf? Text.isAsciiDigit t).filter fun ds => ds.length == 1 || ds.head? != some '0'

/-- A whole number. -/
def integer? (t : Text) : Option Value :=
  match t with
  | '0' :: 'x' :: rest =>
    (digitsOf? (fun c => (Text.hexDigit? c).isSome) rest).bind fun ds => int64? (numberOf 16 ds)
  | '0' :: 'o' :: rest => (digitsOf? (isDigitBelow 8) rest).bind fun ds => int64? (numberOf 8 ds)
  | '0' :: 'b' :: rest => (digitsOf? (isDigitBelow 2) rest).bind fun ds => int64? (numberOf 2 ds)
  | _ =>
    let (negative, rest) := readSign t
    (decimalDigits? rest).bind fun ds =>
      let n : Int := Text.decimalNumber ds
      int64? (if negative then -n else n)

/-- The text is empty or an exponent. -/
def isExponent : Text → Bool
  | [] => true
  | c :: rest =>
    (c == 'e' || c == 'E') && (digitsOf? Text.isAsciiDigit (readSign rest).2).isSome

/-- The text is a number with a fraction or an exponent, after its sign. -/
def isReal (t : Text) : Bool :=
  t == "inf".toList || t == "nan".toList ||
    let whole := t.takeWhile fun c => Text.isAsciiDigit c || c == '_'
    let rest := t.drop whole.length
    (decimalDigits? whole).isSome &&
      match rest with
      | '.' :: rest =>
        let fraction := rest.takeWhile fun c => Text.isAsciiDigit c || c == '_'
        (digitsOf? Text.isAsciiDigit fraction).isSome && isExponent (rest.drop fraction.length)
      | [] => false
      | _ => isExponent rest

/-- A character of numbers, truth values and moments. -/
def isWordChar (c : Char) : Bool :=
  isBareKey c || c == '+' || c == '.' || c == ':'

/-- The characters of a number, truth value or moment; a space may stand between date and time. -/
def takeWord (t : Text) : Text :=
  let word := t.takeWhile isWordChar
  match t.drop word.length with
  | ' ' :: rest =>
    if (Date.take? word).any (·.2.isEmpty) && rest.head?.any Text.isAsciiDigit then
      word ++ ' ' :: rest.takeWhile isWordChar
    else word
  | _ => word

/-- A number with a fraction or an exponent is refused if it is too large for floating point. -/
def isTooLarge (word : Text) : Bool :=
  match Decimal.read? (word.filter (· != '_')) with
  | some d => !d.negative && d.toBinary64?.isNone
  | none => false

/-- The name of the one entry of the table that stands for a date, a time or both. -/
def momentName : Text :=
  "$__toml_private_datetime".toList

/-- The value of a word. -/
def valueOfWord? (word : Text) : Option Value :=
  if word = "true".toList then some (.boolean true)
  else if word = "false".toList then some (.boolean false)
  else if isReal (readSign word).2 then if isTooLarge word then none else some (.real word)
  else
    match Moment.read? word with
    | some m => some (.table [(momentName, .text m.render)])
    | none => integer? word

/-! ## Tables while they are read -/

/-- How a table came about. -/
inductive TableKind where
  /-- It has a header of its own, or is the document. -/
  | header
  /-- Only a table inside it has a header. -/
  | implied
  /-- Dotted keys have made it. -/
  | dotted
  deriving Repr, DecidableEq

/-- What a key holds while a document is read. -/
inductive Entry where
  /-- A value that nothing can be added to. -/
  | value (v : Value)
  /-- A table. -/
  | table (kind : TableKind) (entries : List (Text × Entry))
  /-- An array of tables, the one that is being read last. -/
  | tables (items : List (List (Text × Entry)))

/-- The entries of a table while it is read. -/
abbrev Entries := List (Text × Entry)

namespace Entry

mutual

/-- The value that an entry becomes. -/
def toValue : Entry → Value
  | .value v => v
  | .table _ entries => .table (entriesToValues entries)
  | .tables items => .list (itemsToValues items)

/-- The values of entries. -/
def entriesToValues : List (Text × Entry) → List (Text × Value)
  | [] => []
  | (key, e) :: rest => (key, toValue e) :: entriesToValues rest

/-- The values of the tables of an array. -/
def itemsToValues : List (List (Text × Entry)) → List Value
  | [] => []
  | entries :: rest => .table (entriesToValues entries) :: itemsToValues rest

end

end Entry

/-- The entries with one of them, present or not, changed by `f`. -/
def change (key : Text) (f : Option Entry → Option Entry) : Entries → Option Entries
  | [] => (f none).map fun e => [(key, e)]
  | (k, e) :: rest =>
    if k = key then (f (some e)).map fun e => (k, e) :: rest
    else (change key f rest).map ((k, e) :: ·)

/-- Changes the table at a path by `f`. Tables that are missing on the way are made, `dotted` ones
if the path is that of a dotted key; and such a path does not lead into tables with a header, and
ends in a dotted table. -/
def descend (dotted : Bool) (f : Entries → Option Entries) : (path : List Text) → Entries →
    Option Entries
  | [], entries => f entries
  | key :: path, entries =>
    change key (fun old =>
      match old with
      | none =>
        (descend dotted f path []).map (.table (if dotted then .dotted else .implied))
      | some (.value _) => none
      | some (.tables items) =>
        if dotted && path.isEmpty then none
        else
          match items.getLast? with
          | none => none
          | some last =>
            (descend dotted f path last).map fun last => .tables (items.dropLast ++ [last])
      | some (.table kind inner) =>
        if dotted && (kind == .header || (path.isEmpty && kind != .dotted)) then none
        else (descend dotted f path inner).map (.table kind)) entries

/-- Adds a value under a new key. -/
def addValue (key : Text) (v : Value) (entries : Entries) : Option Entries :=
  change key (fun old => if old.isSome then none else some (.value v)) entries

/-- Adds a value under a dotted key. -/
def addDotted (path : List Text) (key : Text) (v : Value) (entries : Entries) : Option Entries :=
  descend true (addValue key v) path entries

/-- Starts the table of a header. -/
def openTable (path : List Text) (key : Text) (entries : Entries) : Option Entries :=
  descend false
    (change key fun old =>
      match old with
      | none => some (.table .header [])
      | some (.table .implied inner) => some (.table .header inner)
      | some _ => none) path entries

/-- Starts the next table of an array. -/
def openItem (path : List Text) (key : Text) (entries : Entries) : Option Entries :=
  descend false
    (change key fun old =>
      match old with
      | none => some (.tables [[]])
      | some (.tables items) => some (.tables (items ++ [[]]))
      | some _ => none) path entries

/-! ## Values -/

mutual

/-- A value inside `depth` lists and tables. -/
def readValue (bound depth : Nat) (t : Text) : Option (Value × Text) :=
  match bound with
  | 0 => none
  | bound + 1 =>
    match t with
    | '[' :: rest =>
      if depth + 1 < depthLimit then
        (readItems bound (depth + 1) rest).map fun (items, rest) => (.list items, rest)
      else none
    | '{' :: rest =>
      if depth + 1 < depthLimit then
        match skipSpaces rest with
        | '}' :: rest => some (.table [], rest)
        | rest =>
          (readInline bound (depth + 1) [] rest).map fun (entries, rest) =>
            (.table (Entry.entriesToValues entries), rest)
      else none
    | _ =>
      match readString t with
      | some (s, rest) => some (.text s, rest)
      | none =>
        if t.head? == some '"' || t.head? == some '\'' then none
        else
          let word := takeWord t
          (valueOfWord? word).map fun v => (v, t.drop word.length)

/-- The items of a list, after its opening bracket or a comma. -/
def readItems (bound depth : Nat) (t : Text) : Option (List Value × Text) :=
  match bound with
  | 0 => none
  | bound + 1 =>
    match skipBlank t.length t with
    | ']' :: rest => some ([], rest)
    | start =>
      match readValue bound depth start with
      | none => none
      | some (v, rest) =>
        match skipBlank rest.length rest with
        | ']' :: rest => some ([v], rest)
        | ',' :: rest => (readItems bound depth rest).map fun (items, rest) => (v :: items, rest)
        | _ => none

/-- The entries of a table in braces, after its opening brace or a comma. -/
def readInline (bound depth : Nat) (entries : Entries) (t : Text) : Option (Entries × Text) :=
  match bound with
  | 0 => none
  | bound + 1 =>
    match readKey t with
    | some ((path, key), '=' :: rest) =>
      match readValue bound depth (skipSpaces rest) with
      | none => none
      | some (v, rest) =>
        match addDotted path key v entries with
        | none => none
        | some entries =>
          match skipSpaces rest with
          | '}' :: rest => some (entries, rest)
          | ',' :: rest => readInline bound depth entries rest
          | _ => none
    | _ => none

end

/-! ## Documents -/

/-- What follows the end of a line: spaces, a comment and the line ending, or the end of the
text. -/
def afterLine? (t : Text) : Option Text :=
  let t := match skipSpaces t with
    | '#' :: rest => skipComment rest
    | rest => rest
  match t with
  | [] => some []
  | _ => afterLineEnd? t

/-- A document while it is read: its entries and the table that keys go to. -/
structure Document where
  /-- The entries. -/
  entries : Entries
  /-- The path of the table that keys go to. -/
  current : List Text

/-- The header of a table, after its opening bracket. -/
def readHeader (doc : Document) (t : Text) : Option (Document × Text) :=
  match t with
  | '[' :: rest =>
    match readKey rest with
    | some ((path, key), ']' :: ']' :: rest) =>
      (openItem path key doc.entries).map fun entries =>
        ({ entries := entries, current := path ++ [key] }, rest)
    | _ => none
  | _ =>
    match readKey t with
    | some ((path, key), ']' :: rest) =>
      (openTable path key doc.entries).map fun entries =>
        ({ entries := entries, current := path ++ [key] }, rest)
    | _ => none

/-- A key with its value. -/
def readKeyValue (doc : Document) (t : Text) : Option (Document × Text) :=
  match readKey t with
  | some ((path, key), '=' :: rest) =>
    (readValue (2 * rest.length + 2) 0 (skipSpaces rest)).bind fun (v, rest) =>
      (descend false (addDotted path key v) doc.current doc.entries).map fun entries =>
        ({ doc with entries := entries }, rest)
  | _ => none

/-- The rest of a document, line by line. -/
def readLines : (bound : Nat) → Document → Text → Option Document
  | 0, doc, t => if t.isEmpty then some doc else none
  | bound + 1, doc, t =>
    match skipBlank t.length t with
    | [] => some doc
    | start =>
      let line := match start with
        | '[' :: rest => readHeader doc rest
        | _ => readKeyValue doc start
      match line with
      | none => none
      | some (doc, rest) =>
        match afterLine? rest with
        | none => none
        | some rest => readLines bound doc rest

/-- A document, as a table. A byte order mark at its start does not count. -/
def read? (t : Text) : Option Value :=
  let t := match t with
    | c :: rest => if c.toNat = 0xFEFF then rest else t
    | [] => t
  (readLines (t.length + 1) { entries := [], current := [] } t).map fun doc =>
    .table (Entry.entriesToValues doc.entries)

end Toml

end Gloss
