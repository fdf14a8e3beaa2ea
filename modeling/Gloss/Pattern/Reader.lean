import Gloss.Pattern.Search
import Gloss.Pattern.Size

/-!
# Reading patterns

The written form of patterns. Reading goes from left to right over the characters and keeps the
groups that are open on a stack, each with the branches and items that stand before it, so that a
closing parenthesis puts the finished group after them.

Flags such as `(?i)` hold up to the end of the group in which they stand, also across the branches
that follow. Patterns are read as they stand and over all of Unicode: there is no flag for blanks
and comments between the items, Unicode cannot be switched off, and of the properties of characters
only those with a letter of their own have a name.

Every part is read together with its depth: how deeply groups, classes, repetitions, sequences and
choices are nested in it. Patterns that are nested too deeply or need too much memory are refused.

## Main definitions

* `PatternFault`, `PatternFault.message`: why a text is not a pattern.
* `Pattern`: a pattern together with the text it was read from.
* `Pattern.read`: reads a pattern.
* `Pattern.escape`: the written form of a given text.
-/

namespace Gloss

/-- Why a text is not a pattern. -/
inductive PatternFault where
  /-- A group is not closed. -/
  | unclosedGroup
  /-- A closing parenthesis without a group. -/
  | unopenedGroup
  /-- A character class is not closed. -/
  | unclosedClass
  /-- A range whose ends are not characters, or stand in the wrong order. -/
  | badRange
  /-- A repetition with nothing to repeat. -/
  | nothingToRepeat
  /-- A count that is not closed, not a number or too large, or whose ends stand in the wrong
  order. -/
  | badCount
  /-- An escape that is not known, or not allowed in a class. -/
  | badEscape
  /-- A code point that is not written properly or is not a character. -/
  | badCodePoint
  /-- A reference to a group or a look around the place, neither of which patterns have. -/
  | unsupported
  /-- A group name that is empty, badly formed or not closed. -/
  | badGroupName
  /-- A group name that is used twice. -/
  | repeatedGroupName
  /-- Flags that are not known, repeated or not closed. -/
  | badFlags
  /-- Groups, classes and repetitions are nested too deeply. -/
  | tooDeep
  /-- The pattern needs too much memory. -/
  | tooLarge
  deriving Repr, DecidableEq

/-- The wording of the fault. -/
def PatternFault.message : PatternFault → Text
  | .unclosedGroup => "unclosed group".toList
  | .unopenedGroup => "unopened group".toList
  | .unclosedClass => "unclosed character class".toList
  | .badRange => "invalid character class range".toList
  | .nothingToRepeat => "repetition operator missing expression".toList
  | .badCount => "invalid repetition count".toList
  | .badEscape => "unrecognized escape sequence".toList
  | .badCodePoint => "invalid code point".toList
  | .unsupported => "references and look-around are not supported".toList
  | .badGroupName => "invalid capture group name".toList
  | .repeatedGroupName => "duplicate capture group name".toList
  | .badFlags => "invalid flags".toList
  | .tooDeep => "nested too deeply".toList
  | .tooLarge => "compiled form is too large".toList

/-- A pattern, with the text it was read from and the names of its groups. -/
structure Pattern where
  /-- The written form. -/
  source : Text
  /-- What it means. -/
  expr : Expr
  /-- The named groups and their numbers. -/
  names : List (Text × Nat)
  deriving Repr, DecidableEq

namespace Pattern

/-- Ways of reading that flags switch on and off. -/
structure Flags where
  /-- Letters stand for either case. -/
  ignoreCase : Bool := false
  /-- The anchors `^` and `$` hold at every line. -/
  multiLine : Bool := false
  /-- The dot stands for line feeds too. -/
  dotAll : Bool := false
  /-- Repetitions are lazy, and those marked lazy are greedy. -/
  swapGreed : Bool := false
  /-- Carriage returns end lines too. -/
  returns : Bool := false
  deriving Repr, DecidableEq

/-- A flag of a group header. -/
inductive Flag where
  | ignoreCase
  | multiLine
  | dotAll
  | swapGreed
  | returns
  | unicode
  deriving Repr, DecidableEq

/-- The flag that a letter stands for. -/
def Flag.ofChar? : Char → Option Flag
  | 'i' => some .ignoreCase
  | 'm' => some .multiLine
  | 's' => some .dotAll
  | 'U' => some .swapGreed
  | 'R' => some .returns
  | 'u' => some .unicode
  | _ => none

/-- The flags after one of them is switched. -/
def Flags.set (flags : Flags) (flag : Flag) (value : Bool) : Flags :=
  match flag with
  | .ignoreCase => { flags with ignoreCase := value }
  | .multiLine => { flags with multiLine := value }
  | .dotAll => { flags with dotAll := value }
  | .swapGreed => { flags with swapGreed := value }
  | .returns => { flags with returns := value }
  | .unicode => flags

/-- The characters that have a meaning of their own in patterns. -/
def isMeta (c : Char) : Bool :=
  ['\\', '.', '+', '*', '?', '(', ')', '|', '[', ']', '{', '}', '^', '$', '#', '&', '-',
    '~'].contains c

/-- The written form of a text: its special characters are escaped. -/
def escape (t : Text) : Text :=
  t.flatMap fun c => if isMeta c then ['\\', c] else [c]

/-- A character that stands for itself when it is escaped. -/
def isEscapable (c : Char) : Bool :=
  isMeta c ||
    (Text.isAscii c && !Text.isAsciiLetter c && !Text.isAsciiDigit c && c != '<' && c != '>')

/-- The character with a code point written in hexadecimal digits. -/
def charOfHex (digits : Text) : Except PatternFault Char :=
  match digits, Text.hexNumber? digits with
  | [], _ => .error .badCodePoint
  | _, none => .error .badCodePoint
  | _, some n => if n.isValidChar then .ok (Char.ofNat n) else .error .badCodePoint

/-- The number of digits of a code point after each of the letters that announce one. -/
def codePointWidth? : Char → Option Nat
  | 'x' => some 2
  | 'u' => some 4
  | 'U' => some 8
  | _ => none

/-- A code point after its letter: in braces, or with as many digits as the letter asks for. -/
def readCodePoint (width : Nat) (t : Text) : Except PatternFault (Char × Text) :=
  match t with
  | '{' :: rest =>
    match rest.dropWhile (· != '}') with
    | [] => .error .badCodePoint
    | _ :: after => do return (← charOfHex (rest.takeWhile (· != '}')), after)
  | _ => if t.length < width then .error .badCodePoint else do
    return (← charOfHex (t.take width), t.drop width)

/-- What an escape stands for. -/
inductive Escaped where
  | char (c : Char)
  | set (s : CharClass)
  | anchor (a : Anchor)
  deriving Repr, DecidableEq

/-- The letters that stand for a class, and the class. -/
def classOfLetter? : Char → Option CharClass
  | 'd' => some .decimal
  | 'D' => some (.compl .decimal)
  | 's' => some .blank
  | 'S' => some (.compl .blank)
  | 'w' => some .word
  | 'W' => some (.compl .word)
  | _ => none

/-- The letters that stand for a control character, and the character. -/
def controlOfLetter? : Char → Option Char
  | 'a' => some (Char.ofNat 0x07)
  | 'f' => some (Char.ofNat 0x0C)
  | 't' => some '\t'
  | 'n' => some '\n'
  | 'r' => some '\r'
  | 'v' => some (Char.ofNat 0x0B)
  | _ => none

/-- The characters that stand for an anchor, and the anchor. -/
def anchorOfLetter? : Char → Option Anchor
  | 'A' => some .textStart
  | 'z' => some .textEnd
  | 'b' => some .wordEdge
  | 'B' => some .wordInside
  | '<' => some .wordStart
  | '>' => some .wordEnd
  | _ => none

/-- The special word anchors, written in braces after the letter `b`. -/
def anchorOfName? (name : Text) : Option Anchor :=
  if name = "start".toList then some .wordStart
  else if name = "end".toList then some .wordEnd
  else if name = "start-half".toList then some .wordStartHalf
  else if name = "end-half".toList then some .wordEndHalf
  else none

/-- A word anchor after its letter `b`. Braces that hold letters or hyphens name a special one;
other braces are left for the repetition that they are. -/
def readWordAnchor (t : Text) : Except PatternFault (Escaped × Text) :=
  match t with
  | '{' :: rest =>
    match rest with
    | c :: _ =>
      if Text.isAsciiLetter c || c == '-' then
        let name := rest.takeWhile fun c => Text.isAsciiLetter c || c == '-'
        match rest.drop name.length, anchorOfName? name with
        | '}' :: after, some a => .ok (.anchor a, after)
        | _, _ => .error .badEscape
      else .ok (.anchor .wordEdge, t)
    | [] => .error .badEscape
  | _ => .ok (.anchor .wordEdge, t)

/-- An escape after its backslash. -/
def readEscape : Text → Except PatternFault (Escaped × Text)
  | [] => .error .badEscape
  | c :: rest =>
    if Text.isAsciiDigit c then .error .unsupported
    else
      match codePointWidth? c with
      | some width => do
        let (c, after) ← readCodePoint width rest
        return (.char c, after)
      | none =>
        match classOfLetter? c, controlOfLetter? c with
        | some s, _ => .ok (.set s, rest)
        | none, some c => .ok (.char c, rest)
        | none, none =>
          if isEscapable c then .ok (.char c, rest)
          else if c = 'b' then readWordAnchor rest
          else
            match anchorOfLetter? c with
            | some a => .ok (.anchor a, rest)
            | none => .error .badEscape

/-! ## Character classes -/

/-- The ASCII classes that can be named inside a class. -/
def namedClass? (name : Text) : Option CharClass :=
  let lower := CharClass.range 'a' 'z'
  let upper := CharClass.range 'A' 'Z'
  let digit := CharClass.range '0' '9'
  let graph := CharClass.range '!' '~'
  [("alnum", CharClass.unions [digit, upper, lower]),
   ("alpha", .union upper lower),
   ("ascii", .range (Char.ofNat 0) (Char.ofNat 0x7F)),
   ("blank", .union (.single '\t') (.single ' ')),
   ("cntrl", .union (.range (Char.ofNat 0) (Char.ofNat 0x1F)) (.single (Char.ofNat 0x7F))),
   ("digit", digit),
   ("graph", graph),
   ("lower", lower),
   ("print", .range ' ' '~'),
   ("punct", .diff graph (.unions [digit, upper, lower])),
   ("space", .union (.range '\t' '\r') (.single ' ')),
   ("upper", upper),
   ("word", .unions [digit, upper, lower, .single '_']),
   ("xdigit", .unions [digit, .range 'A' 'F', .range 'a' 'f'])].findSome? fun entry =>
      if entry.1.toList = name then some entry.2 else none

/-- A named class after its opening bracket and colon, if what stands there is one. -/
def readNamedClass? (t : Text) : Option (CharClass × Text) :=
  let (negated, t) := match t with
    | '^' :: rest => (true, rest)
    | _ => (false, t)
  match t.dropWhile (· != ':') with
  | ':' :: ']' :: after =>
    (namedClass? (t.takeWhile (· != ':'))).map fun set =>
      (if negated then .compl set else set, after)
  | _ => none

/-- A set operation inside a class. -/
inductive SetOp where
  | inter
  | diff
  | symmDiff
  deriving Repr, DecidableEq

/-- The set that an operation makes of two sets. -/
def SetOp.apply : SetOp → CharClass → CharClass → CharClass
  | .inter, a, b => .inter a b
  | .diff, a, b => .diff a b
  | .symmDiff, a, b => .symmDiff a b

/-- A class with its letters standing for either case, where that is asked for. -/
def foldedIf (ignoreCase : Bool) (set : CharClass) : CharClass :=
  if ignoreCase then .folded set else set

/-- One member of a class: a character or an escape. -/
def readMember : Text → Except PatternFault (Escaped × Text)
  | [] => .error .unclosedClass
  | '\\' :: rest => readEscape rest
  | c :: rest => .ok (.char c, rest)

/-- A member on its own, as a set. -/
def setOfMember : Escaped → Except PatternFault CharClass
  | .char c => .ok (.single c)
  | .set s => .ok s
  | .anchor _ => .error .badEscape

/-- The range between two members, which have to be characters in the right order. -/
def rangeOfMembers : Escaped → Escaped → Except PatternFault CharClass
  | .char a, .char b => if a ≤ b then .ok (.range a b) else .error .badRange
  | _, _ => .error .badRange

/-- A member of a class or a range of them. A hyphen before the closing bracket or before another
hyphen makes no range. -/
def readMembers (t : Text) : Except PatternFault (CharClass × Text) := do
  let (first, rest) ← readMember t
  match rest with
  | [] => .error .unclosedClass
  | '-' :: ']' :: _ => return (← setOfMember first, rest)
  | '-' :: '-' :: _ => return (← setOfMember first, rest)
  | '-' :: after =>
    let (last, rest) ← readMember after
    return (← rangeOfMembers first last, rest)
  | _ => return (← setOfMember first, rest)

/-- The depth of a part with inner parts, of which their list is one only if there are several. -/
def listDepth : (depths : List Nat) → Nat
  | [] => 0
  | [depth] => depth
  | depths => depths.foldl max 0 + 1

/-- A part of a class. -/
structure ClassPart where
  /-- Its characters. -/
  set : CharClass
  /-- How deeply it is nested. -/
  depth : Nat
  deriving Repr, DecidableEq

/-- A part without inner parts. -/
def ClassPart.ofSet (set : CharClass) : ClassPart :=
  { set := set, depth := 0 }

/-- The members that may stand right after the opening of a class and are characters there:
hyphens, and a closing bracket if there is no hyphen. -/
def readLeading (t : Text) : List ClassPart × Text :=
  match t.takeWhile (· == '-') with
  | [] =>
    match t with
    | ']' :: rest => ([.ofSet (.single ']')], rest)
    | _ => ([], t)
  | hyphens => (hyphens.map fun c => .ofSet (.single c), t.drop hyphens.length)

/-- A part of a class that stands before a set operation, with the operation. -/
abbrev Pending := Option (ClassPart × SetOp)

/-- The part that the last members of a class complete. -/
def Pending.close (pending : Pending) (ignoreCase : Bool) (members : List ClassPart) : ClassPart :=
  let set := foldedIf ignoreCase (.unions (members.map ClassPart.set).reverse)
  let depth := listDepth (members.map ClassPart.depth)
  match pending with
  | none => { set := set, depth := depth }
  | some (left, op) => { set := op.apply left.set set, depth := max left.depth depth + 1 }

/-- What stands next in a class. -/
inductive ClassToken where
  /-- The closing bracket. -/
  | close
  /-- A set operation. -/
  | op (op : SetOp)
  /-- A set of members. -/
  | members (set : CharClass)
  /-- The opening of an inner class, with its first members. -/
  | inner (negated : Bool) (leading : List ClassPart)
  deriving Repr, DecidableEq

/-- The opening of a class after its bracket: whether it is negated, its first members, and what
follows. -/
def readClassOpening (t : Text) : (Bool × List ClassPart) × Text :=
  let (negated, t) := match t with
    | '^' :: rest => (true, rest)
    | _ => (false, t)
  let (leading, t) := readLeading t
  ((negated, leading), t)

/-- The opening of an inner class, as a token. -/
def readInnerClass (t : Text) : ClassToken × Text :=
  let ((negated, leading), rest) := readClassOpening t
  (.inner negated leading, rest)

/-- Reads what stands next in a class. -/
def readClassToken (t : Text) : Except PatternFault (ClassToken × Text) :=
  match t with
  | ']' :: rest => .ok (.close, rest)
  | '[' :: ':' :: rest =>
    match readNamedClass? rest with
    | some (set, after) => .ok (.members set, after)
    | none => .ok (readInnerClass (':' :: rest))
  | '[' :: rest => .ok (readInnerClass rest)
  | '&' :: '&' :: rest => .ok (.op .inter, rest)
  | '-' :: '-' :: rest => .ok (.op .diff, rest)
  | '~' :: '~' :: rest => .ok (.op .symmDiff, rest)
  | _ => do
    let (set, rest) ← readMembers t
    return (.members set, rest)

/-- The class around a part, with what a caret at its start makes of it. -/
def ClassPart.bracketed (negated : Bool) (part : ClassPart) : ClassPart :=
  { set := if negated then .compl part.set else part.set, depth := part.depth + 1 }

/-- The rest of a class, after its opening; `members` are those read since the last set operation,
the latest first. Every call reads a character, so `bound` is at least the number of characters
that are left. -/
def readClass (ignoreCase : Bool) :
    (bound : Nat) → Pending → (members : List ClassPart) → Text →
      Except PatternFault (ClassPart × Text)
  | 0, _, _, _ => .error .unclosedClass
  | bound + 1, pending, members, t =>
    match readClassToken t with
    | .error fault => .error fault
    | .ok (.close, rest) => .ok (pending.close ignoreCase members, rest)
    | .ok (.op op, rest) =>
      readClass ignoreCase bound (some (pending.close ignoreCase members, op)) [] rest
    | .ok (.members set, rest) => readClass ignoreCase bound pending (.ofSet set :: members) rest
    | .ok (.inner negated leading, rest) =>
      match readClass ignoreCase bound none leading rest with
      | .error fault => .error fault
      | .ok (part, rest) =>
        readClass ignoreCase bound pending (part.bracketed negated :: members) rest

/-- A class after its opening bracket. -/
def readBracketed (ignoreCase : Bool) (t : Text) : Except PatternFault (ClassPart × Text) :=
  let ((negated, leading), rest) := readClassOpening t
  match readClass ignoreCase t.length none leading rest with
  | .error fault => .error fault
  | .ok (part, rest) => .ok (part.bracketed negated, rest)

/-! ## Counts, flags and group headers -/

/-- A decimal number, with white space around it, and what follows. -/
def readCount (t : Text) : Except PatternFault (Nat × Text) :=
  let t := t.dropWhile Text.isBlank
  let digits := t.takeWhile Text.isAsciiDigit
  let after := (t.drop digits.length).dropWhile Text.isBlank
  let n := Text.decimalNumber digits
  if digits.isEmpty || Nat.pow 2 32 ≤ n then .error .badCount else .ok (n, after)

/-- The bounds of a counted repetition, after its opening brace. -/
def readBounds (t : Text) : Except PatternFault ((Nat × Option Nat) × Text) := do
  let (least, rest) ← readCount t
  match rest with
  | '}' :: after => return ((least, some least), after)
  | ',' :: rest =>
    match rest with
    | '}' :: after => return ((least, none), after)
    | rest =>
      let (most, rest) ← readCount rest
      match rest with
      | '}' :: after =>
        if least ≤ most then return ((least, some most), after) else .error .badCount
      | _ => .error .badCount
  | _ => .error .badCount

/-- The flags of a group header, up to its colon or parenthesis, which is left to the caller. -/
def readFlags : (seen : List Flag) → (minus : Bool) → (afterMinus : Bool) → Flags → Text →
    Except PatternFault (Flags × Text)
  | _, _, _, _, [] => .error .badFlags
  | seen, minus, afterMinus, flags, c :: rest =>
    if c = ':' ∨ c = ')' then
      if afterMinus then .error .badFlags else .ok (flags, c :: rest)
    else if c = '-' then
      if minus then .error .badFlags else readFlags seen true true flags rest
    else
      match Flag.ofChar? c with
      | none => .error .badFlags
      | some flag =>
        if seen.contains flag then .error .badFlags
        else if minus && flag == .unicode then .error .unsupported
        else readFlags (flag :: seen) minus false (flags.set flag !minus) rest

/-- A character that may start a group name. -/
def startsGroupName (c : Char) : Bool :=
  c == '_' || Text.isLetter c

/-- A character that may stand inside a group name. -/
def continuesGroupName (c : Char) : Bool :=
  c == '_' || c == '.' || c == '[' || c == ']' || Text.isLetter c || Text.isNumeral c

/-- A group name up to its closing bracket. -/
def readGroupName (t : Text) : Except PatternFault (Text × Text) :=
  let name := t.takeWhile (· != '>')
  match name, t.drop name.length with
  | first :: more, _ :: after =>
    if startsGroupName first && more.all continuesGroupName then .ok (name, after)
    else .error .badGroupName
  | _, _ => .error .badGroupName

/-- What an opening parenthesis starts. -/
inductive Opening where
  /-- A group that is remembered, with its name if it has one. -/
  | capture (name : Option Text)
  /-- A group that is not remembered, with the flags that hold inside. -/
  | plain (flags : Flags)
  /-- No group: flags that hold from here on. -/
  | flags (flags : Flags)
  deriving Repr, DecidableEq

/-- A group header after its opening parenthesis. -/
def readOpening (flags : Flags) (t : Text) : Except PatternFault (Opening × Text) :=
  match t with
  | '?' :: '=' :: _ => .error .unsupported
  | '?' :: '!' :: _ => .error .unsupported
  | '?' :: '<' :: '=' :: _ => .error .unsupported
  | '?' :: '<' :: '!' :: _ => .error .unsupported
  | '?' :: 'P' :: '<' :: rest => do
    let (name, after) ← readGroupName rest
    return (.capture (some name), after)
  | '?' :: '<' :: rest => do
    let (name, after) ← readGroupName rest
    return (.capture (some name), after)
  | '?' :: ')' :: _ => .error .nothingToRepeat
  | '?' :: rest => do
    let (flags, after) ← readFlags [] false false flags rest
    match after with
    | ':' :: after => return (.plain flags, after)
    | _ => return (.flags flags, after.drop 1)
  | _ => .ok (.capture none, t)

/-! ## Patterns -/

/-- A part of a pattern. -/
structure Part where
  /-- What it means. -/
  expr : Expr
  /-- How deeply it is nested. -/
  depth : Nat
  deriving Repr, DecidableEq

/-- Something that a branch holds: a part, or flags, which nothing can repeat. -/
inductive Item where
  | part (p : Part)
  | flags
  deriving Repr, DecidableEq

/-- The meaning of an item, if it has one. -/
def Item.expr? : Item → Option Expr
  | .part p => some p.expr
  | .flags => none

/-- How deeply an item is nested. -/
def Item.depth : Item → Nat
  | .part p => p.depth
  | .flags => 0

/-- What has been read of the innermost group that is open. -/
structure Level where
  /-- The number of the group, if it is remembered. -/
  index : Option Nat
  /-- The flags that hold again after the group. -/
  outerFlags : Flags
  /-- The branches that are complete, the latest first. -/
  branches : List Part
  /-- The items of the branch being read, the latest first. -/
  items : List Item
  deriving Repr, DecidableEq

/-- The branch being read. -/
def Level.branch (level : Level) : Part :=
  { expr := .seqs (level.items.reverse.filterMap Item.expr?)
    depth := listDepth (level.items.map Item.depth) }

/-- All branches together. -/
def Level.choice (level : Level) : Part :=
  let all := (level.branch :: level.branches).reverse
  { expr := .choice (all.map Part.expr)
    depth := listDepth (all.map Part.depth) }

/-- The group. -/
def Level.group (level : Level) : Part :=
  let inner := level.choice
  { expr := match level.index with
      | some index => .group index inner.expr
      | none => inner.expr
    depth := inner.depth + 1 }

/-- Puts a part after what has been read. -/
def Level.push (level : Level) (p : Part) : Level :=
  { level with items := .part p :: level.items }

/-- Starts a new branch. -/
def Level.nextBranch (level : Level) : Level :=
  { level with branches := level.branch :: level.branches, items := [] }

/-- What has been read of a pattern. -/
structure State where
  /-- The flags that hold. -/
  flags : Flags
  /-- The number of the next group. -/
  nextGroup : Nat
  /-- The names of groups so far, the latest first. -/
  names : List (Text × Nat)
  /-- The innermost open group. -/
  level : Level
  /-- The groups around it, the innermost first. -/
  outer : List Level
  deriving Repr, DecidableEq

/-- Nothing has been read. -/
def State.start : State :=
  { flags := {}
    nextGroup := 1
    names := []
    level := { index := none, outerFlags := {}, branches := [], items := [] }
    outer := [] }

/-- Puts a part after what has been read. -/
def State.pushPart (s : State) (p : Part) : State :=
  { s with level := s.level.push p }

/-- Puts a pattern with nothing inside after what has been read. -/
def State.push (s : State) (e : Expr) : State :=
  s.pushPart { expr := e, depth := 0 }

/-- Opens a group. -/
def State.openGroup (s : State) (index : Option Nat) (flags : Flags) : State :=
  { s with
    flags := flags
    level := { index := index, outerFlags := s.flags, branches := [], items := [] }
    outer := s.level :: s.outer }

/-- Goes on after an opening parenthesis. -/
def State.enter (s : State) (opening : Opening) : Except PatternFault State :=
  match opening with
  | .flags flags =>
    .ok { s with flags := flags, level := { s.level with items := .flags :: s.level.items } }
  | .plain flags => .ok (s.openGroup none flags)
  | .capture none =>
    .ok { s.openGroup (some s.nextGroup) s.flags with nextGroup := s.nextGroup + 1 }
  | .capture (some name) =>
    if (s.names.lookup name).isSome then .error .repeatedGroupName
    else
      .ok { s.openGroup (some s.nextGroup) s.flags with
            nextGroup := s.nextGroup + 1
            names := (name, s.nextGroup) :: s.names }

/-- Goes on after a closing parenthesis. -/
def State.leave (s : State) : Except PatternFault State :=
  match s.outer with
  | [] => .error .unopenedGroup
  | level :: outer =>
    .ok { s with
          flags := s.level.outerFlags
          level := level.push s.level.group
          outer := outer }

/-- Repeats the last item. -/
def State.repeatLast (s : State) (least : Nat) (most : Option Nat) (greedy : Bool) :
    Except PatternFault State :=
  match s.level.items with
  | .part p :: items =>
    let e := p.expr.repeated least most (greedy != s.flags.swapGreed)
    .ok { s with
          level := { s.level with items := .part { expr := e, depth := p.depth + 1 } :: items } }
  | _ => .error .nothingToRepeat

/-- A repetition is lazy when a question mark follows it. -/
def readGreed : Text → Bool × Text
  | '?' :: rest => (false, rest)
  | rest => (true, rest)

/-- The pattern for one character. -/
def Flags.literal (flags : Flags) (c : Char) : Expr :=
  .char (foldedIf flags.ignoreCase (.single c))

/-- The pattern for an escape. -/
def Flags.escaped (flags : Flags) : Escaped → Expr
  | .char c => flags.literal c
  | .set s => .char s
  | .anchor a => .anchor a

/-- The characters that the dot does not stand for. -/
def Flags.lineBreaks (flags : Flags) : CharClass :=
  if flags.dotAll then .nothing
  else if flags.returns then .union (.single '\r') (.single '\n')
  else .single '\n'

/-- The pattern for a dot. -/
def Flags.dot (flags : Flags) : Expr :=
  .char (.compl flags.lineBreaks)

/-- The pattern for `^`. -/
def Flags.start (flags : Flags) : Expr :=
  .anchor <|
    if flags.multiLine then if flags.returns then .returnLineStart else .lineStart else .textStart

/-- The pattern for `$`. -/
def Flags.stop (flags : Flags) : Expr :=
  .anchor <|
    if flags.multiLine then if flags.returns then .returnLineEnd else .lineEnd else .textEnd

/-- Reads what starts with the character `c`; gives what has been read then and the text that is
left. -/
def State.next (s : State) (c : Char) (rest : Text) : Except PatternFault (State × Text) :=
  match c with
  | '(' => do
    let (opening, after) ← readOpening s.flags rest
    return (← s.enter opening, after)
  | ')' => do return (← s.leave, rest)
  | '|' => .ok ({ s with level := s.level.nextBranch }, rest)
  | '[' => do
    let (part, after) ← readBracketed s.flags.ignoreCase rest
    return (s.pushPart { expr := .char part.set, depth := part.depth }, after)
  | '?' => do
    let (greedy, after) := readGreed rest
    return (← s.repeatLast 0 (some 1) greedy, after)
  | '*' => do
    let (greedy, after) := readGreed rest
    return (← s.repeatLast 0 none greedy, after)
  | '+' => do
    let (greedy, after) := readGreed rest
    return (← s.repeatLast 1 none greedy, after)
  | '{' => do
    let ((least, most), after) ← readBounds rest
    let (greedy, after) := readGreed after
    return (← s.repeatLast least most greedy, after)
  | '.' => .ok (s.push s.flags.dot, rest)
  | '^' => .ok (s.push s.flags.start, rest)
  | '$' => .ok (s.push s.flags.stop, rest)
  | '\\' => do
    let (escaped, after) ← readEscape rest
    return (s.push (s.flags.escaped escaped), after)
  | _ => .ok (s.push (s.flags.literal c), rest)

/-- What has been read when the text is at its end. -/
def State.finish (s : State) : Except PatternFault (Part × List (Text × Nat)) :=
  match s.outer with
  | [] => .ok (s.level.choice, s.names)
  | _ :: _ => .error .unclosedGroup

/-- Reads the rest of a pattern. Every call reads a character, so `bound` is at least the number
of characters that are left. -/
def readFrom : (bound : Nat) → State → Text → Except PatternFault (Part × List (Text × Nat))
  | _, s, [] => s.finish
  | 0, _, _ :: _ => .error .unclosedGroup
  | bound + 1, s, c :: rest =>
    match s.next c rest with
    | .error fault => .error fault
    | .ok (s, after) => readFrom bound s after

/-- How deeply a pattern may be nested. -/
def depthLimit : Nat := 250

/-- Reads a pattern. -/
def read (source : Text) : Except PatternFault Pattern :=
  match readFrom source.length State.start source with
  | .ok (part, names) =>
    if depthLimit < part.depth then .error .tooDeep
    else if Expr.weightLimit < part.expr.weight then .error .tooLarge
    else .ok { source := source, expr := part.expr, names := names }
  | .error fault => .error fault

/-- Reads a pattern, if the text is one. -/
def read? (source : Text) : Option Pattern :=
  (read source).toOption

/-- The piece that a named group matched. -/
def named? (p : Pattern) (name : Text) (m : Match) : Option Piece :=
  (p.names.lookup name).bind m.group?

end Pattern

end Gloss
