import Gloss.Note.Fragment
import Gloss.Proofs.Lines
import Gloss.Proofs.Pattern.LinePattern
import Gloss.Proofs.Pattern.Reach

/-!
# Lines that declare a class

When a text declares a class, said without a pattern: some line starts, after spaces and tabs, with
the mark of a class, a gap and the name, and the name is not the start of a longer one. The search
for such a line is for a written pattern with the name escaped. Reading it gives the parts that one
would expect, whatever characters the name has, but a name that is too long makes a pattern that is
refused, and then nothing is found in any text.

## Main definitions

* `DeclaresClass`: the text declares a class.
* `classLineParts`: the parts of the pattern of a class line.
* `classNameLimit`: how long a name may be, in bytes, for its pattern to be read.

## Main results

* `read_classLinePattern`: what the written pattern of a class line is read as.
* `findClassLine?_eq`: the search in terms of the parts.
* `findClassLine?_isSome_iff`: a class line is found iff the name is not too long and the text
  declares the class.
* `declaresClass_of_standsIn_classLine`: a text with the line of a class declares it.
-/

set_option relaxedAutoImplicit false
set_option autoImplicit false

namespace Gloss

open Text

/-- A text of spaces and tabs. -/
def IsGap (w : Text) : Prop :=
  ∀ c ∈ w, c = ' ' ∨ c = '\t'

/-- A gap stands on one line. -/
lemma IsGap.not_mem_lineFeed {w : Text} (h : IsGap w) : '\n' ∉ w := fun hmem => by
  simpa using h '\n' hmem

/-- The text declares the class: at the start of a line stand spaces and tabs, the mark of a class,
a gap that is not empty, and the name, followed by a space, a tab, a colon or the end of the
line. -/
def DeclaresClass (t name : Text) : Prop :=
  ∃ a indent gap b, t = a ++ indent ++ classMark ++ gap ++ name ++ b ∧ EndsLine a ∧ IsGap indent ∧
    IsGap gap ∧ gap ≠ [] ∧ ∀ c ∈ b.head?, c ∈ [' ', '\t', ':', '\n']

/-! ## The pattern as it is written -/

/-- What follows the name, as it is written. -/
def writtenEnd : Expr :=
  .alt (.char (.unions [.single ' ', .single '\t', .single ':'])) (.anchor .lineEnd)

/-- The parts of the pattern of a class line. -/
def classLineParts (name : Text) : List Expr :=
  [.anchor .lineStart, .anyOf writtenBlank] ++ (Expr.charParts classMark ++
    ([.someOf writtenBlank] ++ (Expr.charParts name ++ [writtenEnd])))

namespace Pattern

/-- The parts that follow the start of the line, with their depths. -/
def classLineReading (name : Text) : List Part :=
  [⟨.anyOf writtenBlank, 3⟩] ++ (textParts classMark ++
    ([⟨.someOf writtenBlank, 3⟩] ++ (textParts name ++ [⟨writtenEnd, 4⟩])))

/-- What follows the name is read as a choice. -/
lemma readsTo_writtenEnd {s : State} (hflags : s.flags = { multiLine := true }) :
    ReadsTo s "(?:[ \\t:]|$)".toList (s.pushParts [⟨writtenEnd, 4⟩]) [] :=
  @readsTo_classOrEnd s hflags " \\t:]".toList _ rfl

/-- The written pattern of a class line is read part by part. -/
lemma readsTo_classLinePattern (name : Text) :
    ReadsTo State.start (classLinePattern name)
      (atLineStart.pushParts (classLineReading name)) [] := by
  have hsplit : classLinePattern name = "(?m)^".toList ++ ("[ \\t]".toList ++ '*' :: (classMark ++
      ("[ \\t]".toList ++ '+' :: (escape name ++ "(?:[ \\t:]|$)".toList)))) := by
    have hstart : "(?m)^[ \\t]*---@class[ \\t]+".toList = "(?m)^".toList ++ ("[ \\t]".toList ++
        '*' :: (classMark ++ ("[ \\t]".toList ++ ['+']))) := by decide
    unfold classLinePattern
    rw [hstart]
    simp only [List.append_assoc, List.cons_append, List.nil_append]
  have hall : (classMark.all fun c => decide (c ∉ operators)) = true := by decide
  have hmark : ∀ c ∈ classMark, c ∉ operators :=
    fun c hc => of_decide_eq_true (List.all_eq_true.mp hall c hc)
  simp only [hsplit, classLineReading, State.pushParts_append]
  refine (readsTo_atLineStart _).trans ?_
  refine (readsTo_blanks rfl (.head _) rfl).trans ?_
  refine (readsTo_plain rfl hmark _).trans ?_
  -- The name follows the plus, and a name that starts with a question mark must not make it lazy.
  have hgreed := readGreed_escape name (by decide : '(' ≠ '?') "?:[ \\t:]|$)".toList
  refine (readsTo_blanks (State.flags_pushParts _ _) (.tail _ (.head _)) hgreed).trans ?_
  refine (readsTo_escape ?_ name _).trans (readsTo_writtenEnd ?_)
  · simp only [State.flags_pushParts]
    rfl
  · simp only [State.flags_pushParts]
    rfl

/-- The parts that are read are those of the pattern. -/
lemma classLineParts_eq (name : Text) :
    classLineParts name = .anchor .lineStart :: (classLineReading name).map Part.expr := by
  simp only [classLineParts, classLineReading, List.map_append, map_expr_textParts]
  rfl

/-- The pattern of a class line is not nested deeply. -/
lemma depth_of_mem_classLineReading {name : Text} {part : Part} (h : part ∈ classLineReading name) :
    part.depth ≤ 4 := by
  simp only [classLineReading, List.mem_append, List.mem_singleton] at h
  rcases h with rfl | h | rfl | h | rfl
  · exact Nat.le_succ 3
  · exact depth_of_mem_textParts h ▸ Nat.zero_le 4
  · exact Nat.le_succ 3
  · exact depth_of_mem_textParts h ▸ Nat.zero_le 4
  · exact Nat.le_refl 4

end Pattern

/-- The memory that the pattern of a class line needs. -/
lemma totalWeight_classLineParts (name : Text) :
    Expr.totalWeight (classLineParts name) = 752 + 32 * size name := by
  have hstart : Expr.totalWeight [.anchor .lineStart, .anyOf writtenBlank] = 152 := by decide
  have hmark : size classMark = 9 := by decide
  have hgap : Expr.totalWeight [.someOf writtenBlank] = 120 := by decide
  have hend : Expr.totalWeight [writtenEnd] = 192 := by decide
  rw [classLineParts]
  simp only [Expr.totalWeight_append, Expr.totalWeight_charParts, hstart, hmark, hgap, hend]
  omega

/-- The number of bytes that the name of a class may have for its pattern to be read. -/
def classNameLimit : Nat :=
  327656

/-- **The written pattern of a class line** is read as its parts, unless the name is so long that
the pattern needs too much memory.

**Proof sketch.** The written pattern is read part by part, and no part is nested deeply, so only
the memory decides. Each byte of the name needs 32 bytes of it, and the other parts together 752. -/
lemma read_classLinePattern (name : Text) :
    Pattern.read (classLinePattern name) =
      if size name ≤ classNameLimit then
        .ok { source := classLinePattern name
              expr := Expr.seqs (classLineParts name)
              names := [] }
      else .error .tooLarge := by
  have hread := Pattern.read_of_readsTo (Pattern.readsTo_classLinePattern name)
    (by simp [Pattern.classLineReading]) fun part hpart =>
      Nat.lt_of_le_of_lt (Pattern.depth_of_mem_classLineReading hpart) (by decide)
  have hlimit : 752 + 32 * size name ≤ Expr.weightLimit ↔ size name ≤ classNameLimit := by
    rw [Expr.weightLimit, classNameLimit]
    omega
  rw [← Pattern.classLineParts_eq, totalWeight_classLineParts] at hread
  simp only [hread, hlimit]

/-! ## Where the pattern matches -/

section

variable {p q : Cursor}

/-- The characters of a gap. -/
lemma writtenBlank_mem_iff {c : Char} : writtenBlank.mem c = true ↔ c = ' ' ∨ c = '\t' := by
  simp [writtenBlank, CharClass.unions, CharClass.mem, ← CharClass.mem_single_iff]

/-- Any number of blanks lead over a gap. -/
lemma reaches_gap_iff : (Expr.anyOf writtenBlank).Reaches p q ↔ ∃ w, p.Reads w q ∧ IsGap w := by
  simp only [Expr.anyOf, Expr.Reaches, writtenBlank_mem_iff, IsGap, Nat.zero_le,
    Option.not_mem_none, false_imp_iff, implies_true, and_true]

/-- One blank or more lead over a gap that is not empty. -/
lemma reaches_someGap_iff :
    (Expr.someOf writtenBlank).Reaches p q ↔ ∃ w, p.Reads w q ∧ IsGap w ∧ w ≠ [] := by
  have hne : ∀ w : Text, 1 ≤ w.length ↔ w ≠ [] := fun w => by
    rw [Nat.one_le_iff_ne_zero, Ne, List.length_eq_zero_iff]
  simp only [Expr.someOf, Expr.Reaches, writtenBlank_mem_iff, IsGap, hne, Option.not_mem_none,
    false_imp_iff, implies_true, and_true]

/-- What has to follow the name: a space, a tab, a colon or the end of the line. -/
lemma exists_reaches_writtenEnd_iff :
    (∃ q, writtenEnd.Reaches p q) ↔ ∀ c ∈ p.rest.head?, c ∈ [' ', '\t', ':', '\n'] := by
  rw [writtenEnd, Expr.exists_reaches_classOrEnd_iff]
  simp [CharClass.unions, CharClass.mem, ← CharClass.mem_single_iff, or_assoc]

/-- Where a line starts: at the start of the text, and behind a line feed. -/
lemma holds_lineStart_iff :
    Anchor.lineStart.holds p = true ↔ p.before = none ∨ p.before = some '\n' := by
  simp only [Anchor.holds, Bool.or_eq_true, Option.isNone_iff_eq_none, beq_iff_eq]

/-- Where the pattern of a class line leads somewhere. -/
lemma exists_reaches_classLineParts_iff {name : Text} :
    (∃ q, (Expr.seqs (classLineParts name)).Reaches p q) ↔
      (p.before = none ∨ p.before = some '\n') ∧
        ∃ indent gap b, p.rest = indent ++ classMark ++ gap ++ name ++ b ∧ IsGap indent ∧
          IsGap gap ∧ gap ≠ [] ∧ ∀ c ∈ b.head?, c ∈ [' ', '\t', ':', '\n'] := by
  have hone : ∀ e : Expr, Expr.seqs [e] = e := fun _ => rfl
  have hstart : ∀ m, (Expr.seqs [.anchor .lineStart, .anyOf writtenBlank]).Reaches p m ↔
      (p.before = none ∨ p.before = some '\n') ∧ ∃ indent, p.Reads indent m ∧ IsGap indent := by
    intro m
    rw [← reaches_gap_iff, ← holds_lineStart_iff]
    constructor
    · rintro ⟨_, ⟨hholds, rfl⟩, hgap⟩
      exact ⟨hholds, hgap⟩
    · rintro ⟨hholds, hgap⟩
      exact ⟨p, ⟨hholds, rfl⟩, hgap⟩
  simp only [classLineParts, Expr.reaches_seqs_append,
    Expr.reaches_seqs_charParts_iff, hone, hstart, reaches_someGap_iff]
  constructor
  · rintro ⟨q, m₁, ⟨hstart, indent, h₁, hindent⟩, m₂, h₂, m₃, ⟨gap, h₃, hgap, hne⟩, m₄, h₄, hend⟩
    refine ⟨hstart, indent, gap, m₄.rest, ?_, hindent, hgap, hne,
      exists_reaches_writtenEnd_iff.mp ⟨q, hend⟩⟩
    exact (((h₁.trans h₂).trans h₃).trans h₄).rest
  · rintro ⟨hstart, indent, gap, b, hrest, hindent, hgap, hne, hend⟩
    simp only [List.append_assoc] at hrest
    obtain ⟨m₁, h₁, hrest⟩ := Cursor.exists_reads hrest
    obtain ⟨m₂, h₂, hrest⟩ := Cursor.exists_reads hrest
    obtain ⟨m₃, h₃, hrest⟩ := Cursor.exists_reads hrest
    obtain ⟨m₄, h₄, rfl⟩ := Cursor.exists_reads hrest
    obtain ⟨q, hq⟩ := exists_reaches_writtenEnd_iff.mpr hend
    exact ⟨q, m₁, ⟨hstart, indent, h₁, hindent⟩, m₂, h₂, m₃, ⟨gap, h₃, hgap, hne⟩, m₄, h₄, hq⟩

end

/-- The places of a text at starts of lines are its splittings there. -/
lemma exists_in_lineStart_iff {t : Text} {offset : Nat} {P : Text → Prop} :
    (∃ p, Cursor.In t p ∧ p.offset = offset ∧ (p.before = none ∨ p.before = some '\n') ∧ P p.rest) ↔
      ∃ a b, t = a ++ b ∧ size a = offset ∧ EndsLine a ∧ P b := by
  constructor
  · rintro ⟨p, hp, hoffset, hstart, hrest⟩
    obtain ⟨a, ht, ha, hbefore⟩ := hp.exists_eq_append
    rw [hbefore, List.getLast?_eq_none_iff] at hstart
    exact ⟨a, p.rest, ht, ha ▸ hoffset, hstart, hrest⟩
  · rintro ⟨a, b, ht, ha, hends, hb⟩
    obtain ⟨p, hp, rfl⟩ := Cursor.exists_reads (p := Cursor.ofText t) (w := a) ht
    have hbefore : p.before = a.getLast? := by simpa [Cursor.ofText] using hp.before
    have hoffset : p.offset = size a := by simpa [Cursor.ofText] using hp.offset
    refine ⟨p, ⟨a, hp⟩, hoffset.trans ha, ?_, hb⟩
    rw [hbefore, List.getLast?_eq_none_iff]
    exact hends

/-- Where a match of the pattern of a class line starts. -/
lemma exists_in_reaches_classLineParts_iff {t name : Text} {offset : Nat} :
    (∃ p q, Cursor.In t p ∧ p.offset = offset ∧ (Expr.seqs (classLineParts name)).Reaches p q) ↔
      ∃ a indent gap b, t = a ++ indent ++ classMark ++ gap ++ name ++ b ∧ size a = offset ∧
        EndsLine a ∧ IsGap indent ∧ IsGap gap ∧ gap ≠ [] ∧
        ∀ c ∈ b.head?, c ∈ [' ', '\t', ':', '\n'] := by
  simp only [exists_and_left, exists_reaches_classLineParts_iff]
  refine Iff.trans (exists_in_lineStart_iff (P := fun rest => ∃ indent gap b,
    rest = indent ++ classMark ++ gap ++ name ++ b ∧ IsGap indent ∧ IsGap gap ∧ gap ≠ [] ∧
      ∀ c ∈ b.head?, c ∈ [' ', '\t', ':', '\n'])) ?_
  constructor
  · rintro ⟨a, rest, ht, ha, hends, indent, gap, b, hrest, hparts⟩
    exact ⟨a, indent, gap, b, by simp [ht, hrest], ha, hends, hparts⟩
  · rintro ⟨a, indent, gap, b, ht, ha, hends, hparts⟩
    exact ⟨a, _, by simpa using ht, ha, hends, indent, gap, b, by simp, hparts⟩

/-- The pattern of a class line remembers no groups and does not go back on what it took. -/
lemma isPlain_classLineParts (name : Text) : (Expr.seqs (classLineParts name)).isPlain = true := by
  refine Expr.isPlain_seqs fun e he => ?_
  have hchars : ∀ w : Text, e ∈ Expr.charParts w → e.isPlain = true := by
    intro w hw
    obtain ⟨c, -, rfl⟩ := List.mem_map.mp hw
    rfl
  simp only [classLineParts, List.mem_append, List.mem_cons, List.not_mem_nil, or_false] at he
  rcases he with (rfl | rfl) | he | rfl | he | rfl
  · rfl
  · rfl
  · exact hchars classMark he
  · rfl
  · exact hchars name he
  · rfl

/-! ## The search -/

section

variable {t name : Text}

/-- A match of the pattern of a class line starts where the line around its start does. -/
lemma lineStart_of_find?_classLineParts {m : Match}
    (h : (Expr.seqs (classLineParts name)).find? t = some m) :
    t.lineStart m.start.offset = m.start.offset := by
  obtain ⟨⟨p, q, hin, hoffset, hq⟩, -⟩ :=
    (Expr.find?_map_start_eq_some_iff (isPlain_classLineParts name)).mp
      (congrArg (Option.map fun m => m.start.offset) h)
  obtain ⟨a, indent, gap, b, rfl, ha, hends, -⟩ :=
    exists_in_reaches_classLineParts_iff.mp ⟨p, q, hin, hoffset, hq⟩
  have hstart :=
    lineStart_append hends (l := []) (by simp) (indent ++ classMark ++ gap ++ name ++ b)
  simpa [ha] using hstart

/-- **The search for a class** finds the first match of the parts, and nothing if the name is too
long. -/
lemma findClassLine?_eq (t name : Text) :
    findClassLine? t name = if size name ≤ classNameLimit then
      ((Expr.seqs (classLineParts name)).find? t).map fun m => m.start.offset else none := by
  rw [findClassLine?, Pattern.read?, read_classLinePattern]
  split
  · cases hfound : (Expr.seqs (classLineParts name)).find? t with
    | none => simp [Except.toOption, hfound]
    | some m => simp [Except.toOption, hfound, lineStart_of_find?_classLineParts hfound]
  · rfl

/-- Some piece of the text matches the parts iff the text declares the class. -/
lemma find?_classLineParts_isSome_iff :
    ((Expr.seqs (classLineParts name)).find? t).isSome = true ↔ DeclaresClass t name := by
  rw [Expr.find?_isSome_iff (isPlain_classLineParts name)]
  constructor
  · rintro ⟨p, q, hp, hq⟩
    obtain ⟨a, indent, gap, b, ht, -, hparts⟩ :=
      exists_in_reaches_classLineParts_iff.mp ⟨p, q, hp, rfl, hq⟩
    exact ⟨a, indent, gap, b, ht, hparts⟩
  · rintro ⟨a, indent, gap, b, ht, hparts⟩
    obtain ⟨p, q, hp, -, hq⟩ :=
      exists_in_reaches_classLineParts_iff.mpr ⟨a, indent, gap, b, ht, rfl, hparts⟩
    exact ⟨p, q, hp, hq⟩

/-- Whether a text declares a class is found out with the parts, however long the name is. -/
instance (t name : Text) : Decidable (DeclaresClass t name) :=
  decidable_of_iff _ find?_classLineParts_isSome_iff

/-- **A class line is found iff the name is not too long and the text declares the class.** -/
lemma findClassLine?_isSome_iff :
    (findClassLine? t name).isSome = true ↔ size name ≤ classNameLimit ∧ DeclaresClass t name := by
  rw [findClassLine?_eq, ← find?_classLineParts_isSome_iff]
  split
  · next hsize => simp [hsize]
  · next hsize => simp [hsize]

/-- No class line is found iff the name is too long or the text does not declare the class. -/
lemma findClassLine?_eq_none_iff :
    findClassLine? t name = none ↔ ¬ (size name ≤ classNameLimit ∧ DeclaresClass t name) := by
  rw [← findClassLine?_isSome_iff, Option.not_isSome_iff_eq_none]

end

/-! ## Class lines at starts of lines -/

/-- The text declares the class iff the mark and the name stand at the start of a line. -/
lemma declaresClass_iff_standsIn {t name : Text} :
    DeclaresClass t name ↔ ∃ indent gap, IsGap indent ∧ IsGap gap ∧ gap ≠ [] ∧
      StandsIn t (indent ++ classMark ++ gap ++ name) (· ∈ [' ', '\t', ':', '\n']) := by
  constructor
  · rintro ⟨a, indent, gap, b, ht, ha, hindent, hgap, hne, hb⟩
    exact ⟨indent, gap, hindent, hgap, hne, a, b, by simpa using ht, ha, hb⟩
  · rintro ⟨indent, gap, hindent, hgap, hne, a, b, ht, ha, hb⟩
    exact ⟨a, indent, gap, b, by simpa using ht, ha, hindent, hgap, hne, hb⟩

/-- A text with the line of a class declares it. -/
lemma declaresClass_of_standsIn_classLine {t name : Text} {base : Option Text}
    (h : StandsIn t (classLine name base) (· = '\n')) : DeclaresClass t name := by
  obtain ⟨a, b, ht, ha, hb⟩ := h
  cases base with
  | none =>
    refine ⟨a, [], [' '], b, by simpa [classLine] using ht, ha, by simp [IsGap], by simp [IsGap],
      by simp, fun c hc => ?_⟩
    rw [hb c hc]
    simp
  | some base =>
    exact ⟨a, [], [' '], " : ".toList ++ base ++ b, by simpa [classLine] using ht, ha,
      by simp [IsGap], by simp [IsGap], by simp, by simp⟩

end Gloss
