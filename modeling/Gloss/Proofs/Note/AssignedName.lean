import Mathlib.Data.List.Basic
import Gloss.Note.Owner
import Gloss.Proofs.Words

/-!
# Names that are assigned

When the value of an assignment is a bare name, said of the text behind the equals sign. The value
ends with its line or before a comment. Up to there it is white space and the name, and behind the
name there may be semicolons, with white space before and after them but not between them.

## Main definitions

* `EndsValue`: where a value ends.
* `IsBareName`: a value is a bare name.

## Main results

* `valuePart_eq`: the part of a text that is the value.
* `assignedName?_eq_some_iff`: the name that is assigned is the one that the value is.
-/

set_option relaxedAutoImplicit false
set_option autoImplicit false

namespace Gloss

open Text

variable {name value a b w rest : Text} {c : Char}

/-! ## Identifiers -/

/-- The numbers of the characters of identifiers. -/
lemma toNat_of_continuesIdentifier (h : continuesIdentifier c = true) :
    (97 ≤ c.toNat ∧ c.toNat ≤ 122) ∨ (65 ≤ c.toNat ∧ c.toNat ≤ 90) ∨ c.toNat = 95 ∨
      (48 ≤ c.toNat ∧ c.toNat ≤ 57) := by
  simp only [continuesIdentifier, startsIdentifier, Bool.or_eq_true, Bool.and_eq_true,
    decide_eq_true_eq, beq_iff_eq, Char.le_def, UInt32.le_iff_toNat_le] at h
  rcases h with ((h | h) | rfl) | h
  · exact .inl h
  · exact .inr (.inl h)
  · exact .inr (.inr (.inl rfl))
  · exact .inr (.inr (.inr h))

/-- A character of an identifier is not white space. -/
lemma isBlank_of_continuesIdentifier (h : continuesIdentifier c = true) : isBlank c = false := by
  have hrange := toNat_of_continuesIdentifier h
  simp only [isBlank, Bool.or_eq_false_iff, Bool.and_eq_false_iff, decide_eq_false_iff_not,
    beq_eq_false_iff_ne]
  omega

/-- A character of an identifier is a word character. -/
lemma isWord_of_continuesIdentifier (h : continuesIdentifier c = true) : isWord c = true := by
  have hascii : isAscii c = true := by
    have hrange := toNat_of_continuesIdentifier h
    rw [isAscii, decide_eq_true_eq]
    omega
  simp only [continuesIdentifier, startsIdentifier] at h
  simp only [isWord, hascii, if_true, isAsciiLetter, isAsciiDigit]
  grind

/-- All characters of an identifier may stand behind its first one. -/
lemma continuesIdentifier_of_mem (h : isIdentifier name = true) (hc : c ∈ name) :
    continuesIdentifier c = true := by
  cases name with
  | nil => simp at hc
  | cons d w =>
    simp only [isIdentifier, Bool.and_eq_true, List.all_eq_true] at h
    rcases List.mem_cons.mp hc with rfl | hc
    · rw [continuesIdentifier, h.1, Bool.true_or]
    · exact h.2 c hc

/-- An identifier has no white space. -/
lemma isBlank_of_mem_isIdentifier (h : isIdentifier name = true) (hc : c ∈ name) :
    isBlank c = false :=
  isBlank_of_continuesIdentifier (continuesIdentifier_of_mem h hc)

/-- An identifier is not empty. -/
lemma ne_nil_of_isIdentifier (h : isIdentifier name = true) : name ≠ [] := by
  rintro rfl
  simp [isIdentifier] at h

/-- An identifier has no white space at its ends. -/
lemma trim_of_isIdentifier (h : isIdentifier name = true) : name.trim = name :=
  trim_of_ends (fun _ hc => isBlank_of_mem_isIdentifier h (List.mem_of_mem_head? hc))
    fun _ hc => isBlank_of_mem_isIdentifier h (List.mem_of_getLast? hc)

/-! ## Where a value ends -/

namespace Text

/-- What comes behind the part up to a mark is nothing or starts with the mark. -/
lemma exists_eq_append_upTo (mark t : Text) :
    ∃ rest, t = upTo mark t ++ rest ∧ (rest = [] ∨ ∃ later, rest = mark ++ later) := by
  induction t with
  | nil => exact ⟨[], rfl, .inl rfl⟩
  | cons d t ih =>
    rw [upTo]
    split
    · next hmark =>
      obtain ⟨later, hlater⟩ := List.isPrefixOf_iff_prefix.mp hmark
      exact ⟨d :: t, rfl, .inr ⟨later, hlater.symm⟩⟩
    · obtain ⟨rest, ht, hrest⟩ := ih
      exact ⟨rest, congrArg (d :: ·) ht, hrest⟩

/-- A part without the first character of the mark is passed over. -/
lemma upTo_append_of_not_mem {mark : Text} (h : c ∉ a) (b : Text) :
    upTo (c :: mark) (a ++ b) = a ++ upTo (c :: mark) b := by
  induction a with
  | nil => rfl
  | cons d a ih =>
    simp only [List.mem_cons, not_or] at h
    have hstarts : (c :: mark).isPrefixOf (d :: (a ++ b)) = false := by
      simp [List.isPrefixOf, h.1]
    rw [List.cons_append, upTo, hstarts]
    exact congrArg (d :: ·) (ih h.2)

/-- Every text is what is kept of it and a run at its end. -/
lemma exists_eq_append_dropEndWhile (p : Char → Bool) (t : Text) :
    ∃ run, t = dropEndWhile p t ++ run ∧ ∀ c ∈ run, p c = true := by
  obtain ⟨x, run, rfl, hrun, hx⟩ := exists_endRun p t
  exact ⟨run, by rw [dropEndWhile_run hrun hx], hrun⟩

end Text

/-- A value ends with the text, with its line, or before a comment. -/
def EndsValue (rest : Text) : Prop :=
  rest = [] ∨ (∃ later, rest = '\n' :: later) ∨ ∃ later, rest = "--".toList ++ later

/-- The part of a text that is the value of an assignment. -/
def valuePart (value : Text) : Text :=
  Text.upTo "--".toList (value.takeWhile (· != '\n'))

/-- The value is on one line, and what follows it ends it. -/
lemma exists_eq_append_valuePart (value : Text) :
    ∃ rest, value = valuePart value ++ rest ∧ EndsValue rest ∧ '\n' ∉ valuePart value := by
  obtain ⟨rest, hline, hrest⟩ := exists_eq_append_upTo "--".toList (value.takeWhile (· != '\n'))
  have hvalue : value = valuePart value ++ (rest ++ value.dropWhile (· != '\n')) := by
    rw [← List.append_assoc, valuePart, ← hline, List.takeWhile_append_dropWhile]
  refine ⟨_, hvalue, ?_, fun hmem => ?_⟩
  · rcases hrest with rfl | ⟨later, rfl⟩
    · rw [List.nil_append]
      cases hdrop : value.dropWhile (· != '\n') with
      | nil => exact .inl rfl
      | cons d later =>
        have hd := List.head_dropWhile_not (· != '\n') (l := value) (by simp [hdrop])
        obtain rfl : d = '\n' := by simpa [hdrop] using hd
        exact .inr (.inl ⟨later, rfl⟩)
    · exact .inr (.inr ⟨later ++ value.dropWhile (· != '\n'), List.append_assoc _ _ _⟩)
  · have hmem : '\n' ∈ value.takeWhile (· != '\n') := by
      rw [hline]
      exact List.mem_append_left _ hmem
    simpa using List.all_eq_true.mp List.all_takeWhile '\n' hmem

/-- **The part of a text that is the value**, if it has no hyphen: what is on the line before a
comment. -/
lemma valuePart_eq (hline : '\n' ∉ w) (hhyphen : '-' ∉ w) (hrest : EndsValue rest) :
    valuePart (w ++ rest) = w := by
  have hkept : ∀ c ∈ w, (c != '\n') = true := by
    intro c hc
    rw [bne_iff_ne]
    rintro rfl
    exact hline hc
  have hmark : "--".toList = '-' :: ['-'] := rfl
  rw [valuePart, List.takeWhile_append_of_pos hkept, hmark, upTo_append_of_not_mem hhyphen]
  rcases hrest with rfl | ⟨later, rfl⟩ | ⟨later, rfl⟩
  · simp [upTo]
  · simp [upTo]
  · simp [upTo]

/-! ## Bare names -/

/-- The value is a bare name: on its line there is nothing else but white space, semicolons behind
the name and a comment. Some words are no names of tables. -/
def IsBareName (value name : Text) : Prop :=
  (isIdentifier name = true ∧ name ∉ notTables) ∧ ∃ indent blanks marks tail rest,
    value = indent ++ (name ++ (blanks ++ (marks ++ tail))) ++ rest ∧ EndsValue rest ∧
      (AllBlank indent ∧ AllBlank blanks ∧ (∀ c ∈ marks, c = ';') ∧ AllBlank tail) ∧
      '\n' ∉ indent ++ (name ++ (blanks ++ (marks ++ tail)))

/-- A bare name is an identifier. -/
lemma IsBareName.isIdentifier (h : IsBareName value name) : isIdentifier name = true :=
  h.1.1

/-- White space around an identifier and the semicolons behind it is left out. Without semicolons
the white space behind the identifier goes too. -/
lemma exists_trim_eq {indent blanks marks tail : Text} (hname : isIdentifier name = true)
    (hindent : AllBlank indent) (hblanks : AllBlank blanks) (hmarks : ∀ c ∈ marks, c = ';')
    (htail : AllBlank tail) :
    ∃ kept, trim (indent ++ (name ++ (blanks ++ (marks ++ tail)))) = name ++ kept ++ marks ∧
      AllBlank kept := by
  have hne := ne_nil_of_isIdentifier hname
  have hfirst : ∀ x, ∀ c ∈ (name ++ x).head?, isBlank c = false := by
    intro x c hc
    rw [List.head?_append_of_ne_nil _ hne] at hc
    exact isBlank_of_mem_isIdentifier hname (List.mem_of_mem_head? hc)
  rcases List.eq_nil_or_concat marks with rfl | ⟨front, mark, rfl⟩
  · have hblank : AllBlank (blanks ++ tail) :=
      fun c hc => (List.mem_append.mp hc).elim (hblanks c) (htail c)
    have htrim := trim_append hindent hblank (by simpa using hfirst [])
      (fun c hc => isBlank_of_mem_isIdentifier hname (List.mem_of_getLast? hc)) hne
    exact ⟨[], by simpa using htrim, by simp [AllBlank]⟩
  · have hlast : ∀ c ∈ (name ++ (blanks ++ (front ++ [mark]))).getLast?, isBlank c = false := by
      intro c hc
      obtain rfl : mark = c := by simpa using hc
      rw [hmarks mark (by simp)]
      decide
    have htrim := trim_append hindent htail (hfirst (blanks ++ (front ++ [mark]))) hlast (by simp)
    exact ⟨blanks, by simpa using htrim, hblanks⟩

/-- White space and semicolons around an identifier are left out. -/
lemma trimEnd_dropEndWhile_trim {indent blanks marks tail : Text} (hname : isIdentifier name = true)
    (hindent : AllBlank indent) (hblanks : AllBlank blanks) (hmarks : ∀ c ∈ marks, c = ';')
    (htail : AllBlank tail) :
    (dropEndWhile (· == ';') (trim (indent ++ (name ++ (blanks ++ (marks ++ tail)))))).trimEnd =
      name := by
  obtain ⟨kept, htrim, hkept⟩ := exists_trim_eq hname hindent hblanks hmarks htail
  have hmark : ∀ c ∈ (name ++ kept).getLast?, (c == ';') = false := by
    intro c hc
    rw [beq_eq_false_iff_ne]
    rintro rfl
    rcases List.mem_append.mp (List.mem_of_getLast? hc) with hc | hc
    · exact absurd (continuesIdentifier_of_mem hname hc) (by decide)
    · exact absurd (hkept ';' hc) (by decide)
  rw [htrim, dropEndWhile_run (fun c hc => beq_iff_eq.mpr (hmarks c hc)) hmark]
  exact dropEndWhile_run hkept fun c hc =>
    isBlank_of_mem_isIdentifier hname (List.mem_of_getLast? hc)

/-- **The name that is assigned** is the one that the value is.

**Proof sketch.** What is taken away from the value, from both ends, is a comment or the rest of the
lines, white space, semicolons and white space. Put back around the name this gives the value.
Conversely neither the name nor what is around it has a hyphen, so the comment is found where it
starts. -/
lemma assignedName?_eq_some_iff : assignedName? value = some name ↔ IsBareName value name := by
  have hcheck : assignedName? value = some name ↔
      (isIdentifier name = true ∧ name ∉ notTables) ∧
        (dropEndWhile (· == ';') (valuePart value).trim).trimEnd = name := by
    simp only [assignedName?, valuePart, Option.ite_none_right_eq_some, Option.some.injEq,
      Bool.and_eq_true, Bool.not_eq_true', List.contains_eq_mem, decide_eq_false_iff_not]
    constructor
    · rintro ⟨hname, rfl⟩
      exact ⟨hname, rfl⟩
    · rintro ⟨hname, rfl⟩
      exact ⟨hname, rfl⟩
  rw [hcheck]
  refine and_congr_right fun hname => ⟨fun h => ?_, ?_⟩
  · obtain ⟨rest, hvalue, hrest, hline⟩ := exists_eq_append_valuePart value
    obtain ⟨indent, tail, htrim, hindent, htail, -⟩ := exists_eq_append_trim (valuePart value)
    obtain ⟨marks, hmarks, hall⟩ := exists_eq_append_dropEndWhile (· == ';') (valuePart value).trim
    obtain ⟨blanks, hblanks, hblank⟩ :=
      exists_eq_append_dropEndWhile isBlank (dropEndWhile (· == ';') (valuePart value).trim)
    have hkept : dropEndWhile (· == ';') (valuePart value).trim = name ++ blanks := by
      rw [← h]
      exact hblanks
    rw [hkept] at hmarks
    have hpart : valuePart value = indent ++ (name ++ (blanks ++ (marks ++ tail))) := by
      rw [hmarks] at htrim
      simpa using htrim
    rw [hpart] at hvalue hline
    exact ⟨indent, blanks, marks, tail, rest, hvalue, hrest,
      ⟨hindent, hblank, fun c hc => beq_iff_eq.mp (hall c hc), htail⟩, hline⟩
  · rintro ⟨indent, blanks, marks, tail, rest, rfl, hrest, ⟨hindent, hblanks, hmarks, htail⟩, hline⟩
    have hblank : ∀ {w : Text}, AllBlank w → '-' ∉ w := fun hw hc => absurd (hw '-' hc) (by decide)
    have hhyphen : '-' ∉ indent ++ (name ++ (blanks ++ (marks ++ tail))) := by
      simp only [List.mem_append, not_or]
      exact ⟨hblank hindent, fun hc => absurd (continuesIdentifier_of_mem hname.1 hc) (by decide),
        hblank hblanks, fun hc => absurd (hmarks '-' hc) (by decide), hblank htail⟩
    rw [valuePart_eq hline hhyphen hrest]
    exact trimEnd_dropEndWhile_trim hname.1 hindent hblanks hmarks htail

end Gloss
