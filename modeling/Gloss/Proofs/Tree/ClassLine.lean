import Gloss.Tree
import Gloss.Proofs.Annotate.Default
import Gloss.Proofs.Note.ClassLine
import Gloss.Proofs.Words

/-!
# Class lines in texts and in trees

A line declares a class in a text if a pattern finds it, and in the documentation of a node if its
first word behind the mark is the name, colons aside. Both tests are about lines that mention the
class: white space, the mark, white space, the name and a rest. A line mentions a class in one way
only, so the tests agree on it iff they agree on that way.

They do not agree on all lines. The documentation of a node has to have white space or the end of
the line behind the name and its colons, so that a base right behind the colon hides the class. The
text has to have a gap between the mark and the name, and only knows spaces and tabs.

## Main definitions

* `MentionsClass`: a line with the mark and the name of a class.
* `CountsInTree`, `CountsInText`: when a mention counts as a declaration.

## Main results

* `MentionsClass.unique`: a line mentions a class in one way only.
* `declaresClass_classLine`: the line of a class declares it.
* `declaresClass_eq_true_iff`, `findClassLine?_isSome_iff_of_line`: the two tests.
* `any_declaresClass_iff_isSome_iff`: when the two tests agree.
-/

set_option relaxedAutoImplicit false
set_option autoImplicit false

namespace Gloss

open Text

/-- The line is white space, the mark of a class, white space, the name and a rest. -/
structure MentionsClass (line name indent gap rest : Text) : Prop where
  /-- The parts of the line. -/
  eq_append : line = indent ++ classMark ++ gap ++ name ++ rest
  /-- The line starts with white space. -/
  indent : AllBlank indent
  /-- Only white space is between the mark and the name. -/
  gap : AllBlank gap

/-- In the documentation of a node a mention counts as a declaration if white space or nothing comes
behind the name and its colons. A name with a colon at its end is never found. -/
def CountsInTree (name rest : Text) : Prop :=
  name.getLast? ≠ some ':' ∧ ∀ c ∈ (rest.dropWhile (· == ':')).head?, isBlank c = true

/-- In a text a mention counts as a declaration if its white space is spaces and tabs, with at least
one between the mark and the name, and if a space, a tab, a colon or nothing comes behind the
name. -/
def CountsInText (indent gap rest : Text) : Prop :=
  IsGap indent ∧ IsGap gap ∧ gap ≠ [] ∧ ∀ c ∈ rest.head?, c ∈ [' ', '\t', ':']

/-- The mark of a class does not start with white space. -/
lemma isBlank_head?_classMark (more : Text) :
    ∀ c ∈ (classMark ++ more).head?, isBlank c = false :=
  isBlank_head?_append (c := '-') (by decide) (by decide) more

/-- A gap is white space. -/
lemma IsGap.allBlank {w : Text} (h : IsGap w) : AllBlank w := fun c hc => by
  rcases h c hc with rfl | rfl <;> decide

section

variable {line name : Text}

/-- A line mentions a class in one way only. -/
lemma MentionsClass.unique (hne : name ≠ []) (hname : ∀ c ∈ name, isBlank c = false)
    {indent gap rest indent' gap' rest' : Text} (h : MentionsClass line name indent gap rest)
    (h' : MentionsClass line name indent' gap' rest') :
    indent = indent' ∧ gap = gap' ∧ rest = rest' := by
  -- Neither the mark nor the name starts with white space, so both gaps go as far as they can.
  have hfirst : ∀ more : Text, ∀ c ∈ (name ++ more).head?, isBlank c = false := by
    obtain ⟨d, name, rfl⟩ := List.exists_cons_of_ne_nil hne
    intro more c hc
    obtain rfl : d = c := by simpa using hc
    exact hname d List.mem_cons_self
  have heq : indent ++ (classMark ++ (gap ++ (name ++ rest))) =
      indent' ++ (classMark ++ (gap' ++ (name ++ rest'))) := by
    simpa using h.eq_append.symm.trans h'.eq_append
  obtain ⟨rfl, hafter⟩ := run_unique h.indent (isBlank_head?_classMark _) h'.indent
    (isBlank_head?_classMark _) heq
  obtain ⟨rfl, hrest⟩ := run_unique h.gap (hfirst _) h'.gap (hfirst _)
    (List.append_cancel_left hafter)
  exact ⟨rfl, rfl, List.append_cancel_left hrest⟩

/-- A line declares the class in the documentation of a node if its first word behind the mark is
the name with colons.

**Proof sketch.** White space around the line is trimmed away, the mark is taken off, and the first
word behind it is the name with its colons, since the name has no white space. The colons are taken
off as well, and no more than these, since the name does not end in one. -/
lemma declaresClass_of_word (hname : ∀ c ∈ name, isBlank c = false)
    (hlast : name.getLast? ≠ some ':') {indent gap colons b : Text} (hindent : AllBlank indent)
    (hgap : AllBlank gap) (hne : name ++ colons ≠ []) (hcolons : ∀ c ∈ colons, (c == ':') = true)
    (hb : ∀ c ∈ b.head?, isBlank c = true) :
    declaresClass name (indent ++ classMark ++ gap ++ (name ++ colons) ++ b) = true := by
  obtain ⟨u, z, rfl, hz, hu⟩ := exists_endRun isBlank b
  -- The word goes up to `u`, and `z` is left out with the white space at the end.
  have hword : ∀ c ∈ name ++ colons, isBlank c = false := by
    intro c hc
    rcases List.mem_append.mp hc with hc | hc
    · exact hname c hc
    · rw [beq_iff_eq.mp (hcolons c hc)]
      decide
  have hu_head : ∀ c ∈ u.head?, isBlank c = true := by
    cases u with
    | nil => simp
    | cons d u => exact hb
  have hend : ∀ c ∈ (classMark ++ (gap ++ (name ++ colons) ++ u)).getLast?, isBlank c = false := by
    cases hlast : u.getLast? with
    | some d => simpa [List.getLast?_append, hlast] using hu d hlast
    | none =>
      obtain rfl := List.getLast?_eq_none_iff.mp hlast
      rw [List.append_nil, ← List.append_assoc, List.getLast?_append,
        List.getLast?_eq_some_getLast hne]
      simpa using hword _ (List.getLast_mem hne)
  have htrim : trim (indent ++ classMark ++ gap ++ (name ++ colons) ++ (u ++ z)) =
      classMark ++ (gap ++ (name ++ colons) ++ u) := by
    have hmark : classMark ++ (gap ++ (name ++ colons) ++ u) ≠ [] :=
      List.append_ne_nil_of_left_ne_nil (by decide) _
    rw [← trim_append hindent hz (isBlank_head?_classMark _) hend hmark]
    simp only [List.append_assoc]
  have hbehind : after? classMark (classMark ++ (gap ++ (name ++ colons) ++ u)) =
      some (gap ++ (name ++ colons) ++ u) := after?_eq_some_iff.mpr rfl
  have hwords : words (gap ++ (name ++ colons) ++ u) = (name ++ colons) :: words u :=
    words_eq_cons_iff.mpr ⟨gap, u, rfl, hgap, hne, hword, hu_head, rfl⟩
  have hstem : dropEndWhile (· == ':') (name ++ colons) = name := by
    refine dropEndWhile_run hcolons fun c hc => ?_
    rw [beq_eq_false_iff_ne]
    rintro rfl
    exact hlast hc
  simp only [declaresClass, htrim, hbehind, hwords, hstem, beq_self_eq_true]

/-- White space at the ends of a line makes no difference. -/
lemma declaresClass_trim : declaresClass name (trim line) = declaresClass name line := by
  unfold declaresClass
  rw [trim_trim]

/-- The line of a class declares it, also if the name is empty: then its colon is the first word. -/
lemma declaresClass_classLine (hname : ∀ c ∈ name, isBlank c = false)
    (hlast : name.getLast? ≠ some ':') (base : Text) :
    declaresClass name (classLine name (some base)) = true := by
  have hspace : AllBlank [' '] ∧ AllBlank [' ', ' '] := by simp [AllBlank]; decide
  by_cases hne : name = []
  · subst hne
    have h : declaresClass [] ([] ++ classMark ++ [' ', ' '] ++ ([] ++ [':']) ++ ' ' :: base) =
        true :=
      declaresClass_of_word hname hlast (by simp [AllBlank]) hspace.2 (by simp) (by simp)
        (by simp; decide)
    simpa [classLine] using h
  · have h : declaresClass name
        ([] ++ classMark ++ [' '] ++ (name ++ []) ++ (" : ".toList ++ base)) = true :=
      declaresClass_of_word hname hlast (by simp [AllBlank]) hspace.1 (by simp [hne]) (by simp)
        (by simp; decide)
    simpa [classLine] using h

/-- **The test on the documentation of a node.**

**Proof sketch.** The line is put together from what was taken away: white space, the mark, the gap
before the first word, colons behind it, and the rest. The other direction is
`declaresClass_of_word`. -/
lemma declaresClass_eq_true_iff (hne : name ≠ []) (hname : ∀ c ∈ name, isBlank c = false) :
    declaresClass name line = true ↔
      ∃ indent gap rest, MentionsClass line name indent gap rest ∧ CountsInTree name rest := by
  constructor
  · intro h
    simp only [declaresClass] at h
    split at h
    · next behind hbehind =>
      split at h
      · next word more hwords =>
        obtain ⟨a, z, hline, ha, hz, -⟩ := exists_eq_append_trim line
        obtain ⟨gap, b, rfl, hgap, -, -, hb, -⟩ := words_eq_cons_iff.mp hwords
        obtain ⟨start, colons, rfl, hcolons, hstart⟩ := exists_endRun (· == ':') word
        rw [dropEndWhile_run hcolons hstart, beq_iff_eq] at h
        subst h
        rw [after?_eq_some_iff.mp hbehind] at hline
        have hblank : ∀ c ∈ (b ++ z).head?, isBlank c = true := by
          cases b with
          | nil => exact fun c hc => hz c (List.mem_of_head? hc)
          | cons d b => exact hb
        have hcolon : ∀ c ∈ (b ++ z).head?, (c == ':') = false := fun c hc => by
          rw [beq_eq_false_iff_ne]
          rintro rfl
          exact absurd (hblank ':' hc) (by decide)
        refine ⟨a, gap, colons ++ (b ++ z), ⟨by rw [hline]; simp, ha, hgap⟩, ?_, ?_⟩
        · intro hlast
          simpa using hstart ':' hlast
        · rwa [dropWhile_run hcolons hcolon]
      · simp at h
    · simp at h
  · rintro ⟨indent, gap, rest, ⟨rfl, hindent, hgap⟩, hlast, hrest⟩
    obtain ⟨colons, b, rfl, hcolons, hb⟩ := exists_run (· == ':') rest
    rw [dropWhile_run hcolons hb] at hrest
    have h := declaresClass_of_word hname hlast hindent hgap (by simp [hne]) hcolons hrest
    simpa using h

/-- **The test on a text of one line.**

**Proof sketch.** A text without line feeds has one line start, and none of its characters ends a
name as a line feed does. -/
lemma findClassLine?_isSome_iff_of_line (hline : '\n' ∉ line) :
    (findClassLine? line name).isSome = true ↔ size name ≤ classNameLimit ∧
      ∃ indent gap rest, MentionsClass line name indent gap rest ∧
        CountsInText indent gap rest := by
  rw [findClassLine?_isSome_iff]
  refine and_congr_right fun _ => ?_
  constructor
  · rintro ⟨a, indent, gap, rest, rfl, ha, hindent, hgap, hne, hrest⟩
    obtain rfl : a = [] := by
      rcases ha with ha | ha
      · exact ha
      · exact absurd (by simp [List.mem_of_getLast? ha]) hline
    refine ⟨indent, gap, rest, ⟨by simp, hindent.allBlank, hgap.allBlank⟩, hindent, hgap, hne, ?_⟩
    intro c hc
    have hnot : c ≠ '\n' := by
      rintro rfl
      exact hline (by simp [List.mem_of_head? hc])
    simpa [hnot] using hrest c hc
  · rintro ⟨indent, gap, rest, ⟨rfl, -, -⟩, hindent, hgap, hne, hrest⟩
    refine ⟨[], indent, gap, rest, by simp, .inl rfl, hindent, hgap, hne, fun c hc => ?_⟩
    have := hrest c hc
    simp only [List.mem_cons, List.not_mem_nil, or_false] at this ⊢
    tauto

end

/-- A tree with a declaration of the table `ENT` that has the given documentation, and with calls in
its method `SetupDataTables`. -/
def tableTree (docs : List Text) (calls : List TreeCall) : ScriptTree where
  declaration? name := if name = "ENT".toList then some 1 else none
  body? _ method := if method = "SetupDataTables".toList then some 2 else none
  callsIn _ _ := calls
  docs := [(1, docs)]

/-- The name of the type of the script `lamp.lua` has no white space. -/
lemma isBlank_of_mem_lamp (c : Char) (hc : c ∈ "lamp".toList) : isBlank c = false := by
  have hall : ("lamp".toList.all fun c => !isBlank c) = true := by decide
  simpa using List.all_eq_true.mp hall c hc

end Gloss
