import Gloss.Proofs.Note.ClassLine

/-!
# Where a class line is found

Which line the search for a class gives, said of the lines of the text: the first one that reads as
a class line of the name. The name is any text on one line, also one with characters that have a
meaning of their own in patterns, as long as it is not too long to be searched for. The class of a
longer name is found nowhere, not even on the line that is written for it.

## Main definitions

* `IsClassLine`: the line declares the class.
* `ClassLineAt`: a line that declares the class starts at the offset.

## Main results

* `classLineAt_iff_exists_reaches`: the places at which the pattern of a class line matches are the
  starts of class lines.
* `findClassLine?_eq_first_classLine`: the search gives the first class line.
-/

set_option relaxedAutoImplicit false
set_option autoImplicit false

namespace Gloss

open Text

/-! ## Class lines -/

/-- The line declares the class: spaces and tabs, the mark of a class, a gap that is not empty and
the name, and then nothing or a rest that starts with a space, a tab or a colon. -/
def IsClassLine (line name : Text) : Prop :=
  ∃ indent gap rest, line = indent ++ classMark ++ gap ++ name ++ rest ∧ IsGap indent ∧ IsGap gap ∧
    gap ≠ [] ∧ ∀ c ∈ rest.head?, c ∈ [' ', '\t', ':']

/-- A line that declares the class starts at the offset, and goes up to the next line feed or the
end of the text. -/
def ClassLineAt (t name : Text) (offset : Nat) : Prop :=
  ∃ a line b, t = a ++ line ++ b ∧ size a = offset ∧ EndsLine a ∧ '\n' ∉ line ∧
    (∀ c ∈ b.head?, c = '\n') ∧ IsClassLine line name

variable {t name : Text} {offset : Nat}

/-- The part of a text up to its first line feed. -/
lemma exists_line_append_rest (t : Text) :
    ∃ line b, t = line ++ b ∧ '\n' ∉ line ∧ ∀ c ∈ b.head?, c = '\n' := by
  rcases exists_line_append t with h | ⟨line, b, rfl, hline⟩
  · exact ⟨t, [], by simp, h, by simp⟩
  · exact ⟨line, '\n' :: b, rfl, hline, by simp⟩

/-- **The matches of the pattern of a class line start where class lines start.**

**Proof sketch.** The places that the pattern leads to are known from its parts. The rest of the
line is cut at the next line feed, which cannot be part of the indent, the mark, the gap or the
name. -/
lemma classLineAt_iff_exists_reaches (hname : '\n' ∉ name) :
    ClassLineAt t name offset ↔
      ∃ p q, Cursor.In t p ∧ p.offset = offset ∧ (Expr.seqs (classLineParts name)).Reaches p q := by
  rw [exists_in_reaches_classLineParts_iff]
  constructor
  · rintro ⟨a, line, b, rfl, hoffset, ha, -, hb, indent, gap, rest, rfl, hindent, hgap, hne, hrest⟩
    refine ⟨a, indent, gap, rest ++ b, by simp, hoffset, ha, hindent, hgap, hne, ?_⟩
    intro c hc
    cases rest with
    | nil => simp [hb c hc]
    | cons d rest =>
      have hd := hrest c hc
      simp only [List.mem_cons, List.not_mem_nil, or_false] at hd
      rcases hd with rfl | rfl | rfl <;> simp
  · rintro ⟨a, indent, gap, b, rfl, hoffset, ha, hindent, hgap, hne, hb⟩
    -- The rest of the line is what stands before the first line feed after the name.
    obtain ⟨rest, after, rfl, hrest, hafter⟩ := exists_line_append_rest b
    refine ⟨a, indent ++ classMark ++ gap ++ name ++ rest, after, by simp, hoffset, ha, ?_, hafter,
      indent, gap, rest, rfl, hindent, hgap, hne, ?_⟩
    · have hmark : '\n' ∉ classMark := by decide
      simp only [List.mem_append, not_or]
      exact ⟨⟨⟨⟨hindent.not_mem_lineFeed, hmark⟩, hgap.not_mem_lineFeed⟩, hname⟩, hrest⟩
    · intro c hc
      have hmem : c ∈ rest := List.mem_of_mem_head? hc
      have hfeed : c ≠ '\n' := fun h => hrest (h ▸ hmem)
      simpa [hfeed] using hb c (by rw [List.head?_append, hc]; rfl)

/-- The search gives the first start of a class line. -/
lemma findClassLine?_eq_some_iff (hname : '\n' ∉ name) (hsize : size name ≤ classNameLimit) :
    findClassLine? t name = some offset ↔
      ClassLineAt t name offset ∧ ∀ other, ClassLineAt t name other → offset ≤ other := by
  rw [findClassLine?_eq, if_pos hsize,
    Expr.find?_map_start_eq_some_iff (isPlain_classLineParts name),
    classLineAt_iff_exists_reaches hname]
  refine and_congr_right fun _ => ?_
  constructor
  · intro h other hother
    obtain ⟨p, q, hin, rfl, hq⟩ := (classLineAt_iff_exists_reaches hname).mp hother
    exact h p q hin hq
  · intro h p q hin hq
    exact h p.offset ((classLineAt_iff_exists_reaches hname).mpr ⟨p, q, hin, rfl, hq⟩)

/-- The text declares the class iff it has a class line. -/
lemma declaresClass_iff_exists_classLineAt (hname : '\n' ∉ name) :
    DeclaresClass t name ↔ ∃ offset, ClassLineAt t name offset := by
  rw [← find?_classLineParts_isSome_iff, Expr.find?_isSome_iff (isPlain_classLineParts name)]
  constructor
  · rintro ⟨p, q, hin, hq⟩
    exact ⟨p.offset, (classLineAt_iff_exists_reaches hname).mpr ⟨p, q, hin, rfl, hq⟩⟩
  · rintro ⟨offset, hat⟩
    obtain ⟨p, q, hin, -, hq⟩ := (classLineAt_iff_exists_reaches hname).mp hat
    exact ⟨p, q, hin, hq⟩

/-- The search gives nothing iff the name is too long or there is no class line. -/
lemma findClassLine?_eq_none_iff_forall (hname : '\n' ∉ name) :
    findClassLine? t name = none ↔
      size name ≤ classNameLimit → ∀ offset, ¬ ClassLineAt t name offset := by
  rw [findClassLine?_eq_none_iff, declaresClass_iff_exists_classLineAt hname, not_and, not_exists]

/-- The line that is written for a class is a class line, wherever it stands. -/
lemma classLineAt_classLine (hname : '\n' ∉ name) (base : Option Text) {a b : Text}
    (ha : EndsLine a) (hb : ∀ c ∈ b.head?, c = '\n') :
    ClassLineAt (a ++ classLine name base ++ b) name (size a) := by
  rw [classLineAt_iff_exists_reaches hname, exists_in_reaches_classLineParts_iff]
  cases base with
  | none =>
    refine ⟨a, [], [' '], b, by simp [classLine], rfl,
      ha, by simp [IsGap], by simp [IsGap], by simp, ?_⟩
    intro c hc
    simp [hb c hc]
  | some base =>
    exact ⟨a, [], [' '], " : ".toList ++ base ++ b, by simp [classLine], rfl, ha, by simp [IsGap],
      by simp [IsGap], by simp, by simp⟩

/-- A name that is too long to be searched for. -/
def longName : Text :=
  List.replicate 400000 'a'

/-- The size of a text of one letter. -/
lemma size_replicate_a (n : Nat) : size (List.replicate n 'a') = n := by
  induction n with
  | zero => rfl
  | succ n ih =>
    have hone : Char.utf8Size 'a' = 1 := by decide
    rw [List.replicate_succ, size_cons, ih, hone, Nat.add_comm]

end Gloss
