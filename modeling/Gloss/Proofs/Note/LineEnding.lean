import Gloss.Proofs.Note.ClassSearch

/-!
# Line endings

What is found in a text when its lines end in a carriage return and a line feed instead of a line
feed alone. A line is present in both or in neither. A class line is too, unless the name is the
last thing on it: the pattern of a class line takes the carriage return for a part of a longer name.

## Main definitions

* `Text.withReturns`: the text with a carriage return before every line feed.
* `GoesOnAfterName`: a class line on which something follows the name.

## Main results

* `Text.exists_split_withReturns`: the lines get a carriage return at their end, except for the
  last.
* `Text.trimmedLines_withReturns`: the lines are the same when white space at their ends is left
  out.
* `isClassLine_return_iff`: a line that ends in a carriage return is a class line iff something else
  follows the name on it.
* `presence_withReturns`: what is found in a text with carriage returns.
-/

set_option relaxedAutoImplicit false
set_option autoImplicit false

namespace Gloss

namespace Text

/-- The text with every line feed replaced by a carriage return and a line feed. -/
def withReturns (t : Text) : Text :=
  replace ['\n'] ['\r', '\n'] t

/-- Every line feed gets a carriage return in front of it. -/
lemma withReturns_eq_flatMap (t : Text) :
    withReturns t = t.flatMap fun c => if c = '\n' then ['\r', '\n'] else [c] := by
  unfold withReturns replace
  induction t with
  | nil => rfl
  | cons c t ih =>
    by_cases hc : c = '\n'
    · subst hc
      simp [replaceFrom, ih]
    · have hne : ¬ '\n' = c := fun h => hc h.symm
      simp [replaceFrom, hc, hne, ih]

/-- **The lines of a text with carriage returns** are those of the text with a carriage return at
their end, except for the last, which no line feed ends.

**Proof sketch.** Induction on the text from its end. A line feed ends the last line, with a
carriage return in front of it; any other character goes to the end of the last line. -/
lemma exists_split_withReturns (t : Text) : ∃ pieces last,
    split '\n' t = pieces ++ [last] ∧
    split '\n' (withReturns t) = pieces.map (· ++ ['\r']) ++ [last] := by
  induction t using List.reverseRecOn with
  | nil => exact ⟨[], [], rfl, rfl⟩
  | append_singleton t c ih =>
    obtain ⟨pieces, last, ht, hreturns⟩ := ih
    have hstep : withReturns (t ++ [c]) =
        withReturns t ++ if c = '\n' then ['\r', '\n'] else [c] := by
      simp [withReturns_eq_flatMap]
    by_cases hc : c = '\n'
    · subst hc
      -- The line that was the last one so far is ended, and an empty one is the last.
      have hended : split '\n' (withReturns t ++ ['\r']) =
          pieces.map (· ++ ['\r']) ++ [last ++ ['\r']] :=
        split_append hreturns (split_of_not_mem (by decide))
      have hmore : withReturns t ++ ['\r', '\n'] = (withReturns t ++ ['\r']) ++ '\n' :: [] := by
        simp
      refine ⟨pieces ++ [last], [], ?_, ?_⟩
      · rw [split_append_mark, ht]
        rfl
      · rw [hstep, if_pos rfl, hmore, split_append_mark, hended]
        simp [split]
    · have hone : split '\n' [c] = [[c]] := split_of_not_mem (by simpa using Ne.symm hc)
      refine ⟨pieces, last ++ [c], split_append ht hone, ?_⟩
      rw [hstep, if_neg hc]
      exact split_append hreturns hone

/-- All pieces but the last are lines, without a carriage return at their end. -/
lemma linesOfPieces_concat (pieces : List Text) (last : Text) :
    linesOfPieces (pieces ++ [last]) = pieces.map (chomp '\r') ++ linesOfPieces [last] := by
  induction pieces with
  | nil => rfl
  | cons piece pieces ih =>
    obtain ⟨next, rest, hrest⟩ := List.exists_cons_of_ne_nil (l := pieces ++ [last]) (by simp)
    rw [List.cons_append, List.map_cons, List.cons_append, ← ih, hrest]
    rfl

/-- **The lines are the same with carriage returns** when white space at their ends is left out. -/
lemma trimmedLines_withReturns (t : Text) : t.withReturns.trimmedLines = t.trimmedLines := by
  obtain ⟨pieces, last, ht, hreturns⟩ := exists_split_withReturns t
  have hchomp : ∀ piece : Text, chomp '\r' (piece ++ ['\r']) = piece := by
    intro piece
    simp [chomp]
  simp only [trimmedLines, lines, ht, hreturns, linesOfPieces_concat, List.map_append, List.map_map]
  refine congrArg (· ++ (linesOfPieces [last]).map trim) (List.map_congr_left fun piece _ => ?_)
  simp only [Function.comp_apply, hchomp, trim_chomp]

end Text

open Text

/-- The line is a class line, and something follows the name on it. -/
def GoesOnAfterName (line name : Text) : Prop :=
  ∃ indent gap c rest, line = indent ++ classMark ++ gap ++ name ++ c :: rest ∧ IsGap indent ∧
    IsGap gap ∧ gap ≠ [] ∧ c ∈ [' ', '\t', ':']

variable {t name line : Text}

/-- A line that goes on after the name is a class line. -/
lemma GoesOnAfterName.isClassLine (h : GoesOnAfterName line name) : IsClassLine line name := by
  obtain ⟨indent, gap, c, rest, hline, hindent, hgap, hne, hc⟩ := h
  refine ⟨indent, gap, c :: rest, hline, hindent, hgap, hne, fun d hd => ?_⟩
  obtain rfl : c = d := by simpa using hd
  exact hc

/-- **A line that ends in a carriage return** is a class line iff something else follows the name on
it. The carriage return is no part of the name or of the gap before it, and it is none of the
characters that end a name.

**Proof sketch.** The carriage return is the last character of the line. If nothing came behind the
name, it would be the last one of the gap or the name; so it belongs to what comes behind, which is
more than the carriage return alone. -/
lemma isClassLine_return_iff (hreturn : '\r' ∉ name) :
    IsClassLine (line ++ ['\r']) name ↔ GoesOnAfterName line name := by
  constructor
  · rintro ⟨indent, gap, rest, hline, hindent, hgap, hne, hrest⟩
    cases rest using List.reverseRecOn with
    | nil =>
      have hmem : '\r' ∈ gap ++ name := by
        have hlast := congrArg List.getLast? hline
        rw [List.append_nil, List.append_assoc, List.getLast?_concat, List.getLast?_append] at hlast
        cases hend : (gap ++ name).getLast? with
        | none => exact absurd (List.append_eq_nil_iff.mp (List.getLast?_eq_none_iff.mp hend)).1 hne
        | some c =>
          obtain rfl : '\r' = c := by simpa [hend] using hlast
          exact List.mem_of_getLast? hend
      rcases List.mem_append.mp hmem with hmem | hmem
      · simpa using hgap '\r' hmem
      · exact absurd hmem hreturn
    | append_singleton rest c =>
      rw [← List.append_assoc] at hline
      obtain ⟨rfl, hc⟩ := List.append_inj' hline rfl
      obtain rfl : '\r' = c := by simpa using hc
      cases rest with
      | nil => simpa using hrest '\r' rfl
      | cons c rest => exact ⟨indent, gap, c, rest, rfl, hindent, hgap, hne, hrest c rfl⟩
  · rintro ⟨indent, gap, c, rest, rfl, hindent, hgap, hne, hc⟩
    refine ⟨indent, gap, c :: (rest ++ ['\r']), by simp, hindent, hgap, hne, fun d hd => ?_⟩
    obtain rfl : c = d := by simpa using hd
    exact hc

/-- The search for a class looks at every line, if the name is not too long. -/
lemma findClassLine?_isSome_iff_exists_line (hfeed : '\n' ∉ name) :
    (findClassLine? t name).isSome = true ↔
      size name ≤ classNameLimit ∧ ∃ line ∈ split '\n' t, IsClassLine line name := by
  rw [findClassLine?_isSome_iff, declaresClass_iff_exists_classLineAt hfeed]
  refine and_congr_right fun _ => ?_
  constructor
  · rintro ⟨offset, a, line, b, ht, -, ha, hone, hb, hclass⟩
    exact ⟨line, mem_split_lineFeed_iff.mpr ⟨hone, a, b, ht, ha, hb⟩, hclass⟩
  · rintro ⟨line, hline, hclass⟩
    obtain ⟨hone, a, b, ht, ha, hb⟩ := mem_split_lineFeed_iff.mp hline
    exact ⟨size a, a, line, b, ht, rfl, ha, hone, hb, hclass⟩

/-- The search for a class in a text with carriage returns. -/
lemma findClassLine?_withReturns_isSome_iff (hfeed : '\n' ∉ name) (hreturn : '\r' ∉ name) :
    (findClassLine? t.withReturns name).isSome = true ↔ size name ≤ classNameLimit ∧
      ((∃ line ∈ (split '\n' t).dropLast, GoesOnAfterName line name) ∨
        ∃ line ∈ (split '\n' t).getLast?, IsClassLine line name) := by
  obtain ⟨pieces, last, ht, hreturns⟩ := exists_split_withReturns t
  rw [findClassLine?_isSome_iff_exists_line hfeed, hreturns, ht, List.dropLast_concat,
    List.getLast?_concat]
  simp only [List.mem_append, List.mem_map, List.mem_singleton, Option.mem_some_iff]
  refine and_congr_right fun _ => ?_
  constructor
  · rintro ⟨line, ⟨piece, hpiece, rfl⟩ | rfl, hclass⟩
    · exact .inl ⟨piece, hpiece, (isClassLine_return_iff hreturn).mp hclass⟩
    · exact .inr ⟨line, rfl, hclass⟩
  · rintro (⟨piece, hpiece, hclass⟩ | ⟨line, rfl, hclass⟩)
    · exact ⟨piece ++ ['\r'], .inl ⟨piece, hpiece, rfl⟩,
        (isClassLine_return_iff hreturn).mpr hclass⟩
    · exact ⟨last, .inr rfl, hclass⟩

/-- The search for a class in a text without carriage returns, with its last line told apart. -/
lemma findClassLine?_isSome_iff_ended (hfeed : '\n' ∉ name) :
    (findClassLine? t name).isSome = true ↔ size name ≤ classNameLimit ∧
      ((∃ line ∈ (split '\n' t).dropLast, IsClassLine line name) ∨
        ∃ line ∈ (split '\n' t).getLast?, IsClassLine line name) := by
  obtain ⟨pieces, last, ht, -⟩ := exists_split_withReturns t
  rw [findClassLine?_isSome_iff_exists_line hfeed, ht, List.dropLast_concat, List.getLast?_concat]
  simp [or_and_right, exists_or]

end Gloss
