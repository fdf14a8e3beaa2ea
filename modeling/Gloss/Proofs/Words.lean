import Gloss.Proofs.Lines
import Gloss.Text.Letter

/-!
# White space and words

What is left of a text without the white space at its ends, and what its first word is, said by
splitting the text: a run of white space goes as far as it can, so a text splits after it in one way
only.

## Main definitions

* `Text.AllBlank`: a text of white space.

## Main results

* `Text.dropWhile_run`, `Text.dropEndWhile_run`: a run at the start or the end of a text is dropped.
* `Text.run_unique`: a text splits after a run in one way only.
* `Text.after?_eq_some_iff`: what follows the beginning of a text.
* `Text.exists_eq_append_trim`, `Text.trim_append`: a text without the white space at its ends.
* `Text.words_eq_cons_iff`: the first word of a text.
-/

set_option relaxedAutoImplicit false
set_option autoImplicit false

namespace Gloss

namespace Text

/-! ## Runs of characters -/

section Runs

variable {p : Char → Bool} {a x : Text}

/-- A run at the start of a text is dropped, up to the first character that does not belong to
it. -/
lemma dropWhile_run (ha : ∀ c ∈ a, p c = true) (hx : ∀ c ∈ x.head?, p c = false) :
    (a ++ x).dropWhile p = x := by
  rw [List.dropWhile_append_of_pos ha]
  cases x with
  | nil => rfl
  | cons c x => simp [hx c rfl]

/-- The characters in front that pass a test are a run of them up to the first that does not. -/
lemma takeWhile_run (ha : ∀ c ∈ a, p c = true) (hx : ∀ c ∈ x.head?, p c = false) :
    (a ++ x).takeWhile p = a := by
  rw [List.takeWhile_append_of_pos ha]
  cases x with
  | nil => simp
  | cons c x => simp [hx c rfl]

/-- Every text is a run and a rest that does not go on with it. -/
lemma exists_run (p : Char → Bool) (t : Text) :
    ∃ a x, t = a ++ x ∧ (∀ c ∈ a, p c = true) ∧ ∀ c ∈ x.head?, p c = false := by
  induction t with
  | nil => exact ⟨[], [], rfl, by simp, by simp⟩
  | cons c t ih =>
    cases hc : p c with
    | false => exact ⟨[], c :: t, rfl, by simp, by simpa using hc⟩
    | true =>
      obtain ⟨a, x, rfl, ha, hx⟩ := ih
      exact ⟨c :: a, x, rfl, by simpa [hc] using ha, hx⟩

/-- A text splits after a run in one way only. -/
lemma run_unique {a' x' : Text} (ha : ∀ c ∈ a, p c = true) (hx : ∀ c ∈ x.head?, p c = false)
    (ha' : ∀ c ∈ a', p c = true) (hx' : ∀ c ∈ x'.head?, p c = false) (h : a ++ x = a' ++ x') :
    a = a' ∧ x = x' := by
  have hrest : x = x' := by rw [← dropWhile_run ha hx, h, dropWhile_run ha' hx']
  subst hrest
  exact ⟨List.append_cancel_right h, rfl⟩

/-- A run at the end of a text is dropped, from the last character on that does not belong to it. -/
lemma dropEndWhile_run (ha : ∀ c ∈ a, p c = true) (hx : ∀ c ∈ x.getLast?, p c = false) :
    dropEndWhile p (x ++ a) = x := by
  rw [dropEndWhile, List.reverse_append, dropWhile_run (by simpa using ha) (by simpa using hx),
    List.reverse_reverse]

/-- Every text is a text that does not end in the run, and a run. -/
lemma exists_endRun (p : Char → Bool) (t : Text) :
    ∃ x a, t = x ++ a ∧ (∀ c ∈ a, p c = true) ∧ ∀ c ∈ x.getLast?, p c = false := by
  obtain ⟨a, x, ht, ha, hx⟩ := exists_run p t.reverse
  refine ⟨x.reverse, a.reverse, ?_, by simpa using ha, by simpa using hx⟩
  rw [← List.reverse_append, ← ht, List.reverse_reverse]

end Runs

/-! ## Beginnings -/

/-- What follows the beginning of a text. -/
lemma after?_eq_some_iff {lead t rest : Text} : after? lead t = some rest ↔ t = lead ++ rest := by
  induction lead generalizing t with
  | nil => simp [after?]
  | cons l lead ih =>
    cases t with
    | nil => simp [after?]
    | cons c t =>
      by_cases hc : l = c
      · simp [after?, hc, ih]
      · simp [after?, hc, Ne.symm hc]

/-! ## White space at the ends -/

/-- The text is white space. -/
def AllBlank (t : Text) : Prop :=
  ∀ c ∈ t, isBlank c = true

/-- Digits are no white space. -/
lemma isBlank_of_isAsciiDigit {c : Char} (h : isAsciiDigit c = true) : isBlank c = false := by
  have hdigits : ∀ n < 58, isAsciiDigit (Char.ofNat n) = true →
      isBlank (Char.ofNat n) = false := by decide
  have hc : c.toNat < 58 := by
    simp only [isAsciiDigit, Bool.and_eq_true, decide_eq_true_eq] at h
    exact Nat.lt_of_le_of_lt h.2 (by decide)
  simpa using hdigits c.toNat hc (by simpa using h)

/-- What is put behind a text does not change that it starts without white space. -/
lemma isBlank_head?_append {a : Text} {c : Char} (hhead : a.head? = some c)
    (hc : isBlank c = false) (b : Text) : ∀ d ∈ (a ++ b).head?, isBlank d = false := by
  intro d hd
  rw [List.head?_append, hhead, Option.some_or, Option.mem_some] at hd
  exact hd ▸ hc

/-- White space at both ends is left out, and nothing else. -/
lemma trim_append {a u b : Text} (ha : AllBlank a) (hb : AllBlank b)
    (hfirst : ∀ c ∈ u.head?, isBlank c = false) (hlast : ∀ c ∈ u.getLast?, isBlank c = false)
    (hne : u ≠ []) : trim (a ++ u ++ b) = u := by
  obtain ⟨c, u, rfl⟩ := List.exists_cons_of_ne_nil hne
  have hstart : trimStart (a ++ c :: u ++ b) = c :: u ++ b := by
    rw [trimStart, List.append_assoc]
    exact dropWhile_run ha (by simpa using hfirst)
  rw [trim, hstart, trimEnd, dropEndWhile_run hb hlast]

/-- A text without white space at its ends is not changed. -/
lemma trim_of_ends {u : Text} (hfirst : ∀ c ∈ u.head?, isBlank c = false)
    (hlast : ∀ c ∈ u.getLast?, isBlank c = false) : trim u = u := by
  cases u with
  | nil => rfl
  | cons c u =>
    have h := trim_append (a := []) (b := []) (by simp [AllBlank]) (by simp [AllBlank]) hfirst hlast
      (List.cons_ne_nil c u)
    simpa using h

/-- Every text is white space, the text without it, and white space. -/
lemma exists_eq_append_trim (t : Text) :
    ∃ a b, t = a ++ trim t ++ b ∧ AllBlank a ∧ AllBlank b ∧
      (∀ c ∈ (trim t).head?, isBlank c = false) ∧ ∀ c ∈ (trim t).getLast?, isBlank c = false := by
  obtain ⟨a, x, rfl, ha, hx⟩ := exists_run isBlank t
  obtain ⟨u, b, rfl, hb, hu⟩ := exists_endRun isBlank x
  have htrim : trim (a ++ (u ++ b)) = u := by
    rw [trim, trimStart, dropWhile_run ha hx, trimEnd, dropEndWhile_run hb hu]
  rw [htrim]
  refine ⟨a, b, by rw [List.append_assoc], ha, hb, ?_, hu⟩
  cases u with
  | nil => simp
  | cons c u => exact hx

/-- Without white space at its ends a text has none at its ends. -/
lemma trim_trim (t : Text) : trim (trim t) = trim t := by
  obtain ⟨-, -, -, -, -, hfirst, hlast⟩ := exists_eq_append_trim t
  exact trim_of_ends hfirst hlast

/-- A text that is its own trim does not end in white space. -/
lemma isBlank_getLast?_of_trim {u : Text} (h : trim u = u) :
    ∀ c ∈ u.getLast?, isBlank c = false := by
  obtain ⟨-, -, -, -, -, -, hlast⟩ := exists_eq_append_trim u
  rwa [h] at hlast

/-! ## Words -/

/-- The empty text has no words. -/
lemma words_nil : words [] = [] := rfl

/-- White space in front of a text belongs to no word. -/
lemma words_append_of_allBlank {a : Text} (ha : AllBlank a) (t : Text) :
    words (a ++ t) = words t := by
  induction a with
  | nil => rfl
  | cons c a ih =>
    obtain ⟨hc, ha⟩ := List.forall_mem_cons.mp ha
    rw [List.cons_append, words.eq_def]
    simp only [hc, ↓reduceIte, ih ha]

/-- A run of other characters up to white space is a word. -/
lemma words_append_of_word {w b : Text} (hne : w ≠ []) (hw : ∀ c ∈ w, isBlank c = false)
    (hb : ∀ c ∈ b.head?, isBlank c = true) : words (w ++ b) = w :: words b := by
  induction w with
  | nil => exact absurd rfl hne
  | cons c w ih =>
    obtain ⟨hc, hw⟩ := List.forall_mem_cons.mp hw
    rw [List.cons_append, words.eq_def]
    cases w with
    | nil =>
      cases b with
      | nil => simp [hc, words_nil]
      | cons d b => simp [hc, hb d rfl]
    | cons d w =>
      have hd : isBlank d = false := hw d List.mem_cons_self
      have ih := ih (List.cons_ne_nil d w) hw
      rw [List.cons_append] at ih
      simp [hc, hd, ih]

/-- **The first word of a text** is the run of other characters behind the white space in front.

**Proof sketch.** The text is cut into white space, the characters up to the next white space, and
the rest. The first word is the second part, and the other words are those of the rest. -/
lemma words_eq_cons_iff {t w : Text} {more : List Text} :
    words t = w :: more ↔ ∃ gap b, t = gap ++ w ++ b ∧ AllBlank gap ∧ w ≠ [] ∧
      (∀ c ∈ w, isBlank c = false) ∧ (∀ c ∈ b.head?, isBlank c = true) ∧ more = words b := by
  constructor
  · intro h
    obtain ⟨gap, x, rfl, hgap, hx⟩ := exists_run isBlank t
    obtain ⟨w', b, rfl, hw', hb⟩ := exists_run (fun c => !isBlank c) x
    have hw' : ∀ c ∈ w', isBlank c = false := by simpa using hw'
    have hb : ∀ c ∈ b.head?, isBlank c = true := by simpa using hb
    rw [words_append_of_allBlank hgap] at h
    cases w' with
    | nil =>
      cases b with
      | nil => simp [words_nil] at h
      | cons c b => simp [hb c rfl] at hx
    | cons c w' =>
      rw [words_append_of_word (List.cons_ne_nil c w') hw' hb] at h
      obtain ⟨rfl, rfl⟩ := List.cons.inj h
      exact ⟨gap, b, by simp, hgap, List.cons_ne_nil c w', hw', hb, rfl⟩
  · rintro ⟨gap, b, rfl, hgap, hne, hw, hb, rfl⟩
    rw [List.append_assoc, words_append_of_allBlank hgap, words_append_of_word hne hw hb]

end Text

end Gloss
