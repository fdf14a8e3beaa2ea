import Mathlib.Data.List.Induction
import Gloss.Text.Offset

/-!
# Boundaries of a text

An offset is a boundary of a text exactly when the text splits there into two texts. Everything
about byte offsets is reduced to such splittings, so that no later proof walks over bytes.

## Main definitions

* `Text.EndsLine`: a text that is empty or ends in a line feed, so that a line starts after it.
* `Text.IsLineStart`: an offset at which a line of the text starts.

## Main results

* `Text.cut?_eq_some_iff`: cutting a text is splitting it.
* `Text.isBoundary_iff`: an offset is a boundary iff the text splits there.
* `Text.exists_split_of_le`: two boundaries split a text into three parts.
* `Text.lineStart_append`, `Text.nextLineStart_append`: where the line around a boundary starts and
  ends.
* `Text.lineStart_isLineStart`, `Text.nextLineStart_isLineStart`: the line functions give line
  starts, or the end of the text.
-/

set_option relaxedAutoImplicit false
set_option autoImplicit false

namespace Gloss

namespace Text

/-! ## Sizes -/

/-- The empty text has no bytes. -/
@[simp]
lemma size_nil : size [] = 0 := rfl

/-- The size of a text is that of its first character and that of the rest. -/
@[simp]
lemma size_cons (c : Char) (t : Text) : size (c :: t) = c.utf8Size + size t := rfl

/-- The size of two texts one after the other. -/
@[simp]
lemma size_append (a b : Text) : size (a ++ b) = size a + size b := by
  induction a with
  | nil => simp
  | cons c a ih => simp only [List.cons_append, size_cons, ih]; omega

/-- A line feed is one byte. -/
@[simp]
lemma utf8Size_lineFeed : '\n'.utf8Size = 1 := rfl

/-- Only the empty text has no bytes. -/
@[simp]
lemma size_eq_zero_iff {t : Text} : size t = 0 ↔ t = [] := by
  cases t with
  | nil => simp
  | cons c t =>
    have hc := Char.utf8Size_pos c
    simp only [size_cons, reduceCtorEq, iff_false]
    omega

/-- Of two parts at the start of one text, the one with fewer bytes starts the other.

**Proof sketch.** One of the two is a prefix of the other. If it is the wrong one, what is missing
has no bytes, so both are the same text. -/
lemma exists_eq_append_of_size_le {a b a' b' : Text} (h : a ++ b = a' ++ b')
    (hs : size a ≤ size a') : ∃ m, a' = a ++ m ∧ b = m ++ b' := by
  rcases List.append_eq_append_iff.mp h with ⟨m, rfl, rfl⟩ | ⟨m, rfl, rfl⟩
  · exact ⟨m, rfl, rfl⟩
  · have hm : m = [] := by
      rw [size_append] at hs
      exact size_eq_zero_iff.mp (by omega)
    subst hm
    exact ⟨[], by simp, by simp⟩

/-- A text splits at an offset in one way only. -/
lemma split_unique {a b a' b' : Text} (h : a ++ b = a' ++ b') (hs : size a = size a') :
    a = a' ∧ b = b' := by
  obtain ⟨m, rfl, rfl⟩ := exists_eq_append_of_size_le h (Nat.le_of_eq hs)
  have hm : m = [] := by
    rw [size_append] at hs
    exact size_eq_zero_iff.mp (by omega)
  subst hm
  exact ⟨by simp, by simp⟩

/-! ## Boundaries -/

/-- Cutting a text between two parts gives these parts. -/
lemma cut?_append (a b : Text) : cut? (a ++ b) (size a) = some (a, b) := by
  induction a with
  | nil => cases b <;> rfl
  | cons c a ih =>
    have hc := Char.utf8Size_pos c
    obtain ⟨n, hn⟩ : ∃ n, c.utf8Size + size a = n + 1 := ⟨c.utf8Size + size a - 1, by omega⟩
    have hle : c.utf8Size ≤ n + 1 := by omega
    have hrest : n + 1 - c.utf8Size = size a := by omega
    simp only [List.cons_append, size_cons, hn, cut?, hle, ↓reduceIte, hrest, ih, Option.map_some]

/-- Cutting a text is splitting it.

**Proof sketch.** From right to left this is `cut?_append`. From left to right, follow the
recursion: either nothing is cut off, or the first character fits and the rest is cut. -/
lemma cut?_eq_some_iff {t : Text} {n : Nat} {a b : Text} :
    cut? t n = some (a, b) ↔ t = a ++ b ∧ size a = n := by
  refine ⟨fun h => ?_, fun ⟨ht, hn⟩ => by rw [ht, ← hn, cut?_append]⟩
  induction t generalizing n a with
  | nil =>
    cases n with
    | zero => simp_all [cut?]
    | succ n => simp [cut?] at h
  | cons c t ih =>
    cases n with
    | zero => simp_all [cut?]
    | succ n =>
      simp only [cut?] at h
      split at h
      · obtain ⟨⟨a', b'⟩, hcut, hab⟩ := Option.map_eq_some_iff.mp h
        obtain ⟨rfl, rfl⟩ := Prod.mk.injEq .. ▸ hab
        obtain ⟨rfl, hsize⟩ := ih hcut
        refine ⟨rfl, ?_⟩
        simp only [size_cons]
        omega
      · simp at h

/-- An offset is a boundary iff the text splits there. -/
lemma isBoundary_iff {t : Text} {n : Nat} :
    t.isBoundary n = true ↔ ∃ a b, t = a ++ b ∧ size a = n := by
  rw [isBoundary, Option.isSome_iff_exists]
  simp only [Prod.exists, cut?_eq_some_iff]

/-- The end of the first of two parts is a boundary. -/
lemma isBoundary_append (a b : Text) : (a ++ b).isBoundary (size a) = true :=
  isBoundary_iff.mpr ⟨a, b, rfl, rfl⟩

/-- Boundaries lie inside the text. -/
lemma le_size_of_isBoundary {t : Text} {n : Nat} (h : t.isBoundary n = true) : n ≤ size t := by
  obtain ⟨a, b, rfl, rfl⟩ := isBoundary_iff.mp h
  simp

/-- Two boundaries split a text into three parts. -/
lemma exists_split_of_le {t : Text} {m n : Nat} (hm : t.isBoundary m = true)
    (hn : t.isBoundary n = true) (hle : m ≤ n) :
    ∃ a w b, t = a ++ w ++ b ∧ size a = m ∧ size (a ++ w) = n := by
  obtain ⟨a, b, rfl, rfl⟩ := isBoundary_iff.mp hm
  obtain ⟨a', b', h, rfl⟩ := isBoundary_iff.mp hn
  obtain ⟨w, rfl, rfl⟩ := exists_eq_append_of_size_le h hle
  exact ⟨a, w, b', by simp, rfl, rfl⟩

/-- A boundary of the whole text that lies in the first part is a boundary of that part. -/
lemma isBoundary_of_append {a b : Text} {n : Nat} (h : (a ++ b).isBoundary n = true)
    (hle : n ≤ size a) : a.isBoundary n = true := by
  obtain ⟨a₁, a₂, hsplit, rfl⟩ := isBoundary_iff.mp h
  obtain ⟨w, rfl, -⟩ := exists_eq_append_of_size_le hsplit.symm hle
  exact isBoundary_append a₁ w

/-- A boundary of the first of two parts is a boundary of the whole. -/
lemma isBoundary_append_right {a : Text} {n : Nat} (h : a.isBoundary n = true) (b : Text) :
    (a ++ b).isBoundary n = true := by
  obtain ⟨a₁, a₂, rfl, rfl⟩ := isBoundary_iff.mp h
  rw [List.append_assoc]
  exact isBoundary_append a₁ (a₂ ++ b)

/-! ## Lines -/

/-- The text is empty or ends in a line feed: a line starts after it. -/
def EndsLine (t : Text) : Prop :=
  t = [] ∨ t.getLast? = some '\n'

/-- A line of the text starts at the offset. -/
def IsLineStart (t : Text) (n : Nat) : Prop :=
  ∃ a b, t = a ++ b ∧ size a = n ∧ EndsLine a

/-- A line starts at a boundary. -/
lemma IsLineStart.isBoundary {t : Text} {n : Nat} (h : IsLineStart t n) :
    t.isBoundary n = true := by
  obtain ⟨a, b, ht, hn, -⟩ := h
  exact isBoundary_iff.mpr ⟨a, b, ht, hn⟩

/-- Every text is a number of whole lines and the start of a line. -/
lemma exists_lines_append (t : Text) : ∃ a l, t = a ++ l ∧ EndsLine a ∧ '\n' ∉ l := by
  induction t using List.reverseRecOn with
  | nil => exact ⟨[], [], rfl, .inl rfl, by simp⟩
  | append_singleton t c ih =>
    by_cases hc : c = '\n'
    · exact ⟨t ++ [c], [], by simp, .inr (by simp [hc]), by simp⟩
    · obtain ⟨a, l, rfl, ha, hl⟩ := ih
      refine ⟨a, l ++ [c], by simp, ha, ?_⟩
      simp only [List.mem_append, List.mem_singleton, not_or]
      exact ⟨hl, fun h => hc h.symm⟩

/-- The start of the current line stays while there is no line feed. -/
lemma lineStartFrom_of_not_mem {l : Text} (hl : '\n' ∉ l) (r : Text) (start here : Nat) :
    lineStartFrom (here + size l) start here (l ++ r) = start := by
  induction l generalizing here with
  | nil => cases r <;> simp [lineStartFrom]
  | cons c l ih =>
    simp only [List.mem_cons, not_or] at hl
    have hc := Char.utf8Size_pos c
    have hlt : ¬ here + (c.utf8Size + size l) ≤ here := by omega
    have hnl : ¬ c = '\n' := fun h => hl.1 h.symm
    simp only [List.cons_append, size_cons, lineStartFrom, hlt, hnl, ↓reduceIte]
    rw [← Nat.add_assoc]
    exact ih hl.2 _

/-- After whole lines, the current line starts behind them. -/
lemma lineStartFrom_of_endsLine {a : Text} (ha : a.getLast? = some '\n') (r : Text)
    {target start here : Nat} (hle : here + size a ≤ target) :
    lineStartFrom target start here (a ++ r) =
      lineStartFrom target (here + size a) (here + size a) r := by
  induction a generalizing start here with
  | nil => simp at ha
  | cons c a ih =>
    have hc := Char.utf8Size_pos c
    simp only [size_cons] at hle ⊢
    have hlt : ¬ target ≤ here := by omega
    simp only [List.cons_append, lineStartFrom, hlt, ↓reduceIte]
    cases a with
    | nil =>
      obtain rfl : c = '\n' := by simpa using ha
      simp
    | cons d a =>
      rw [List.getLast?_cons_cons] at ha
      rw [ih ha (by omega)]
      simp [Nat.add_assoc]

/-- The line around a boundary starts after the last line feed before it. -/
lemma lineStart_append {a l : Text} (ha : EndsLine a) (hl : '\n' ∉ l) (r : Text) :
    lineStart (a ++ l ++ r) (size (a ++ l)) = size a := by
  rw [lineStart, List.append_assoc, size_append]
  rcases ha with rfl | ha
  · simpa using lineStartFrom_of_not_mem hl r 0 0
  · rw [lineStartFrom_of_endsLine ha _ (by omega)]
    simpa using lineStartFrom_of_not_mem hl r (size a) (size a)

/-- The line around a boundary starts at a line start, not after the boundary. -/
lemma lineStart_isLineStart {t : Text} {n : Nat} (h : t.isBoundary n = true) :
    IsLineStart t (t.lineStart n) ∧ t.lineStart n ≤ n := by
  obtain ⟨x, r, rfl, rfl⟩ := isBoundary_iff.mp h
  obtain ⟨a, l, rfl, ha, hl⟩ := exists_lines_append x
  rw [lineStart_append ha hl]
  exact ⟨⟨a, l ++ r, by simp, rfl, ha⟩, by simp⟩

/-- The line around a later boundary starts no earlier. -/
lemma lineStart_mono {t : Text} {m n : Nat} (hm : t.isBoundary m = true)
    (hn : t.isBoundary n = true) (h : m ≤ n) : t.lineStart m ≤ t.lineStart n := by
  obtain ⟨x, w, r, rfl, rfl, rfl⟩ := exists_split_of_le hm hn h
  obtain ⟨a, l, rfl, ha, hl⟩ := exists_lines_append x
  obtain ⟨a', l', rfl, ha', hl'⟩ := exists_lines_append w
  have hfirst : lineStart (a ++ l ++ (a' ++ l') ++ r) (size (a ++ l)) = size a := by
    rw [List.append_assoc (a ++ l)]
    exact lineStart_append ha hl _
  rw [hfirst]
  -- Either there is no line feed between the boundaries, or the later line starts behind the first
  -- one.
  rcases ha' with rfl | ha'
  · have hsame := lineStart_append ha (l := l ++ l') (by simp [hl, hl']) r
    simp only [List.append_assoc, List.nil_append] at hsame ⊢
    exact Nat.le_of_eq hsame.symm
  · have hlater := lineStart_append (a := a ++ l ++ a') (.inr (by simp [ha'])) hl' r
    simp only [List.append_assoc] at hlater ⊢
    rw [hlater, size_append]
    exact Nat.le_add_right _ _

/-- Nothing before the target is a line end that counts. -/
lemma nextLineStartFrom_append (a r : Text) {target here : Nat} (h : here + size a ≤ target) :
    nextLineStartFrom target here (a ++ r) = nextLineStartFrom target (here + size a) r := by
  induction a generalizing here with
  | nil => simp
  | cons c a ih =>
    have hc := Char.utf8Size_pos c
    simp only [size_cons] at h
    have hlt : ¬ (target ≤ here ∧ c = '\n') := fun hh => by omega
    simp only [List.cons_append, nextLineStartFrom, hlt, ↓reduceIte, size_cons]
    rw [ih (by omega), Nat.add_assoc]

/-- Characters other than line feeds are passed over. -/
lemma nextLineStartFrom_of_not_mem {l : Text} (hl : '\n' ∉ l) (r : Text) (target here : Nat) :
    nextLineStartFrom target here (l ++ r) = nextLineStartFrom target (here + size l) r := by
  induction l generalizing here with
  | nil => simp
  | cons c l ih =>
    simp only [List.mem_cons, not_or] at hl
    have hlt : ¬ (target ≤ here ∧ c = '\n') := fun hh => hl.1 hh.2.symm
    simp only [List.cons_append, nextLineStartFrom, hlt, ↓reduceIte, size_cons]
    rw [ih hl.2, Nat.add_assoc]

/-- The line after a boundary starts after the first line feed behind it. -/
lemma nextLineStart_append {l : Text} (hl : '\n' ∉ l) (a r : Text) :
    nextLineStart (a ++ l ++ '\n' :: r) (size a) = size (a ++ l ++ ['\n']) := by
  rw [nextLineStart, List.append_assoc, nextLineStartFrom_append a _ (by omega),
    nextLineStartFrom_of_not_mem hl]
  simp [nextLineStartFrom, Nat.add_assoc]

/-- Without a line feed behind a boundary, the text ends with the line. -/
lemma nextLineStart_of_not_mem {l : Text} (hl : '\n' ∉ l) (a : Text) :
    nextLineStart (a ++ l) (size a) = size (a ++ l) := by
  have h := nextLineStartFrom_of_not_mem hl [] (size a) (0 + size a)
  rw [List.append_nil] at h
  rw [nextLineStart, nextLineStartFrom_append a l (by omega), h]
  simp [nextLineStartFrom]

/-- A text without a line feed, or the part of it up to the first one. -/
lemma exists_line_append (t : Text) :
    '\n' ∉ t ∨ ∃ l r, t = l ++ '\n' :: r ∧ '\n' ∉ l := by
  by_cases h : '\n' ∈ t
  · obtain ⟨l, r, rfl, hl⟩ := List.eq_append_cons_of_mem h
    exact .inr ⟨l, r, rfl, hl⟩
  · exact .inl h

/-- The line after a boundary starts at a line start, or is not there: then the text ends with the
line around the boundary. -/
lemma nextLineStart_isLineStart {t : Text} {n : Nat} (h : t.isBoundary n = true) :
    (IsLineStart t (t.nextLineStart n) ∨ t.nextLineStart n = size t) ∧ n ≤ t.nextLineStart n := by
  obtain ⟨a, b, rfl, rfl⟩ := isBoundary_iff.mp h
  rcases exists_line_append b with hb | ⟨l, r, rfl, hl⟩
  · rw [nextLineStart_of_not_mem hb]
    exact ⟨.inr rfl, by simp⟩
  · rw [← List.append_assoc, nextLineStart_append hl]
    exact ⟨.inl ⟨a ++ l ++ ['\n'], r, by simp, rfl, .inr (by simp)⟩, by simp⟩

/-- The line after a boundary starts at a boundary. -/
lemma isBoundary_nextLineStart {t : Text} {n : Nat} (h : t.isBoundary n = true) :
    t.isBoundary (t.nextLineStart n) = true := by
  rcases (nextLineStart_isLineStart h).1 with hs | hs
  · exact hs.isBoundary
  · rw [hs]
    simpa using isBoundary_append t []

end Text

end Gloss
