import Gloss.Proofs.Boundary

/-!
# Pieces of a text between marks

How the pieces of a text hang together with the pieces of its parts. Lines are such pieces, with the
line feed as the mark.

## Main definitions

* `Text.StandsIn`: a text stands at the start of a line.

## Main results

* `Text.split_append`: the pieces of two texts, one after the other.
* `Text.split_append_mark`: the pieces of two texts with a mark between them.
* `Text.mem_split_iff`: a piece reaches from a mark or the start to a mark or the end.
* `Text.mem_trimmedLines_iff`: the lines of a text that are not empty.
* `Text.not_mem_of_mem_trimmedLines`: a line holds no line feed.
-/

set_option relaxedAutoImplicit false
set_option autoImplicit false

namespace Gloss

namespace Text

variable {m : Char}

/-- There is at least one piece. -/
lemma split_ne_nil (m : Char) (t : Text) : split m t ≠ [] := by
  cases t with
  | nil => simp [split]
  | cons c t =>
    rw [split]
    split
    · simp
    · split <;> simp

/-- A mark at the start leaves an empty piece in front of it. -/
lemma split_cons_mark (m : Char) (t : Text) : split m (m :: t) = [] :: split m t := by
  simp [split]

/-- A character that is no mark belongs to the first piece. -/
lemma split_cons_of_ne {c : Char} (hc : c ≠ m) {t piece : Text} {pieces : List Text}
    (ht : split m t = piece :: pieces) : split m (c :: t) = (c :: piece) :: pieces := by
  simp [split, hc, ht]

/-- A text without marks is one piece. -/
lemma split_of_not_mem {t : Text} (h : m ∉ t) : split m t = [t] := by
  induction t with
  | nil => rfl
  | cons c t ih =>
    rw [List.mem_cons, not_or] at h
    exact split_cons_of_ne (Ne.symm h.1) (ih h.2)

/-- **The pieces of two texts**, one after the other: the last piece of the first and the first
piece of the second become one.

**Proof sketch.** Induction on the first text. A mark ends the first piece; any other character goes
to its front. -/
lemma split_append {x z last first : Text} {pieces rest : List Text}
    (hx : split m x = pieces ++ [last]) (hz : split m z = first :: rest) :
    split m (x ++ z) = pieces ++ (last ++ first) :: rest := by
  induction x generalizing pieces last with
  | nil =>
    have hnil : pieces ++ [last] = [[]] := hx.symm
    obtain ⟨rfl, rfl⟩ : pieces = [] ∧ last = [] := by
      simpa [List.append_eq_singleton_iff] using hnil
    exact hz
  | cons c x ih =>
    by_cases hc : c = m
    · subst hc
      rw [split_cons_mark] at hx
      cases pieces with
      | nil => exact absurd (List.cons.inj hx).2 (split_ne_nil c x)
      | cons piece pieces =>
        obtain ⟨rfl, htail⟩ := List.cons.inj hx
        rw [List.cons_append, split_cons_mark, ih htail, List.cons_append]
    · obtain ⟨p, ps, hps⟩ := List.exists_cons_of_ne_nil (split_ne_nil m x)
      rw [split_cons_of_ne hc hps] at hx
      cases pieces with
      | nil =>
        obtain ⟨rfl, rfl⟩ := List.cons.inj hx
        have hrest : split m (x ++ z) = [] ++ (p ++ first) :: rest := ih hps
        exact split_cons_of_ne hc hrest
      | cons piece pieces =>
        obtain ⟨rfl, rfl⟩ := List.cons.inj hx
        have hrest : split m (x ++ z) = (p :: pieces) ++ (last ++ first) :: rest := ih hps
        exact split_cons_of_ne hc hrest

/-- A mark between two texts divides their pieces. -/
lemma split_append_mark (m : Char) (x y : Text) :
    split m (x ++ m :: y) = split m x ++ split m y := by
  obtain ⟨pieces, last, hx⟩ : ∃ pieces last, split m x = pieces ++ [last] :=
    ⟨_, _, (List.dropLast_concat_getLast (split_ne_nil m x)).symm⟩
  rw [split_append hx (split_cons_mark m y), hx]
  simp

/-- After whole lines the pieces of two texts, one after the other, are pieces of one of them. -/
lemma mem_split_of_mem_append {x y piece : Text} (hx : EndsLine x)
    (h : piece ∈ split '\n' (x ++ y)) : piece ∈ split '\n' x ∨ piece ∈ split '\n' y := by
  rcases hx with rfl | hx
  · exact .inr h
  · obtain ⟨x, rfl⟩ := List.getLast?_eq_some_iff.mp hx
    rw [List.append_assoc, List.singleton_append, split_append_mark] at h
    rw [split_append_mark]
    rcases List.mem_append.mp h with h | h
    · exact .inl (List.mem_append_left _ h)
    · exact .inr h

/-- **A piece** is a part without marks that reaches from a mark, or the start of the text, to a
mark, or the end of the text.

**Proof sketch.** The pieces of a text are the one up to its first mark and those of the rest, by
induction on the length. Conversely a text that is cut at marks has the pieces of its parts. -/
lemma mem_split_iff {t piece : Text} :
    piece ∈ split m t ↔ ∃ a b, t = a ++ piece ++ b ∧ m ∉ piece ∧ (a = [] ∨ a.getLast? = some m) ∧
      (b = [] ∨ b.head? = some m) := by
  constructor
  · intro h
    induction hn : t.length using Nat.strongRecOn generalizing t with
    | ind n ih =>
      by_cases hm : m ∈ t
      · obtain ⟨l, r, rfl, hl⟩ := List.eq_append_cons_of_mem hm
        rw [split_append_mark, split_of_not_mem hl] at h
        rcases List.mem_append.mp h with h | h
        · obtain rfl := List.mem_singleton.mp h
          exact ⟨[], m :: r, by simp, hl, .inl rfl, .inr rfl⟩
        · have hlt : r.length < n := by
            rw [← hn, List.length_append, List.length_cons]
            omega
          obtain ⟨a, b, rfl, hpiece, ha, hb⟩ := ih _ hlt h rfl
          refine ⟨l ++ m :: a, b, by simp, hpiece, .inr ?_, hb⟩
          rcases ha with rfl | ha
          · simp
          · simp [List.getLast?_append, List.getLast?_cons, ha]
      · rw [split_of_not_mem hm] at h
        obtain rfl := List.mem_singleton.mp h
        exact ⟨[], [], by simp, hm, .inl rfl, .inl rfl⟩
  · rintro ⟨a, b, rfl, hpiece, ha, hb⟩
    have hfirst : piece ∈ split m (piece ++ b) := by
      rcases hb with rfl | hb
      · rw [List.append_nil, split_of_not_mem hpiece]
        exact List.mem_cons_self
      · obtain ⟨b, rfl⟩ := List.head?_eq_some_iff.mp hb
        rw [split_append_mark, split_of_not_mem hpiece]
        exact List.mem_cons_self
    rcases ha with rfl | ha
    · exact hfirst
    · obtain ⟨a, rfl⟩ := List.getLast?_eq_some_iff.mp ha
      rw [List.append_assoc, List.append_assoc, List.singleton_append, split_append_mark]
      exact List.mem_append_right _ hfirst

/-- No piece holds a mark. -/
lemma not_mem_of_mem_split {t piece : Text} (h : piece ∈ split m t) : m ∉ piece := by
  obtain ⟨a, b, -, hpiece, -⟩ := mem_split_iff.mp h
  exact hpiece

/-- The characters of a piece are characters of the text. -/
lemma subset_of_mem_split {t piece : Text} (h : piece ∈ split m t) : piece ⊆ t := by
  obtain ⟨a, b, rfl, -⟩ := mem_split_iff.mp h
  exact fun c hc => List.mem_append_left _ (List.mem_append_right _ hc)

/-- The characters of a text other than marks are characters of its pieces. -/
lemma exists_mem_split_of_mem {t : Text} {c : Char} (hc : c ≠ m) (h : c ∈ t) :
    ∃ piece ∈ split m t, c ∈ piece := by
  obtain ⟨x, y, rfl⟩ := List.append_of_mem h
  obtain ⟨pieces, last, hx⟩ : ∃ pieces last, split m x = pieces ++ [last] :=
    ⟨_, _, (List.dropLast_concat_getLast (split_ne_nil m x)).symm⟩
  obtain ⟨first, rest, hy⟩ := List.exists_cons_of_ne_nil (split_ne_nil m y)
  exact ⟨last ++ c :: first, by simp [split_append hx (split_cons_of_ne hc hy)], by simp⟩

/-! ## Texts at starts of lines -/

/-- The text `s` stands at the start of a line, and `after` holds of the character behind it, if
there is one. -/
def StandsIn (t s : Text) (after : Char → Prop) : Prop :=
  ∃ a b, t = a ++ s ++ b ∧ EndsLine a ∧ ∀ c ∈ b.head?, after c

/-- Two texts that end lines end one together. -/
lemma EndsLine.append {a b : Text} (ha : EndsLine a) (hb : EndsLine b) : EndsLine (a ++ b) := by
  rcases hb with rfl | hb
  · rwa [List.append_nil]
  · exact .inr (by rw [List.getLast?_append, hb]; rfl)

/-- A piece between line feeds stands at the start of a line, with a line feed behind it. -/
lemma mem_split_lineFeed_iff {t piece : Text} :
    piece ∈ split '\n' t ↔ '\n' ∉ piece ∧ StandsIn t piece (· = '\n') := by
  rw [mem_split_iff]
  constructor
  · rintro ⟨a, b, ht, hpiece, ha, hb⟩
    refine ⟨hpiece, a, b, ht, ha, fun c hc => ?_⟩
    rcases hb with rfl | hb
    · simp at hc
    · exact Option.some.inj (hc.symm.trans hb)
  · rintro ⟨hpiece, a, b, ht, ha, hb⟩
    refine ⟨a, b, ht, hpiece, ha, ?_⟩
    cases b with
    | nil => exact .inl rfl
    | cons c b => exact .inr (congrArg some (hb c rfl))

/-- No line starts inside a text without line feeds, or right behind it. -/
lemma not_isLineStart_inside {a s b : Text} (hs : '\n' ∉ s) {x : Nat} (hlt : size a < x)
    (hle : x ≤ size (a ++ s)) : ¬ IsLineStart (a ++ s ++ b) x := by
  rintro ⟨a', b', heq, rfl, ha'⟩
  obtain ⟨u, rfl, -⟩ : ∃ u, a' = a ++ u ∧ s ++ b = u ++ b' :=
    exists_eq_append_of_size_le (by rw [← heq, List.append_assoc]) (Nat.le_of_lt hlt)
  obtain ⟨v, hv, -⟩ : ∃ v, a ++ s = a ++ u ++ v ∧ b' = v ++ b :=
    exists_eq_append_of_size_le heq.symm hle
  rw [List.append_assoc, List.append_cancel_left_eq] at hv
  rcases ha' with hnil | hlast
  · rw [hnil] at hlt
    simp at hlt
  · rw [List.getLast?_append] at hlast
    cases hu : u.getLast? with
    | none =>
      rw [List.getLast?_eq_none_iff.mp hu] at hlt
      simp at hlt
    | some c =>
      rw [hu] at hlast
      obtain rfl : c = '\n' := by simpa using hlast
      exact hs (hv ▸ List.mem_append_left v (List.mem_of_getLast? hu))

/-! ## Lines -/

/-- Dropping characters from the end adds none. -/
lemma dropEndWhile_subset (p : Char → Bool) (t : Text) : dropEndWhile p t ⊆ t := by
  intro c hc
  have := (List.dropWhile_sublist p).subset (List.mem_reverse.mp hc)
  exact List.mem_reverse.mp this

/-- White space at the ends is left out, and nothing else changes. -/
lemma trim_subset (t : Text) : t.trim ⊆ t :=
  fun _ hc => (List.dropWhile_sublist _).subset (dropEndWhile_subset _ _ hc)

/-- The carriage return of a line ending is white space. -/
lemma trim_chomp (t : Text) : (chomp '\r' t).trim = t.trim := by
  rw [chomp]
  split
  · next hlast =>
    obtain ⟨u, rfl⟩ := List.getLast?_eq_some_iff.mp hlast
    have hreturn : isBlank '\r' = true := by decide
    rw [List.dropLast_concat]
    simp only [trim, trimEnd, trimStart, dropEndWhile, List.dropWhile_append]
    split
    · next hempty => simp [List.isEmpty_iff.mp hempty, hreturn]
    · simp [hreturn]
  · rfl

/-- The lines that are not empty when white space is left out are those of the pieces. -/
lemma exists_mem_linesOfPieces_iff {pieces : List Text} {line : Text} (hne : line ≠ []) :
    (∃ whole ∈ linesOfPieces pieces, whole.trim = line) ↔ ∃ piece ∈ pieces, piece.trim = line := by
  fun_induction linesOfPieces pieces with
  | case1 => simp
  | case2 last hlast =>
    have hnil : trim last = [] := by
      rw [List.isEmpty_iff.mp hlast]
      rfl
    simp [hnil, Ne.symm hne]
  | case3 last hlast => simp
  | case4 piece pieces hmore ih => simp [trim_chomp, ih]

/-- **The lines of a text**, white space at their ends left out, if they are not empty. -/
lemma mem_trimmedLines_iff {t line : Text} (hne : line ≠ []) :
    line ∈ t.trimmedLines ↔ ∃ piece ∈ split '\n' t, piece.trim = line := by
  rw [trimmedLines, List.mem_map, lines]
  exact exists_mem_linesOfPieces_iff hne

/-- A line holds no line feed. -/
lemma not_mem_of_mem_trimmedLines {t line : Text} (h : line ∈ t.trimmedLines) : '\n' ∉ line := by
  intro hmem
  obtain ⟨piece, hpiece, rfl⟩ := (mem_trimmedLines_iff (List.ne_nil_of_mem hmem)).mp h
  exact not_mem_of_mem_split hpiece (trim_subset piece hmem)

end Text

end Gloss
