import Gloss.Proofs.Edit.Assemble
import Gloss.Proofs.Lines

/-!
# Putting blocks of lines into a text

Blocks of lines that go to starts of lines, and behind an unterminated last line with a line feed of
their own, keep every line of the text as it is and become lines themselves.

## Main definitions

* `LineBlocks`: blocks of lines that go to starts of lines.
* `StartIsFree`: no block goes behind a mark of the byte order.

## Main results

* `LineBlocks.standsIn_of_standsIn`: what stands at the start of a line of the text still does when
  the blocks have been put into it.
* `LineBlocks.exists_eq_append_of_mem`: the blocks stand in the new text.
* `LineBlocks.mem_split_substituteFrom`: the new text has no other lines.
* `lineBlocks_placedBlocks`: the blocks of fragments go to starts of lines.
* `standsIn_of_mem_lines`: the lines of fragments are lines of the new text.
-/

set_option relaxedAutoImplicit false
set_option autoImplicit false

namespace Gloss

open Text

/-! ## Blocks at starts of lines -/

/-- The blocks are lines that go to starts of lines. One that goes behind an unterminated last line
starts with a line feed. -/
def LineBlocks (t : Text) (B : List Block) : Prop :=
  ∀ b ∈ B, b.text.getLast? = some '\n' ∧
    (IsLineStart t b.offset ∨ b.offset = size t ∧ b.text.head? = some '\n')

namespace LineBlocks

variable {t : Text} {B : List Block}

/-- All blocks that go to one place end with a line. -/
lemma endsLine_flatMap {bs : List Block} (h : ∀ b ∈ bs, b.text.getLast? = some '\n') :
    EndsLine (bs.flatMap Block.text) := by
  induction bs with
  | nil => exact .inl rfl
  | cons b bs ih =>
    obtain ⟨hb, hbs⟩ := List.forall_mem_cons.mp h
    rw [List.flatMap_cons]
    exact EndsLine.append (.inr hb) (ih hbs)

/-- The blocks that go to one place end a line. -/
lemma endsLine_blocksAt (h : LineBlocks t B) (x : Nat) : EndsLine (blocksAt B x) :=
  endsLine_flatMap fun b hb => (h b (List.mem_of_mem_filter hb)).1

/-- When only blocks are put into whole lines, they stay whole lines. -/
lemma endsLine_passOver (B : List Block) {a : Text} (ha : EndsLine a) (here : Nat) :
    EndsLine (passOver [] B here a) := by
  rcases ha with rfl | ha
  · exact .inl rfl
  · obtain ⟨a, rfl⟩ := List.getLast?_eq_some_iff.mp ha
    rw [passOver_append]
    exact .inr (by simp [passOver])

/-- A part of the text into which no block goes stays as it is. -/
lemma passOver_of_no_blocks {here : Nat} (w : Text)
    (hB : ∀ x, here ≤ x → x < here + size w → blocksAt B x = []) : passOver [] B here w = w := by
  induction w generalizing here with
  | nil => rfl
  | cons c w ih =>
    have hc := Char.utf8Size_pos c
    rw [size_cons] at hB
    rw [passOver, hB here (by omega) (by omega), ih fun x h₁ h₂ => hB x (by omega) (by omega)]
    rfl

/-- If blocks only go to the start of a part of the text, they come in front of it. -/
lemma passOver_of_blocks_at_start {here : Nat} {w : Text} (hne : w ≠ [])
    (hB : ∀ x, here < x → x < here + size w → blocksAt B x = []) :
    passOver [] B here w = blocksAt B here ++ w := by
  obtain ⟨c, w, rfl⟩ := List.exists_cons_of_ne_nil hne
  have hc := Char.utf8Size_pos c
  rw [size_cons] at hB
  rw [passOver, passOver_of_no_blocks w fun x h₁ h₂ => hB x (by omega) (by omega)]
  simp [newTextAt]

/-- The blocks that go to a place come first there. -/
lemma substituteFrom_eq_blocksAt_append (R : List Replacement) (B : List Block) (here : Nat)
    (t : Text) : ∃ rest, substituteFrom R B here t = blocksAt B here ++ rest := by
  cases t with
  | nil => exact ⟨[], by simp [substituteFrom]⟩
  | cons c t =>
    simp only [substituteFrom, List.append_assoc]
    exact ⟨_, rfl⟩

/-- No block goes into a text without line feeds, or right behind it if the text goes on there. -/
lemma blocksAt_inside {a s b : Text} (h : LineBlocks (a ++ s ++ b) B) (hs : '\n' ∉ s) {x : Nat}
    (hlt : size a < x) (hle : x ≤ size (a ++ s)) (hend : x ≠ size (a ++ s ++ b)) :
    blocksAt B x = [] := by
  refine blocksAt_eq_nil fun b hb heq => ?_
  rcases (h b hb).2 with hstart | ⟨hsize, -⟩
  · rw [heq] at hstart
    exact not_isLineStart_inside hs hlt hle hstart
  · exact hend (heq.symm.trans hsize)

/-- Behind a text without line feeds comes what came there before, or a line feed.

**Proof sketch.** If the text goes on, no block goes there. At its end only blocks go there that
start with a line feed. -/
lemma head?_substituteFrom {a s b : Text} (h : LineBlocks (a ++ s ++ b) B) (hs : '\n' ∉ s)
    (hne : s ≠ []) :
    ∀ c ∈ (substituteFrom [] B (size (a ++ s)) b).head?, c = '\n' ∨ c ∈ b.head? := by
  have hlt : size a < size (a ++ s) := by
    have : size s ≠ 0 := fun h => hne (size_eq_zero_iff.mp h)
    rw [size_append]
    omega
  intro c hc
  cases b with
  | nil =>
    left
    rw [substituteFrom, blocksAt] at hc
    cases hfilter : B.filter fun b => b.offset == size (a ++ s) with
    | nil =>
      rw [hfilter] at hc
      simp at hc
    | cons b bs =>
      have hmem : b ∈ B.filter fun b => b.offset == size (a ++ s) := by
        rw [hfilter]
        exact List.mem_cons_self
      obtain ⟨hb, hoffset⟩ := List.mem_filter.mp hmem
      rw [beq_iff_eq] at hoffset
      rcases (h b hb).2 with hstart | ⟨-, hhead⟩
      · rw [hoffset] at hstart
        exact absurd hstart (not_isLineStart_inside hs hlt (Nat.le_refl _))
      · rw [hfilter, List.flatMap_cons, List.head?_append, hhead] at hc
        simpa using hc.symm
  | cons d b =>
    right
    have hnone : blocksAt B (size (a ++ s)) = [] := h.blocksAt_inside hs hlt (Nat.le_refl _) (by
      have := Char.utf8Size_pos d
      rw [size_append (a ++ s), size_cons]
      omega)
    rw [substituteFrom, hnone] at hc
    simpa [newTextAt] using hc

/-- **Lines of the text stay.** What stands at the start of a line of the text, without line feeds,
still does when blocks of lines have been put into the text; behind it comes what came there before,
or a line feed.

**Proof sketch.** No block goes inside the line, so it is passed over in one piece, with blocks in
front of it only. What is in front ends a line, as all blocks do; behind it comes a block that
starts with a line feed, or what came there before. -/
lemma standsIn_of_standsIn (h : LineBlocks t B) {s : Text} {after : Char → Prop}
    (hst : StandsIn t s after) (hs : '\n' ∉ s) (hne : s ≠ []) :
    StandsIn (substituteFrom [] B 0 t) s fun c => c = '\n' ∨ after c := by
  obtain ⟨a, b, rfl, ha, hafter⟩ := hst
  have hline : passOver [] B (size a) s = blocksAt B (size a) ++ s :=
    passOver_of_blocks_at_start hne fun x h₁ h₂ => by
      refine h.blocksAt_inside hs h₁ ?_ ?_
      · rw [size_append]
        omega
      · rw [size_append, size_append]
        omega
  have hsub : substituteFrom [] B 0 (a ++ s ++ b) =
      passOver [] B 0 a ++ blocksAt B (size a) ++ s ++ substituteFrom [] B (size (a ++ s)) b := by
    rw [substituteFrom_append, passOver_append, Nat.zero_add, Nat.zero_add, hline]
    simp only [List.append_assoc]
  refine ⟨_, _, hsub, EndsLine.append (endsLine_passOver B ha 0) (h.endsLine_blocksAt _), ?_⟩
  intro d hd
  rcases h.head?_substituteFrom hs hne d hd with hfeed | hbefore
  · exact .inl hfeed
  · exact .inr (hafter d hbefore)

/-- **Blocks become lines.** Every block is a part of the new text, at the start of a line if it
goes to one.

**Proof sketch.** The blocks that go to the offset of the block are those before it, the block, and
those behind it. In front of them comes what has been passed over, and that ends a line where the
offset starts one. -/
lemma exists_eq_append_of_mem (h : LineBlocks t B) {b : Block} (hb : b ∈ B) :
    ∃ x y, substituteFrom [] B 0 t = x ++ b.text ++ y ∧ (IsLineStart t b.offset → EndsLine x) := by
  obtain ⟨before, after, hfilter⟩ : ∃ before after,
      (B.filter fun other => other.offset == b.offset) = before ++ b :: after :=
    List.append_of_mem (List.mem_filter.mpr ⟨hb, by simp⟩)
  have hbefore : EndsLine (before.flatMap Block.text) := endsLine_flatMap fun other hother => by
    have hmem : other ∈ B.filter fun other => other.offset == b.offset := by
      rw [hfilter]
      exact List.mem_append_left _ hother
    exact (h other (List.mem_of_mem_filter hmem)).1
  -- The text in front of the block may be any, if only its size is right.
  have hsplit : ∀ a c, t = a ++ c → size a = b.offset → ∃ y, substituteFrom [] B 0 t =
      passOver [] B 0 a ++ before.flatMap Block.text ++ b.text ++ y := by
    rintro a c rfl hsize
    obtain ⟨rest, hrest⟩ := substituteFrom_eq_blocksAt_append [] B (size a) c
    refine ⟨after.flatMap Block.text ++ rest, ?_⟩
    rw [substituteFrom_append, Nat.zero_add, hrest, hsize, blocksAt, hfilter]
    simp
  by_cases hstart : IsLineStart t b.offset
  · obtain ⟨a, c, ht, ha, hends⟩ := hstart
    obtain ⟨y, hy⟩ := hsplit a c ht ha
    exact ⟨_, y, hy, fun _ => EndsLine.append (endsLine_passOver B hends 0) hbefore⟩
  · obtain ⟨hsize, -⟩ := (h b hb).2.resolve_left hstart
    obtain ⟨y, hy⟩ := hsplit t [] (by simp) hsize.symm
    exact ⟨_, y, hy, fun h => absurd h hstart⟩

/-- The lines of the text stay, white space at their ends left out. -/
lemma mem_trimmedLines (h : LineBlocks t B) {line : Text}
    (hne : line ≠ []) (hline : line ∈ t.trimmedLines) :
    line ∈ (substituteFrom [] B 0 t).trimmedLines := by
  obtain ⟨piece, hpiece, rfl⟩ := (mem_trimmedLines_iff hne).mp hline
  obtain ⟨hfeed, hstands⟩ := mem_split_lineFeed_iff.mp hpiece
  have hpiece : piece ≠ [] := by
    rintro rfl
    exact hne rfl
  obtain ⟨a, b, hout, ha, hb⟩ := h.standsIn_of_standsIn hstands hfeed hpiece
  refine (mem_trimmedLines_iff hne).mpr
    ⟨piece, mem_split_lineFeed_iff.mpr ⟨hfeed, a, b, hout, ha, fun c hc => ?_⟩, rfl⟩
  exact (hb c hc).elim id id

/-! ### No other lines -/

/-- The lines of blocks that go to one place are lines of the blocks. -/
lemma mem_split_flatMap {bs : List Block} (h : ∀ b ∈ bs, b.text.getLast? = some '\n') {piece : Text}
    (hpiece : piece ∈ split '\n' (bs.flatMap Block.text)) :
    piece = [] ∨ ∃ b ∈ bs, piece ∈ split '\n' b.text := by
  induction bs with
  | nil => exact .inl (List.mem_singleton.mp hpiece)
  | cons b bs ih =>
    obtain ⟨hb, hbs⟩ := List.forall_mem_cons.mp h
    rw [List.flatMap_cons] at hpiece
    rcases mem_split_of_mem_append (.inr hb) hpiece with hpiece | hpiece
    · exact .inr ⟨b, List.mem_cons_self, hpiece⟩
    · rcases ih hbs hpiece with hnil | ⟨b', hb', hpiece⟩
      · exact .inl hnil
      · exact .inr ⟨b', List.mem_cons_of_mem _ hb', hpiece⟩

/-- A line of the blocks that go to one place, if it is not empty, is a line of a block. -/
lemma mem_split_blocksAt (h : LineBlocks t B) {x : Nat} {piece : Text}
    (hpiece : piece ∈ split '\n' (blocksAt B x)) :
    piece = [] ∨ ∃ b ∈ B, piece ∈ split '\n' b.text := by
  rcases mem_split_flatMap (fun b hb => (h b (List.mem_of_mem_filter hb)).1) hpiece with
    hnil | ⟨b, hb, hpiece⟩
  · exact .inl hnil
  · exact .inr ⟨b, List.mem_of_mem_filter hb, hpiece⟩

/-- A last line without a line feed stays one. Blocks come in front of it and end with a line feed,
or they come behind it and start with one. -/
lemma mem_split_lastLine {a s : Text} (h : LineBlocks (a ++ s) B) (hs : '\n' ∉ s) {piece : Text}
    (hpiece : piece ∈ split '\n' (substituteFrom [] B (size a) s)) :
    piece = [] ∨ piece ∈ split '\n' s ∨ ∃ b ∈ B, piece ∈ split '\n' b.text := by
  by_cases hne : s = []
  · subst hne
    exact (h.mem_split_blocksAt hpiece).imp_right .inr
  rw [← List.append_nil (a ++ s)] at h
  have hline : passOver [] B (size a) s = blocksAt B (size a) ++ s :=
    passOver_of_blocks_at_start hne fun x h₁ h₂ => by
      refine h.blocksAt_inside hs h₁ ?_ ?_
      · rw [size_append]
        omega
      · rw [List.append_nil, size_append]
        omega
  rw [substituteFrom_eq_passOver, hline, List.append_assoc] at hpiece
  rcases mem_split_of_mem_append (h.endsLine_blocksAt _) hpiece with hpiece | hpiece
  · exact (h.mem_split_blocksAt hpiece).imp_right .inr
  have hhead := h.head?_substituteFrom hs hne
  rw [size_append, substituteFrom] at hhead
  cases hend : blocksAt B (size a + size s) with
  | nil =>
    rw [hend, List.append_nil] at hpiece
    exact .inr (.inl hpiece)
  | cons d more =>
    rw [hend] at hhead hpiece
    obtain rfl : d = '\n' := by simpa using hhead d rfl
    rw [split_append_mark] at hpiece
    rcases List.mem_append.mp hpiece with hpiece | hpiece
    · exact .inr (.inl hpiece)
    · refine (h.mem_split_blocksAt (x := size a + size s) ?_).imp_right .inr
      rw [hend, split_cons_mark]
      exact List.mem_cons_of_mem _ hpiece

/-- A line stays as it is, with the blocks in front of it. -/
lemma substituteFrom_line {a l r : Text} (h : LineBlocks (a ++ (l ++ '\n' :: r)) B)
    (hl : '\n' ∉ l) :
    substituteFrom [] B (size a) (l ++ '\n' :: r) =
      blocksAt B (size a) ++ (l ++ '\n' :: substituteFrom [] B (size (a ++ (l ++ ['\n']))) r) := by
  have hline : passOver [] B (size a) (l ++ ['\n']) = blocksAt B (size a) ++ (l ++ ['\n']) :=
    passOver_of_blocks_at_start (by simp) fun x h₁ h₂ => by
      rw [← List.append_assoc] at h
      rw [size_append, size_cons, size_nil, utf8Size_lineFeed] at h₂
      refine h.blocksAt_inside hl h₁ ?_ ?_
      · rw [size_append]
        omega
      · rw [size_append, size_append, size_cons, utf8Size_lineFeed]
        omega
  have happend := substituteFrom_append [] B (size a) (l ++ ['\n']) r
  rw [hline] at happend
  simpa [Nat.add_assoc] using happend

/-- **No other lines come into the text.** Every line of the new text that is not empty is a line of
the old one or of a block.

**Proof sketch.** By induction on the rest of the text, line by line. Blocks come in front of a
line, and end with a line feed, so that no line is made longer. Only blocks behind an unterminated
last line come behind a line, and these start with a line feed. -/
lemma mem_split_substituteFrom {a r : Text} (h : LineBlocks (a ++ r) B) {piece : Text}
    (hpiece : piece ∈ split '\n' (substituteFrom [] B (size a) r)) :
    piece = [] ∨ piece ∈ split '\n' r ∨ ∃ b ∈ B, piece ∈ split '\n' b.text := by
  induction hn : r.length using Nat.strongRecOn generalizing a r with
  | ind n ih =>
    rcases exists_line_append r with hr | ⟨l, r, rfl, hl⟩
    · exact h.mem_split_lastLine hr hpiece
    · rw [h.substituteFrom_line hl] at hpiece
      have hold : ∀ {piece}, piece ∈ split '\n' l ∨ piece ∈ split '\n' r →
          piece ∈ split '\n' (l ++ '\n' :: r) := fun hor => by
        rw [split_append_mark]
        exact List.mem_append.mpr hor
      rcases mem_split_of_mem_append (h.endsLine_blocksAt _) hpiece with hpiece | hpiece
      · exact (h.mem_split_blocksAt hpiece).imp_right .inr
      rw [split_append_mark] at hpiece
      rcases List.mem_append.mp hpiece with hpiece | hpiece
      · exact .inr (.inl (hold (.inl hpiece)))
      -- The rest starts behind the line feed, where it is shorter.
      have hwhole : a ++ (l ++ '\n' :: r) = a ++ (l ++ ['\n']) ++ r := by simp
      have hlt : r.length < n := by
        rw [← hn, List.length_append, List.length_cons]
        omega
      rw [hwhole] at h
      rcases ih _ hlt h hpiece rfl with hnil | hlater | hblock
      · exact .inl hnil
      · exact .inr (.inl (hold (.inr hlater)))
      · exact .inr (.inr hblock)

end LineBlocks

/-! ## The blocks of fragments -/

/-- A placement is the start of a line, or the end of an unterminated last line, except for the
start of a file that has a mark of the byte order. -/
lemma Placement.position_isLineStart {t : Text} {placement : Placement} {offset : Nat}
    {needsLineFeed : Bool} (hmark : placement = .fileStart → t.head? ≠ some byteOrderMark)
    (h : placement.position t = .ok (offset, needsLineFeed)) :
    IsLineStart t offset ∨ offset = size t ∧ needsLineFeed = true := by
  have hall := Placement.position_isOk_iff.mp ⟨_, h⟩
  cases placement with
  | fileStart =>
    obtain ⟨rfl, -⟩ : 0 = offset ∧ false = needsLineFeed := by
      simpa [position, hmark rfl, pure, Except.pure] using h
    exact .inl ⟨[], t, rfl, rfl, .inl rfl⟩
  | above around =>
    have hb := hall around rfl
    simp only [position, checkOffset_eq_ok_iff.mpr hb] at h
    obtain ⟨rfl, -⟩ : t.lineStart around = offset ∧ false = needsLineFeed := by
      simpa [bind, Except.bind, pure, Except.pure] using h
    exact .inl (lineStart_isLineStart hb).1
  | below around =>
    have hb := hall around rfl
    simp only [position, checkOffset_eq_ok_iff.mpr hb] at h
    obtain ⟨rfl, hneeds⟩ : t.nextLineStart around = offset ∧
        (t.nextLineStart around == t.size && endsUnterminated t) = needsLineFeed := by
      simpa [bind, Except.bind, pure, Except.pure] using h
    rcases (nextLineStart_isLineStart hb).1 with hstart | hsize
    · exact .inl hstart
    · cases hopen : endsUnterminated t with
      | true =>
        refine .inr ⟨hsize, ?_⟩
        rw [← hneeds, hsize, hopen]
        simp
      | false =>
        refine .inl ⟨t, [], by simp, hsize.symm, ?_⟩
        simpa [endsUnterminated, EndsLine, imp_iff_not_or] using hopen

/-- The lines of a block, each with its line feed. -/
lemma Fragment.render_note {lines : List Text} (hne : lines ≠ []) (placement : Placement) :
    (Fragment.note lines placement).render = lines.flatMap fun line => line ++ ['\n'] := by
  induction lines with
  | nil => exact absurd rfl hne
  | cons line lines ih =>
    cases lines with
    | nil => simp [render]
    | cons next lines =>
      have ih := ih (List.cons_ne_nil next lines)
      rw [render] at ih ⊢
      rw [List.intercalate_cons_cons, List.append_assoc, ih]
      simp only [List.flatMap_cons]

/-- Where a line stands in its block. -/
lemma Fragment.exists_render_eq {lines : List Text} {line : Text} (h : line ∈ lines)
    (placement : Placement) :
    ∃ u v, (Fragment.note lines placement).render = u ++ line ++ '\n' :: v ∧ EndsLine u := by
  obtain ⟨before, after, rfl⟩ := List.append_of_mem h
  refine ⟨before.flatMap fun line => line ++ ['\n'],
    after.flatMap fun line => line ++ ['\n'], ?_, ?_⟩
  · rw [render_note (by simp)]
    simp
  · induction before with
    | nil => exact .inl rfl
    | cons first before ih =>
      rw [List.flatMap_cons]
      exact EndsLine.append (.inr (by simp)) (ih (by simp))

/-- No block goes to the start of a text that has a mark of the byte order there. -/
def StartIsFree (t : Text) (fragments : List Fragment) : Prop :=
  ∀ lines, Fragment.note lines .fileStart ∈ fragments → t.head? ≠ some byteOrderMark

section NoReplacements

variable {t : Text} {fragments : List Fragment}

/-- If nothing is replaced, blocks land where they are placed. -/
lemma placedBlocks_of_keptReplacements_eq_nil (hkept : keptReplacements fragments = []) :
    placedBlocks t fragments = fragments.filterMap (Fragment.block? t) := by
  rw [placedBlocks, hkept]
  exact List.map_id _

/-- A block goes to the start of a line, or behind an unterminated last line. -/
lemma StartIsFree.position_isLineStart (hfree : StartIsFree t fragments) {lines : List Text}
    {placement : Placement} (hf : Fragment.note lines placement ∈ fragments) {offset : Nat}
    {needsLineFeed : Bool} (h : placement.position t = .ok (offset, needsLineFeed)) :
    IsLineStart t offset ∨ offset = size t ∧ needsLineFeed = true :=
  Placement.position_isLineStart (fun hstart => hfree lines (hstart ▸ hf)) h

/-- **The blocks of fragments go to starts of lines**, if nothing is replaced and no block goes
behind a mark of the byte order. -/
lemma lineBlocks_placedBlocks (hkept : keptReplacements fragments = [])
    (hfree : StartIsFree t fragments) : LineBlocks t (placedBlocks t fragments) := by
  intro b hb
  rw [placedBlocks_of_keptReplacements_eq_nil hkept] at hb
  obtain ⟨f, hf, hblock⟩ := List.mem_filterMap.mp hb
  obtain ⟨-, placement, offset, needsLineFeed, hnote, hposition, rfl⟩ :=
    Fragment.block?_eq_some_iff.mp hblock
  constructor
  · rw [hnote]
    simp [Fragment.render]
  · rcases hfree.position_isLineStart (hnote ▸ hf) hposition with hstart | ⟨hend, rfl⟩
    · exact .inl hstart
    · exact .inr ⟨hend, rfl⟩

/-- **The lines of fragments are lines of the new text**, if nothing is replaced and no block goes
behind a mark of the byte order.

**Proof sketch.** The block of the fragment is a part of the new text. The line is one of the lines
of the block, with a line feed behind it; in front of it comes a line of the block or the start of
the line that the block goes to. -/
lemma standsIn_of_mem_lines (hkept : keptReplacements fragments = [])
    (hfree : StartIsFree t fragments) {f : Fragment} (hf : f ∈ fragments) {b : Block}
    (hblock : f.block? t = some b) {line : Text} (hline : line ∈ f.lines) :
    StandsIn (substituted t fragments) line (· = '\n') := by
  have hb : b ∈ placedBlocks t fragments := by
    rw [placedBlocks_of_keptReplacements_eq_nil hkept]
    exact List.mem_filterMap.mpr ⟨f, hf, hblock⟩
  obtain ⟨x, y, hout, hx⟩ := (lineBlocks_placedBlocks hkept hfree).exists_eq_append_of_mem hb
  obtain ⟨-, placement, offset, needsLineFeed, hnote, hposition, rfl⟩ :=
    Fragment.block?_eq_some_iff.mp hblock
  obtain ⟨u, v, hrender, hu⟩ := Fragment.exists_render_eq hline placement
  rw [← hnote] at hrender
  rw [substituted, hkept, hout, hrender]
  refine ⟨x ++ (if needsLineFeed then ['\n'] else []) ++ u, '\n' :: v ++ y, by simp,
    EndsLine.append ?_ hu, by simp⟩
  rcases hfree.position_isLineStart (hnote ▸ hf) hposition with hstart | ⟨-, rfl⟩
  · cases needsLineFeed with
    | false => simpa using hx hstart
    | true => exact .inr (by simp)
  · exact .inr (by simp)

end NoReplacements

end Gloss
