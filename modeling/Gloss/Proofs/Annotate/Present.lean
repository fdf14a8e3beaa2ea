import Gloss.Proofs.Annotate.Settled
import Gloss.Proofs.Edit.Insertion

/-!
# Blocks that have been put into a text are seen there

Annotation asks a text for its lines, white space at their ends left out, and leaves out what it
finds. So what it has put into a text has to be found there, and it must not find more: a line that
is cut in two, or that has grown together with another one, would be lost or would be taken for a
new one. Blocks of lines without line feeds are found in every order, at every place, behind every
kind of line ending and behind an unterminated last line, unless one of them comes behind a mark of
the byte order.

## Main results

* `Text.split_flatMap_lines`: the lines of a block.
* `mem_trimmedLines_substituted_iff`: the lines of the new text are those of the old one and of the
  blocks.
* `hasLine_applyEdits_iff`: the same of the text after all edits.
-/

set_option relaxedAutoImplicit false
set_option autoImplicit false

namespace Gloss

open Text

/-- Lines that each have a line feed behind them are the lines of their text, which ends with an
empty piece. -/
lemma Text.split_flatMap_lines {lines : List Text} (h : ∀ line ∈ lines, '\n' ∉ line) :
    split '\n' (lines.flatMap fun line => line ++ ['\n']) = lines ++ [[]] := by
  induction lines with
  | nil => rfl
  | cons line lines ih =>
    obtain ⟨hline, hlines⟩ := List.forall_mem_cons.mp h
    rw [List.flatMap_cons, List.append_assoc, List.singleton_append, split_append_mark,
      split_of_not_mem hline, ih hlines]
    rfl

/-- A line of the block of a fragment, if it is not empty, is a line of the fragment. -/
lemma Fragment.mem_lines_of_mem_split {t : Text} {f : Fragment} {b : Block}
    (hblock : f.block? t = some b) (hlines : ∀ line ∈ f.lines, '\n' ∉ line) {piece : Text}
    (hne : piece ≠ []) (hpiece : piece ∈ split '\n' b.text) : piece ∈ f.lines := by
  obtain ⟨hf, placement, offset, needsLineFeed, hnote, -, rfl⟩ := block?_eq_some_iff.mp hblock
  have hrender : piece ∈ split '\n' f.render := by
    cases needsLineFeed with
    | false => exact hpiece
    | true =>
      -- The line feed in front of the block makes an empty piece.
      exact (List.mem_cons.mp (split_cons_mark '\n' f.render ▸ hpiece)).resolve_left hne
  rw [hnote, render_note hf, split_flatMap_lines hlines] at hrender
  exact (List.mem_append.mp hrender).resolve_right fun h => hne (List.mem_singleton.mp h)

section Notes

variable {t : Text} {fragments : List Fragment}

/-- **The lines of the new text are those of the old one and of the blocks**, white space at their
ends left out, if they are not empty.

**Proof sketch.** Blocks go to starts of lines, so the lines of the text stay and the lines of the
blocks become lines of the new text; and since each block ends with a line, no other lines come
about. -/
lemma mem_trimmedLines_substituted_iff (hplaced : ∀ f ∈ fragments, f.IsPlaced t)
    (hlines : ∀ f ∈ fragments, ∀ line ∈ f.lines, '\n' ∉ line) (hfree : StartIsFree t fragments)
    {line : Text} (hne : line ≠ []) :
    line ∈ (substituted t fragments).trimmedLines ↔
      line ∈ t.trimmedLines ∨ ∃ f ∈ fragments, ∃ whole ∈ f.lines, whole.trim = line := by
  have hkept : keptReplacements fragments = [] := keptAfter_notes (fun f hf => (hplaced f hf).1) []
  have hblocks := lineBlocks_placedBlocks hkept hfree
  constructor
  · intro h
    obtain ⟨piece, hpiece, rfl⟩ := (mem_trimmedLines_iff hne).mp h
    have hpiece_ne : piece ≠ [] := by
      rintro rfl
      exact hne rfl
    rw [substituted, hkept] at hpiece
    have hcases := LineBlocks.mem_split_substituteFrom (a := []) hblocks hpiece
    rcases hcases.resolve_left hpiece_ne with hold | ⟨b, hb, hpiece⟩
    · exact .inl ((mem_trimmedLines_iff hne).mpr ⟨piece, hold, rfl⟩)
    · rw [placedBlocks_of_keptReplacements_eq_nil hkept] at hb
      obtain ⟨f, hf, hblock⟩ := List.mem_filterMap.mp hb
      exact .inr ⟨f, hf, piece, f.mem_lines_of_mem_split hblock (hlines f hf) hpiece_ne hpiece, rfl⟩
  · rintro (hold | ⟨f, hf, whole, hwhole, rfl⟩)
    · rw [substituted, hkept]
      exact hblocks.mem_trimmedLines hne hold
    · obtain ⟨b, hblock⟩ := (hplaced f hf).2.exists_block? hwhole
      have hstands := standsIn_of_mem_lines hkept hfree hf hblock hwhole
      exact (mem_trimmedLines_iff hne).mpr
        ⟨whole, mem_split_lineFeed_iff.mpr ⟨hlines f hf whole hwhole, hstands⟩, rfl⟩

/-- **Applied blocks are seen.** Blocks of single lines whose places are boundaries of the text, and
of which none goes behind a mark of the byte order, can be put into the text; then it has a line,
white space at the ends left out, iff it had it before or a line of a block is that line. So nothing
is missing of what has been put into it.

**Proof sketch.** The blocks fit, so they can be assembled and applied, and the new text is the one
that is substituted. Its lines are those of the old text and those of the blocks, since blocks go to
starts of lines and end with a line feed. -/
theorem hasLine_applyEdits_iff (hplaced : ∀ f ∈ fragments, f.IsPlaced t)
    (hlines : ∀ f ∈ fragments, ∀ line ∈ f.lines, '\n' ∉ line) (hfree : StartIsFree t fragments) :
    ∃ edits out, assemble t fragments = .ok edits ∧ applyEdits t edits = .ok out ∧
      (∀ line : Text, line ≠ [] → (out.hasLine line = true ↔
        t.hasLine line = true ∨ ∃ f ∈ fragments, ∃ whole ∈ f.lines, whole.trim = line)) ∧
      ∀ lines : List Text, (∀ line ∈ lines, line ≠ [] ∧ line.trim = line ∧
        ∃ f ∈ fragments, line ∈ f.lines) → missingLines out lines = [] := by
  have hfits : ∀ f ∈ fragments, f.Fits t := fun f hf => (hplaced f hf).2
  obtain ⟨edits, hedits⟩ := exists_assemble hfits
  have happly := applyEdits_of_assemble (fun f hf => (hfits f hf).proper) hedits
  refine ⟨edits, _, hedits, happly, fun line hne => ?_, fun lines hall => ?_⟩
  · simp only [hasLine, List.contains_iff_mem]
    exact mem_trimmedLines_substituted_iff hplaced hlines hfree hne
  · refine missingLines_eq_nil_iff.mpr fun line hline => ?_
    obtain ⟨hne, htrim, f, hf, hmem⟩ := hall line hline
    exact (mem_trimmedLines_substituted_iff hplaced hlines hfree hne).mpr
      (.inr ⟨f, hf, line, hmem, htrim⟩)

end Notes

/-- Blocks above and below an unterminated last line and at the start of a text with another kind of
line ending: all of them are seen, and so are the lines of the text, but not two lines as one. -/
theorem hasLine_applyEdits_unterminated :
    ∃ edits out, assemble "a\r\nb".toList [.note ["---@x".toList, "---@y ".toList] .fileStart,
        .note ["---@z".toList] (.below 3), .note ["---@w".toList] (.above 3)] = .ok edits ∧
      applyEdits "a\r\nb".toList edits = .ok out ∧
      (∀ line ∈ ["a".toList, "b".toList, "---@x".toList, "---@y".toList, "---@z".toList],
        out.hasLine line = true) ∧
      out.hasLine "b---@z".toList = false ∧
      missingLines out ["---@x".toList, "---@z".toList, "---@w".toList] = [] := by
  obtain ⟨edits, out, hedits, happly, hline, hmissing⟩ := @hasLine_applyEdits_iff "a\r\nb".toList
    [.note ["---@x".toList, "---@y ".toList] .fileStart, .note ["---@z".toList] (.below 3),
      .note ["---@w".toList] (.above 3)]
    (by simp [Fragment.IsPlaced, Fragment.IsNote, Fragment.Fits, Placement.offset?]; decide)
    (by decide) (fun _ _ => by decide)
  refine ⟨edits, out, hedits, happly, fun line hmem => ?_, ?_, hmissing _ (by decide)⟩
  · have hall : ∀ line ∈ ["a".toList, "b".toList, "---@x".toList, "---@y".toList, "---@z".toList],
        line ≠ [] := by decide
    refine (hline line (hall line hmem)).mpr ?_
    revert line
    decide
  · rw [← Bool.not_eq_true, hline _ (by decide)]
    decide

end Gloss
