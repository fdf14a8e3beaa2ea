import Gloss.Proofs.Pattern.Capture
import Gloss.Proofs.Pattern.Group

/-!
# All matches of a text

The matches of a text are found from left to right, so they start one after the other. A match that
is found hides those that start inside it. A pattern that only matches at starts of lines and at
most up to the next one hides none: all places of the text are looked at, and every match there is
found.

## Main definitions

* `Expr.KeepsToLine`: the pattern matches at starts of lines, at most up to the next one.

## Main results

* `Expr.findAll_pairwise`: the matches start one after the other.
* `Expr.KeepsToLine.mem_findAll_iff`: every match of such a pattern is found.
* `Expr.KeepsToLine.exists_mem_findAll_iff`: matches start where such a pattern leads somewhere.
-/

set_option relaxedAutoImplicit false
set_option autoImplicit false

namespace Gloss

open Text

namespace Expr

variable {e : Expr} {t : Text} {m : Match}

/-- **The matches of a text start one after the other.**

**Proof sketch.** Induction on the text. A match at a place starts there, and all others start
behind its first character. -/
lemma findAllFrom_pairwise (e : Expr) (last : Option Nat) (before : Option Char) (offset : Nat)
    (rest : Text) :
    (e.findAllFrom last before offset rest).Pairwise fun m n =>
      m.start.offset < n.start.offset := by
  induction rest generalizing last before offset with
  | nil =>
    rw [findAllFrom]
    cases e.nextAt? last { before := before, rest := [], offset := offset } with
    | none => exact List.Pairwise.nil
    | some m => exact List.pairwise_singleton _ m
  | cons c rest ih =>
    rw [findAllFrom]
    split
    · next first hfirst =>
      obtain ⟨hstart, -⟩ := matchAt?_reads (nextAt?_eq_some hfirst)
      refine List.pairwise_cons.mpr ⟨fun later hlater => ?_, ih _ _ _⟩
      -- What is found later starts behind the first character.
      obtain ⟨-, w, hw⟩ := findAllFrom_reads later hlater
      have hoffset : later.start.offset = offset + c.utf8Size + size w := hw.offset
      have hpos := Char.utf8Size_pos c
      rw [hoffset, hstart]
      change offset < _
      omega
    · exact ih _ _ _

/-- Matches are found from left to right. -/
lemma findAll_pairwise (e : Expr) (t : Text) :
    (e.findAll t).Pairwise fun m n => m.start.offset < n.start.offset :=
  findAllFrom_pairwise e none none 0 t

/-- The pattern matches at starts of lines only, and a match is not empty and goes at most over the
line feed that ends the line. -/
def KeepsToLine (e : Expr) : Prop :=
  ∀ p m, e.matchAt? p = some m → Anchor.lineStart.holds p = true ∧ m.toPiece.text ≠ [] ∧
    '\n' ∉ m.toPiece.text.dropLast

/-- A plain pattern keeps to its line if all places that it leads to are on the line. -/
lemma keepsToLine_of_reaches (hplain : e.isPlain = true)
    (h : ∀ p q, e.Reaches p q → Anchor.lineStart.holds p = true ∧
      ∃ w, p.Reads w q ∧ w ≠ [] ∧ '\n' ∉ w.dropLast) : e.KeepsToLine := by
  intro p m hm
  obtain ⟨rfl, hleads⟩ := exists_leads_of_matchAt? hplain hm
  obtain ⟨hstart, w, hw, hne, hfeed⟩ := h _ _ hleads.reaches
  have htext : m.toPiece.text = w := hw.textTo
  rw [htext]
  exact ⟨hstart, hne, hfeed⟩

/-- What a pattern leads over has no character that it avoids. -/
lemma Reaches.not_mem {p q : Cursor} {w : Text} {c : Char} (h : e.Reaches p q)
    (hplain : e.isPlain = true) (havoids : e.avoids c = true) (hw : p.Reads w q) : c ∉ w := by
  obtain ⟨s, hs, rfl⟩ := (exists_mem_ends_iff hplain (r := { place := p, groups := [] })).mpr h
  obtain ⟨v, hv, hc⟩ := ends_avoids havoids hs
  have hsame : w = v := hw.textTo.symm.trans hv.textTo
  rwa [hsame]

/-- The last match so far ended before all starts of lines that are still ahead of a place. -/
def EndedBefore (last : Option Nat) (place : Cursor) : Prop :=
  ∀ stop ∈ last, ∀ w q, place.Reads w q → Anchor.lineStart.holds q = true → stop ≤ q.offset

/-- A match that ended before a place ended before the next one. -/
lemma EndedBefore.step {last : Option Nat} {place : Cursor} {c : Char} {rest : Text}
    (h : EndedBefore last place) (hrest : place.rest = c :: rest) :
    EndedBefore last (place.step c rest) := by
  intro stop hstop w q hw hq
  exact h stop hstop (c :: w) q ((Cursor.Reads.step hrest).trans hw) hq

namespace KeepsToLine

variable (he : e.KeepsToLine)

include he

/-- A match ends before the next start of a line, or right there. -/
lemma endedBefore {place : Cursor} {c : Char} {rest : Text} (hm : e.matchAt? place = some m)
    (hrest : place.rest = c :: rest) : EndedBefore (some m.stop.offset) (place.step c rest) := by
  intro stop hstop w q hw hq
  obtain rfl : m.stop.offset = stop := by simpa using hstop
  obtain ⟨hstart, hne, hfeed⟩ := he place m hm
  obtain ⟨-, hreads⟩ := matchAt?_reads hm
  have hover : place.Reads (c :: w) q := (Cursor.Reads.step hrest).trans hw
  by_contra hlt
  -- The start of the line would lie inside the match, behind a line feed.
  have hsize : size (c :: w) < size m.toPiece.text := by
    have := hreads.offset
    have := hover.offset
    omega
  obtain ⟨u, hu, -⟩ :=
    exists_eq_append_of_size_le (hover.rest.symm.trans hreads.rest) (Nat.le_of_lt hsize)
  have hune : u ≠ [] := by
    rintro rfl
    rw [hu, List.append_nil] at hsize
    exact Nat.lt_irrefl _ hsize
  have hlast : (c :: w).getLast? = some '\n' := by
    have hbefore := hover.before
    rw [List.getLast?_cons] at hbefore ⊢
    simp only [Anchor.holds, hbefore, Option.some_or, Option.isNone_some, Bool.false_or, beq_iff_eq]
      at hq
    exact hq
  refine hfeed ?_
  rw [hu, List.dropLast_append_of_ne_nil hune]
  exact List.mem_append_left _ (List.mem_of_getLast? hlast)

/-- At a place behind the last match, the match that counts is the one of the pattern. -/
lemma nextAt?_eq {last : Option Nat} {place : Cursor} (hlast : EndedBefore last place) :
    e.nextAt? last place = e.matchAt? place := by
  cases hm : e.matchAt? place with
  | none =>
    rw [nextAt?, hm]
    split <;> rfl
  | some m =>
    obtain ⟨hstart, hne, -⟩ := he place m hm
    obtain ⟨-, hreads⟩ := matchAt?_reads hm
    have hbehind : last.any (place.offset < ·) = false := by
      cases last with
      | none => rfl
      | some stop =>
        have hle := hlast stop rfl [] place (Cursor.Reads.refl place) hstart
        simpa using hle
    have hmoves : m.stop.offset ≠ place.offset := by
      have hpos : size m.toPiece.text ≠ 0 := fun h => hne (size_eq_zero_iff.mp h)
      rw [hreads.offset]
      omega
    simp [nextAt?, hm, hbehind, hmoves]

/-- A match at the start of a line is found by the search from any place before it. -/
lemma mem_findAllFrom {last : Option Nat} {before : Option Char} {offset : Nat} {rest w : Text}
    (hlast : EndedBefore last { before := before, rest := rest, offset := offset })
    (hw : Cursor.Reads { before := before, rest := rest, offset := offset } w m.start)
    (hm : e.matchAt? m.start = some m) : m ∈ e.findAllFrom last before offset rest := by
  induction rest generalizing last before offset w with
  | nil =>
    obtain rfl : w = [] := (List.append_eq_nil_iff.mp hw.rest.symm).1
    rw [findAllFrom, he.nextAt?_eq hlast, ← Cursor.reads_nil_iff.mp hw, hm]
    simp
  | cons c rest ih =>
    rw [findAllFrom, he.nextAt?_eq hlast]
    cases w with
    | nil =>
      rw [← Cursor.reads_nil_iff.mp hw, hm]
      exact List.mem_cons_self
    | cons d w =>
      have hnext := ((Cursor.reads_cons_iff rfl).mp hw).2
      split
      · next first hfirst => exact List.mem_cons_of_mem _ (ih (he.endedBefore hfirst rfl) hnext)
      · exact ih (hlast.step rfl) hnext

/-- **Every match of a pattern that keeps to its line is found.** -/
lemma mem_findAll_iff : m ∈ e.findAll t ↔ Cursor.In t m.start ∧ e.matchAt? m.start = some m := by
  constructor
  · intro hm
    obtain ⟨hmatch, hin⟩ := findAll_in m hm
    exact ⟨hin, hmatch⟩
  · rintro ⟨⟨w, hw⟩, hm⟩
    exact he.mem_findAllFrom (fun stop hstop => by simp at hstop) hw hm

/-- **Where the matches of such a pattern start**: at the places from which it leads somewhere. -/
lemma exists_mem_findAll_iff (hplain : e.isPlain = true) {offset : Nat} :
    (∃ m ∈ e.findAll t, m.start.offset = offset) ↔
      ∃ p, Cursor.In t p ∧ p.offset = offset ∧ ∃ q, e.Reaches p q := by
  constructor
  · rintro ⟨m, hm, hoffset⟩
    obtain ⟨hin, hmatch⟩ := he.mem_findAll_iff.mp hm
    exact ⟨m.start, hin, hoffset,
      (matchAt?_isSome_iff hplain).mp (Option.isSome_iff_exists.mpr ⟨m, hmatch⟩)⟩
  · rintro ⟨p, hin, hoffset, hq⟩
    obtain ⟨m, hm⟩ := Option.isSome_iff_exists.mp ((matchAt?_isSome_iff hplain).mpr hq)
    obtain ⟨hstart, -⟩ := matchAt?_reads hm
    exact ⟨m, he.mem_findAll_iff.mpr ⟨hstart ▸ hin, hstart ▸ hm⟩, hstart ▸ hoffset⟩

end KeepsToLine

end Expr

end Gloss
