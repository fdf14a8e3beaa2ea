import Gloss.Proofs.Pattern.Place

/-!
# Where a pattern leads

Which places a pattern leads to, read off its structure: a sequence leads through a place in
between, a choice leads where one of its patterns does. The order in which runs are preferred, the
groups and the runs that are left out because another one came to the same place do not matter for
this. Patterns that repeat anything but characters are left aside.

## Main definitions

* `Expr.isPlain`: the pattern repeats nothing but characters.
* `Expr.Reaches`: the pattern leads from one place to another.

## Main results

* `Expr.exists_mem_ends_iff`: the runs of a plain pattern come to the places it leads to.
* `Expr.find?_isSome_iff`: a plain pattern is found in a text iff it leads somewhere from a place of
  the text.
* `Expr.find?_map_start_eq_some_iff`: it is found at the first such place.
-/

set_option relaxedAutoImplicit false
set_option autoImplicit false

namespace Gloss

open Text

/-- The class of one character holds this character only. -/
lemma CharClass.mem_single_iff {c d : Char} : (CharClass.single c).mem d = true ↔ d = c := by
  simp only [single, mem, Bool.and_eq_true, decide_eq_true_eq]
  constructor
  · intro h
    exact Char.le_antisymm h.2 h.1
  · rintro rfl
    exact ⟨Char.le_refl d, Char.le_refl d⟩

namespace Run

/-- Some run to the place of a run is left when runs to places that were met are left out. -/
lemma exists_mem_distinctFrom {seen : Std.TreeSet Nat} {rs : List Run} {r : Run} (hr : r ∈ rs)
    (hseen : seen.contains r.place.offset = false) :
    ∃ s ∈ distinctFrom seen rs, s.place.offset = r.place.offset := by
  induction rs generalizing seen with
  | nil => simp at hr
  | cons first rs ih =>
    simp only [distinctFrom]
    split
    · next hmet =>
      rcases List.mem_cons.mp hr with rfl | hr
      · simp [hseen] at hmet
      · exact ih hr hseen
    · by_cases hsame : first.place.offset = r.place.offset
      · exact ⟨first, List.mem_cons_self, hsame⟩
      · rcases List.mem_cons.mp hr with rfl | hr
        · exact absurd rfl hsame
        · have hnext : (seen.insert first.place.offset).contains r.place.offset = false := by
            rw [Std.TreeSet.contains_insert, hseen, Bool.or_false, beq_eq_false_iff_ne, Ne,
              Nat.compare_eq_eq]
            exact hsame
          obtain ⟨s, hs, hoffset⟩ := ih hr hnext
          exact ⟨s, List.mem_cons_of_mem _ hs, hoffset⟩

/-- Some run to the place of a run is left among the distinct ones. -/
lemma exists_mem_distinct {rs : List Run} {r : Run} (hr : r ∈ rs) :
    ∃ s ∈ distinct rs, s.place.offset = r.place.offset := by
  simp only [distinct]
  split
  · simp at hr
  · exact ⟨r, hr, rfl⟩
  · exact exists_mem_distinctFrom hr Std.TreeSet.contains_emptyc

end Run

namespace Expr

/-- The pattern repeats nothing but characters. -/
def isPlain : Expr → Bool
  | .empty => true
  | .char _ => true
  | .anchor _ => true
  | .seq a b => a.isPlain && b.isPlain
  | .alt a b => a.isPlain && b.isPlain
  | .chars _ _ _ _ => true
  | .option body _ => body.isPlain
  | .rep _ _ _ _ => false
  | .group _ body => body.isPlain

/-- The pattern leads from one place to another. Repetitions of anything but characters are not
looked at. -/
def Reaches : Expr → Cursor → Cursor → Prop
  | .empty, p, q => q = p
  | .char set, p, q => ∃ c, set.mem c = true ∧ p.Reads [c] q
  | .anchor a, p, q => a.holds p = true ∧ q = p
  | .seq a b, p, q => ∃ m, a.Reaches p m ∧ b.Reaches m q
  | .alt a b, p, q => a.Reaches p q ∨ b.Reaches p q
  | .chars set least most _, p, q =>
    ∃ w, p.Reads w q ∧ (∀ c ∈ w, set.mem c = true) ∧ least ≤ w.length ∧ ∀ m ∈ most, w.length ≤ m
  | .option body _, p, q => body.Reaches p q ∨ q = p
  | .rep _ _ _ _, _, _ => False
  | .group _ body, p, q => body.Reaches p q

variable {e : Expr} {p q : Cursor}
/-- **The runs of a plain pattern come to the places it leads to.**

**Proof sketch.** Induction on the pattern. In a sequence a run may be left out for another one that
comes to the same offset; both have gone on from the same place, so they have come to the same
place. -/
lemma exists_mem_ends_iff (he : e.isPlain = true) {r : Run} :
    (∃ s ∈ e.ends r, s.place = q) ↔ e.Reaches r.place q := by
  induction e generalizing r q with
  | empty => simp [ends, Reaches, eq_comm]
  | char set =>
    constructor
    · rintro ⟨s, hs, rfl⟩
      obtain ⟨c, rest, hrest, hc, rfl⟩ := Run.step?_eq_some (Option.mem_toList.mp hs)
      exact ⟨c, hc, Cursor.Reads.step hrest⟩
    · rintro ⟨c, hc, hreads⟩
      have hrest : r.place.rest = c :: q.rest := hreads.rest
      have hq : q = r.place.step c q.rest :=
        hreads.eq_of_offset_eq (Cursor.Reads.step hrest) (by rw [hreads.offset]; rfl)
      refine ⟨{ r with place := r.place.step c q.rest }, ?_, hq.symm⟩
      simp [ends, Run.step?, hrest, hc]
  | anchor a =>
    constructor
    · rintro ⟨s, hs, rfl⟩
      have hsome := Option.mem_toList.mp hs
      obtain rfl := Run.anchor?_eq_some hsome
      refine ⟨?_, rfl⟩
      simpa [Run.anchor?] using hsome
    · rintro ⟨ha, rfl⟩
      exact ⟨r, by simp [ends, Run.anchor?, ha], rfl⟩
  | seq a b iha ihb =>
    simp only [isPlain, Bool.and_eq_true] at he
    constructor
    · rintro ⟨s, hs, rfl⟩
      obtain ⟨m, hm, hs⟩ := List.mem_flatMap.mp (Run.mem_of_mem_distinct hs)
      exact ⟨m.place, (iha he.1).mp ⟨m, hm, rfl⟩, (ihb he.2).mp ⟨s, hs, rfl⟩⟩
    · rintro ⟨place, ha, hb⟩
      obtain ⟨m, hm, rfl⟩ := (iha he.1).mpr ha
      obtain ⟨s, hs, rfl⟩ := (ihb he.2).mpr hb
      have hon : ∀ s' ∈ (a.ends r).flatMap b.ends, ∃ w, r.place.Reads w s'.place := by
        intro s' hs'
        obtain ⟨m', hm', hs'⟩ := List.mem_flatMap.mp hs'
        have honward := Cursor.onward_reads r.place
        exact ends_onward honward b (ends_onward honward a ⟨[], Cursor.Reads.refl _⟩ m' hm') s' hs'
      have hmem : s ∈ (a.ends r).flatMap b.ends := List.mem_flatMap.mpr ⟨m, hm, hs⟩
      obtain ⟨s', hs', hoffset⟩ := Run.exists_mem_distinct hmem
      obtain ⟨w, hw⟩ := hon s hmem
      obtain ⟨w', hw'⟩ := hon s' (Run.mem_of_mem_distinct hs')
      exact ⟨s', hs', hw'.eq_of_offset_eq hw hoffset⟩
  | alt a b iha ihb =>
    simp only [isPlain, Bool.and_eq_true] at he
    simp only [ends, Reaches, List.mem_append, or_and_right, exists_or, iha he.1, ihb he.2]
  | chars set least most greedy =>
    constructor
    · rintro ⟨s, hs, rfl⟩
      obtain ⟨w, ⟨hreads, -, hall⟩, hbounds⟩ := Run.mem_chars_iff.mp hs
      exact ⟨w, hreads, hall, hbounds⟩
    · rintro ⟨w, hreads, hall, hbounds⟩
      exact ⟨{ r with place := q }, Run.mem_chars_iff.mpr ⟨w, ⟨hreads, rfl, hall⟩, hbounds⟩, rfl⟩
  | option body greedy ih =>
    have hor : (∃ s ∈ (Expr.option body greedy).ends r, s.place = q) ↔
        (∃ s ∈ body.ends r, s.place = q) ∨ q = r.place := by
      cases greedy <;> simp [ends, or_and_right, exists_or, or_comm, eq_comm]
    rw [hor, ih he]
    rfl
  | rep body least most greedy ih => simp [isPlain] at he
  | group index body ih =>
    rw [Reaches, ← ih he]
    simp [ends, Run.close]

/-- Without what a pattern starts with there are no runs. -/
lemma mayStart_of_mem_ends {r s : Run} (hs : s ∈ e.ends r) : e.mayStart r = true := by
  induction e generalizing s with
  | char set =>
    rw [mayStart, Option.isSome_iff_exists]
    exact ⟨s, Option.mem_toList.mp hs⟩
  | anchor a =>
    rw [mayStart, Option.isSome_iff_exists]
    exact ⟨s, Option.mem_toList.mp hs⟩
  | seq a b iha ihb =>
    obtain ⟨m, hm, -⟩ := List.mem_flatMap.mp (Run.mem_of_mem_distinct hs)
    exact iha hm
  | _ => rfl

/-- A plain pattern matches at a place iff it leads somewhere. -/
lemma matchAt?_isSome_iff (he : e.isPlain = true) :
    (e.matchAt? p).isSome = true ↔ ∃ q, e.Reaches p q := by
  constructor
  · intro h
    simp only [matchAt?] at h
    split at h
    · rw [Option.isSome_map] at h
      obtain ⟨s, hs⟩ := Option.isSome_iff_exists.mp h
      exact ⟨s.place, (exists_mem_ends_iff he).mp ⟨s, List.mem_of_mem_head? hs, rfl⟩⟩
    · simp at h
  · rintro ⟨q, hq⟩
    obtain ⟨s, hs, -⟩ : ∃ s ∈ e.ends { place := p, groups := [] }, s.place = q :=
      (exists_mem_ends_iff he).mpr hq
    obtain ⟨first, rest, hends⟩ := List.exists_cons_of_ne_nil (List.ne_nil_of_mem hs)
    simp [matchAt?, mayStart_of_mem_ends hs, hends]

/-- A search finds a match if there is one behind the place where it starts. -/
lemma findFrom?_isSome {before : Option Char} {offset : Nat} {rest w : Text}
    (hw : Cursor.Reads { before := before, rest := rest, offset := offset } w p)
    (h : (e.matchAt? p).isSome = true) : (e.findFrom? before offset rest).isSome = true := by
  induction rest generalizing before offset w with
  | nil =>
    obtain rfl : w = [] := (List.append_eq_nil_iff.mp hw.rest.symm).1
    obtain rfl := Cursor.reads_nil_iff.mp hw
    exact h
  | cons c rest ih =>
    simp only [findFrom?]
    split
    · rfl
    · next hnone =>
      cases w with
      | nil =>
        obtain rfl := Cursor.reads_nil_iff.mp hw
        simp [hnone] at h
      | cons d w => exact ih ((Cursor.reads_cons_iff rfl).mp hw).2

/-- **A plain pattern is found in a text** iff it leads somewhere from a place of the text. -/
lemma find?_isSome_iff (he : e.isPlain = true) {t : Text} :
    (e.find? t).isSome = true ↔ ∃ p q, Cursor.In t p ∧ e.Reaches p q := by
  constructor
  · intro h
    obtain ⟨m, hm⟩ := Option.isSome_iff_exists.mp h
    obtain ⟨hmatch, hin⟩ := find?_in hm
    obtain ⟨q, hq⟩ := (matchAt?_isSome_iff he).mp (Option.isSome_iff_exists.mpr ⟨m, hmatch⟩)
    exact ⟨m.start, q, hin, hq⟩
  · rintro ⟨p, q, ⟨w, hw⟩, hq⟩
    exact findFrom?_isSome hw ((matchAt?_isSome_iff he).mpr ⟨q, hq⟩)

/-- The match that a search finds starts at or before every place with a match. -/
lemma findFrom?_start_le {before : Option Char} {offset : Nat} {rest w : Text} {m : Match}
    (hm : e.findFrom? before offset rest = some m)
    (hw : Cursor.Reads { before := before, rest := rest, offset := offset } w p)
    (h : (e.matchAt? p).isSome = true) : m.start.offset ≤ p.offset := by
  induction rest generalizing before offset w with
  | nil =>
    obtain ⟨hstart, -⟩ := matchAt?_reads hm
    rw [hstart, hw.offset]
    exact Nat.le_add_right _ _
  | cons c rest ih =>
    simp only [findFrom?] at hm
    split at hm
    · next hhere =>
      obtain rfl : _ = m := by simpa using hm
      obtain ⟨hstart, -⟩ := matchAt?_reads hhere
      rw [hstart, hw.offset]
      exact Nat.le_add_right _ _
    · next hnone =>
      cases w with
      | nil =>
        obtain rfl := Cursor.reads_nil_iff.mp hw
        simp [hnone] at h
      | cons d w => exact ih hm ((Cursor.reads_cons_iff rfl).mp hw).2

/-- **Where a plain pattern is found**: at the first place of the text from which it leads
somewhere.

**Proof sketch.** What is found is a match, so the pattern leads somewhere from there, and it is the
first place from which it does. -/
lemma find?_map_start_eq_some_iff (he : e.isPlain = true) {t : Text} {offset : Nat} :
    (e.find? t).map (fun m => m.start.offset) = some offset ↔
      (∃ p q, Cursor.In t p ∧ p.offset = offset ∧ e.Reaches p q) ∧
        ∀ p q, Cursor.In t p → e.Reaches p q → offset ≤ p.offset := by
  have hleast : ∀ m, e.find? t = some m → ∀ p q, Cursor.In t p → e.Reaches p q →
      m.start.offset ≤ p.offset := by
    rintro m hm p q ⟨w, hw⟩ hq
    exact findFrom?_start_le hm hw ((matchAt?_isSome_iff he).mpr ⟨q, hq⟩)
  have hfound : ∀ m, e.find? t = some m → ∃ q, Cursor.In t m.start ∧ e.Reaches m.start q := by
    intro m hm
    obtain ⟨hmatch, hin⟩ := find?_in hm
    obtain ⟨q, hq⟩ := (matchAt?_isSome_iff he).mp (Option.isSome_iff_exists.mpr ⟨m, hmatch⟩)
    exact ⟨q, hin, hq⟩
  rw [Option.map_eq_some_iff]
  constructor
  · rintro ⟨m, hm, rfl⟩
    obtain ⟨q, hin, hq⟩ := hfound m hm
    exact ⟨⟨m.start, q, hin, rfl, hq⟩, hleast m hm⟩
  · rintro ⟨⟨p, q, hin, rfl, hq⟩, hall⟩
    obtain ⟨m, hm⟩ := Option.isSome_iff_exists.mp ((find?_isSome_iff he).mpr ⟨p, q, hin, hq⟩)
    obtain ⟨q', hin', hq'⟩ := hfound m hm
    exact ⟨m, hm, Nat.le_antisymm (hleast m hm p q hin hq) (hall m.start q' hin' hq')⟩

/-! ## Given texts -/

/-- The pattern of a given text leads over that text. -/
lemma reaches_literal_iff {w : Text} : (literal w).Reaches p q ↔ p.Reads w q := by
  induction w generalizing p with
  | nil => exact Cursor.reads_nil_iff.symm
  | cons c w ih =>
    have hstep : (literal (c :: w)).Reaches p q ↔
        ∃ m, (∃ d, (CharClass.single c).mem d = true ∧ p.Reads [d] m) ∧ (literal w).Reaches m q :=
      Iff.rfl
    rw [hstep]
    constructor
    · rintro ⟨m, ⟨d, hd, hm⟩, hq⟩
      obtain rfl := CharClass.mem_single_iff.mp hd
      exact hm.trans (ih.mp hq)
    · intro hreads
      have hrest : p.rest = c :: (w ++ q.rest) := hreads.rest
      obtain ⟨-, hw⟩ := (Cursor.reads_cons_iff hrest).mp hreads
      exact ⟨_, ⟨c, CharClass.mem_single_iff.mpr rfl, Cursor.Reads.step hrest⟩, ih.mpr hw⟩

end Expr

end Gloss
