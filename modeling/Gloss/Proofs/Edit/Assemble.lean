import Mathlib.Algebra.GroupWithZero.Nat
import Mathlib.Data.List.Nodup
import Mathlib.Data.List.Pairwise
import Gloss.Proofs.Edit.Substitution

/-!
# Assembled edits are one substitution

Fragments say what is to change in a text, each with offsets of the unchanged text. This module
says what they mean together, by one pass over the text, and shows that the edits which are
assembled from them, applied one after the other, give the same text.

## Main definitions

* `keptReplacements`: the replacements that count.
* `placedBlocks`: the blocks of lines, at the offsets where they land.
* `substituted`: the text after the changes of fragments, by one pass from left to right.
* `Changes.Collects`: what holds of the changes that have been collected from fragments.
* `Changes.Tracks`: the same, where no empty piece is replaced.

## Main results

* `Changes.ofFragments_collects`: the collected changes are the kept replacements and the blocks.
* `Changes.Tracks.ordered_descending`: ordered changes are descending.
* `applyEdits_assemble`: applying assembled edits is one substitution.
-/

set_option relaxedAutoImplicit false
set_option autoImplicit false

namespace Gloss

open Text

/-! ## What fragments mean together -/

/-- Two pieces share a byte. -/
def Replacement.overlaps (r : Replacement) (start stop : Nat) : Bool :=
  r.start < stop && start < r.stop

/-- An offset lies inside the piece, not at its ends. -/
def Replacement.surrounds (r : Replacement) (offset : Nat) : Bool :=
  r.start < offset && offset < r.stop

/-- The replacements that count when those in `kept` came before: one that overlaps an earlier one
that counts does not. -/
def keptAfter (kept : List Replacement) : List Fragment → List Replacement
  | [] => kept
  | .note _ _ :: fragments => keptAfter kept fragments
  | .replacement start stop text :: fragments =>
    if kept.any fun r => r.overlaps start stop then keptAfter kept fragments
    else keptAfter (kept ++ [{ start := start, stop := stop, text := text }]) fragments

/-- The replacements that count. -/
def keptReplacements (fragments : List Fragment) : List Replacement :=
  keptAfter [] fragments

/-- The block that a fragment puts at its placement, if it has lines. A line feed comes first if the
block goes below a last line that has none. -/
def Fragment.block? (t : Text) : Fragment → Option Block
  | .note lines placement =>
    if lines.isEmpty then none
    else
      match placement.position t with
      | .ok (offset, needsLineFeed) =>
        some { offset := offset
               text := (if needsLineFeed then ['\n'] else []) ++
                 (Fragment.note lines placement).render }
      | .error _ => none
  | .replacement _ _ _ => none

/-- A fragment has a block if it has lines and its placement is in the text. -/
lemma Fragment.block?_eq_some_iff {t : Text} {f : Fragment} {b : Block} :
    f.block? t = some b ↔ f.lines ≠ [] ∧ ∃ placement offset needsLineFeed,
      f = .note f.lines placement ∧ placement.position t = .ok (offset, needsLineFeed) ∧
        b = { offset := offset, text := (if needsLineFeed then ['\n'] else []) ++ f.render } := by
  cases f with
  | replacement start stop text => simp [block?, lines]
  | note lines placement =>
    have hempty : lines.isEmpty = false ↔ lines ≠ [] := List.isEmpty_eq_false_iff
    constructor
    · intro h
      simp only [block?] at h
      split at h
      · simp at h
      · next hne =>
        split at h
        · next offset needsLineFeed hposition =>
          exact ⟨hempty.mp (by simpa using hne), placement, offset, needsLineFeed, rfl, hposition,
            (Option.some.inj h).symm⟩
        · simp at h
    · rintro ⟨hne, placement', offset, needsLineFeed, heq, hposition, rfl⟩
      obtain ⟨-, rfl⟩ := Fragment.note.inj heq
      simp [block?, hempty.mpr hne, hposition]

/-- Where a block lands: at the end of a replaced piece if it would lie inside it. -/
def landing (kept : List Replacement) (offset : Nat) : Nat :=
  match kept.find? fun r => r.surrounds offset with
  | some r => r.stop
  | none => offset

/-- The blocks of fragments, in the order of the fragments, at the offsets where they land. -/
def placedBlocks (t : Text) (fragments : List Fragment) : List Block :=
  (fragments.filterMap (Fragment.block? t)).map fun b =>
    { b with offset := landing (keptReplacements fragments) b.offset }

/-- The text after the changes of fragments, by one pass from left to right. -/
def substituted (t : Text) (fragments : List Fragment) : Text :=
  substituteFrom (keptReplacements fragments) (placedBlocks t fragments) 0 t

/-- What is kept of two lists of fragments, one after the other. -/
lemma keptAfter_append (kept : List Replacement) (fs gs : List Fragment) :
    keptAfter kept (fs ++ gs) = keptAfter (keptAfter kept fs) gs := by
  induction fs generalizing kept with
  | nil => rfl
  | cons f fs ih =>
    cases f with
    | note lines placement => simp only [List.cons_append, keptAfter, ih]
    | replacement start stop text =>
      simp only [List.cons_append, keptAfter]
      split <;> exact ih _

/-! ## Checked offsets -/

/-- The check of a range asks for two boundaries in their order. -/
lemma checkRange_eq_ok_iff {t : Text} {start stop : Nat} :
    checkRange t start stop = .ok () ↔
      start ≤ stop ∧ t.isBoundary start = true ∧ t.isBoundary stop = true := by
  constructor
  · intro h
    simp only [checkRange] at h
    split at h
    · simp at h
    · next hin =>
      split at h
      · next hb =>
        rw [Bool.and_eq_true] at hb
        exact ⟨by omega, hb.1, hb.2⟩
      · simp at h
  · rintro ⟨hle, hstart, hstop⟩
    have := le_size_of_isBoundary hstop
    have hin : ¬ (stop < start ∨ t.size < stop) := by omega
    simp [checkRange, hin, hstart, hstop]

/-- The check of an offset asks for a boundary. -/
lemma checkOffset_eq_ok_iff {t : Text} {offset : Nat} :
    checkOffset t offset = .ok () ↔ t.isBoundary offset = true := by
  simp [checkOffset, checkRange_eq_ok_iff]

/-- The offset at which a placement is looked up. -/
def Placement.offset? : Placement → Option Nat
  | .fileStart => none
  | .above offset => some offset
  | .below offset => some offset

/-- A placement has a position iff its offset is a boundary. -/
lemma Placement.position_isOk_iff {t : Text} {placement : Placement} :
    (∃ r, placement.position t = .ok r) ↔
      ∀ offset ∈ placement.offset?, t.isBoundary offset = true := by
  cases placement with
  | fileStart => simp [position, offset?]
  | above offset =>
    simp only [offset?, Option.mem_some_iff, forall_eq', ← checkOffset_eq_ok_iff, position]
    cases checkOffset t offset <;> simp [bind, Except.bind, pure, Except.pure]
  | below offset =>
    simp only [offset?, Option.mem_some_iff, forall_eq', ← checkOffset_eq_ok_iff, position]
    cases checkOffset t offset <;> simp [bind, Except.bind, pure, Except.pure]

/-- Blocks go to boundaries. -/
lemma Placement.isBoundary_position {t : Text} {placement : Placement} {offset : Nat}
    {needsLineFeed : Bool} (h : placement.position t = .ok (offset, needsLineFeed)) :
    t.isBoundary offset = true := by
  have hall := Placement.position_isOk_iff.mp ⟨_, h⟩
  cases placement with
  | fileStart =>
    simp only [position, Except.ok.injEq, Prod.mk.injEq] at h
    rw [← h.1]
    split
    · next hhead =>
      obtain ⟨rest, rfl⟩ := List.head?_eq_some_iff.mp hhead
      exact isBoundary_iff.mpr ⟨[byteOrderMark], rest, rfl, by simp⟩
    · exact isBoundary_iff.mpr ⟨[], t, rfl, rfl⟩
  | above around =>
    have hb := hall around rfl
    simp only [position, checkOffset_eq_ok_iff.mpr hb] at h
    obtain ⟨rfl, -⟩ : t.lineStart around = offset ∧ false = needsLineFeed := by
      simpa [bind, Except.bind, pure, Except.pure] using h
    exact (lineStart_isLineStart hb).1.isBoundary
  | below around =>
    have hb := hall around rfl
    simp only [position, checkOffset_eq_ok_iff.mpr hb] at h
    obtain ⟨rfl, -⟩ : t.nextLineStart around = offset ∧ _ = needsLineFeed := by
      simpa [bind, Except.bind, pure, Except.pure] using h
    exact isBoundary_nextLineStart hb

/-! ## Collecting changes -/

/-- No piece that a fragment replaces is empty. -/
def Fragment.Proper : Fragment → Prop
  | .note _ _ => True
  | .replacement start stop _ => start < stop

/-- The replacements that count are not empty if no piece that a fragment replaces is. -/
lemma start_lt_stop_of_mem_keptAfter {fragments : List Fragment} {kept : List Replacement}
    (hproper : ∀ f ∈ fragments, f.Proper) (hkept : ∀ r ∈ kept, r.start < r.stop)
    {r : Replacement} (h : r ∈ keptAfter kept fragments) : r.start < r.stop := by
  induction fragments generalizing kept with
  | nil => exact hkept r h
  | cons f fragments ih =>
    have hrest : ∀ g ∈ fragments, g.Proper := fun g hg => hproper g (by simp [hg])
    cases f with
    | note lines placement => exact ih hrest hkept h
    | replacement start stop text =>
      simp only [keptAfter] at h
      split at h
      · exact ih hrest hkept h
      · refine ih hrest (fun s hs => ?_) h
        rcases List.mem_append.mp hs with hs | hs
        · exact hkept s hs
        · obtain rfl := List.mem_singleton.mp hs
          exact hproper (.replacement start stop text) (by simp)

/-- One of two changes lies before the other. -/
def Pending.Apart (p q : Pending) : Prop :=
  p.stop ≤ q.start ∨ q.stop ≤ p.start

/-- Lying apart is symmetric. -/
instance : Std.Symm Pending.Apart :=
  ⟨fun _ _ h => h.symm⟩

/-- The changes that have been collected from fragments, numbered below `n`. -/
structure Changes.Collects (t : Text) (fragments : List Fragment) (n : Nat) (changes : Changes) :
    Prop where
  /-- The replacements are those that count. -/
  replacements_eq : changes.replacements.map Pending.replacement = keptReplacements fragments
  /-- The insertions are the blocks, where they are wanted. -/
  insertions_eq : changes.insertions.map Pending.block = fragments.filterMap (Fragment.block? t)
  /-- Replacements lie in the text. -/
  replacements_lie : ∀ p ∈ changes.replacements, p.insertion = false ∧ p.Lies t
  /-- Insertions lie in the text. -/
  insertions_lie : ∀ p ∈ changes.insertions, p.insertion = true ∧ p.Lies t
  /-- Replacements share no byte. -/
  apart : changes.replacements.Pairwise Pending.Apart
  /-- Replacements are numbered in their order. -/
  replacements_numbered : changes.replacements.Pairwise fun p q => p.order < q.order
  /-- Insertions are numbered in their order. -/
  numbered : changes.insertions.Pairwise fun p q => p.order < q.order
  /-- The numbers have been given out. -/
  below : ∀ p ∈ changes.replacements ++ changes.insertions, p.order < n

/-- The changes that have been collected from fragments that replace no empty piece. -/
structure Changes.Tracks (t : Text) (fragments : List Fragment) (n : Nat) (changes : Changes) :
    Prop extends Changes.Collects t fragments n changes where
  /-- Replacements fit the text. -/
  replacements_fit : ∀ p ∈ changes.replacements, p.insertion = false ∧ p.Fits t

namespace Changes

variable {t : Text} {fragments : List Fragment} {n : Nat} {changes changes' : Changes}

/-- Nothing is collected from no fragments. -/
lemma collects_nil (t : Text) : Collects t [] 0 { replacements := [], insertions := [] } where
  replacements_eq := rfl
  insertions_eq := rfl
  replacements_lie := by simp
  insertions_lie := by simp
  apart := .nil
  replacements_numbered := .nil
  numbered := .nil
  below := by simp

/-- A block of lines becomes an insertion, unless it has no lines. -/
lemma add_note_cases {lines : List Text} {placement : Placement}
    (h : add t changes (.note lines placement, n) = .ok changes') :
    (changes' = changes ∧ (Fragment.note lines placement).block? t = none) ∨
      ∃ offset text, t.isBoundary offset = true ∧
        (Fragment.note lines placement).block? t = some { offset := offset, text := text } ∧
        changes' = { changes with insertions := changes.insertions ++
          [{ order := n, start := offset, stop := offset, insertion := true, text := text }] } := by
  simp only [add] at h
  split at h
  · next hempty =>
    exact .inl ⟨by simpa using h.symm, by simp [Fragment.block?, hempty]⟩
  · next hempty =>
    cases hpos : placement.position t with
    | error e => simp [hpos, bind, Except.bind] at h
    | ok found =>
      obtain ⟨offset, needsLineFeed⟩ := found
      refine .inr ⟨offset, (if needsLineFeed then ['\n'] else []) ++
        (Fragment.note lines placement).render, Placement.isBoundary_position hpos, ?_, ?_⟩
      · simp [Fragment.block?, hempty, hpos]
      · rw [hpos] at h
        simp only [bind, Except.bind, pure, Except.pure, Except.ok.injEq] at h
        rw [← h]
        cases needsLineFeed <;> rfl

/-- A replacement becomes a change, unless it overlaps an earlier one. -/
lemma add_replacement_cases {start stop : Nat} {text : Text}
    (h : add t changes (.replacement start stop text, n) = .ok changes') :
    (start ≤ stop ∧ t.isBoundary start = true ∧ t.isBoundary stop = true) ∧
      if changes.replacements.any fun r => r.overlaps start stop then changes' = changes
      else changes' = { changes with
        replacements := changes.replacements ++
          [{ order := n, start := start, stop := stop, insertion := false, text := text }] } := by
  simp only [add] at h
  cases hcheck : checkRange t start stop with
  | error e => simp [hcheck, bind, Except.bind] at h
  | ok u =>
    refine ⟨checkRange_eq_ok_iff.mp hcheck, ?_⟩
    simp only [hcheck, bind, Except.bind, pure, Except.pure] at h
    split at h
    · next hover =>
      rw [if_pos hover]
      simpa using h.symm
    · next hover =>
      rw [if_neg hover]
      simpa using h.symm

/-- A block does not change which replacements count. -/
lemma keptReplacements_concat_note (fragments : List Fragment) (lines : List Text)
    (placement : Placement) :
    keptReplacements (fragments ++ [.note lines placement]) = keptReplacements fragments := by
  rw [keptReplacements, keptAfter_append, keptAfter, keptAfter, keptReplacements]

/-- A replacement counts unless it overlaps one that does. -/
lemma keptReplacements_concat_replacement (fragments : List Fragment) (start stop : Nat)
    (text : Text) :
    keptReplacements (fragments ++ [.replacement start stop text]) =
      if (keptReplacements fragments).any fun r => r.overlaps start stop then
        keptReplacements fragments
      else keptReplacements fragments ++ [{ start := start, stop := stop, text := text }] := by
  rw [keptReplacements, keptAfter_append, keptAfter, keptReplacements]
  split_ifs <;> rfl

/-- A change with a greater number than all others goes behind them. -/
lemma numbered_concat {ps : List Pending} {p : Pending}
    (h : ps.Pairwise fun p q => p.order < q.order) (hgreatest : ∀ q ∈ ps, q.order < p.order) :
    (ps ++ [p]).Pairwise fun p q => p.order < q.order := by
  refine List.pairwise_append.mpr ⟨h, List.pairwise_singleton _ _, fun q hq r hr => ?_⟩
  obtain rfl := List.mem_singleton.mp hr
  exact hgreatest q hq

/-- A fragment that is no block and does not count is passed over. -/
lemma Collects.skip {f : Fragment} (h : Collects t fragments n changes)
    (hkept : keptReplacements (fragments ++ [f]) = keptReplacements fragments)
    (hblock : f.block? t = none) : Collects t (fragments ++ [f]) (n + 1) changes :=
  { h with
    replacements_eq := by rw [hkept, h.replacements_eq]
    insertions_eq := by simp [List.filterMap_append, hblock, h.insertions_eq]
    below := fun p hp => Nat.lt_succ_of_lt (h.below p hp) }

/-- A block is added behind the insertions. -/
lemma Collects.addBlock {f : Fragment} (h : Collects t fragments n changes)
    (hkept : keptReplacements (fragments ++ [f]) = keptReplacements fragments) {offset : Nat}
    {text : Text} (hboundary : t.isBoundary offset = true)
    (hblock : f.block? t = some { offset := offset, text := text }) :
    Collects t (fragments ++ [f]) (n + 1) { changes with
      insertions := changes.insertions ++
        [{ order := n, start := offset, stop := offset, insertion := true, text := text }] } := by
  refine { h with
    replacements_eq := by rw [hkept, h.replacements_eq]
    insertions_eq := by simp [List.filterMap_append, hblock, h.insertions_eq, Pending.block]
    insertions_lie := ?_
    numbered := numbered_concat h.numbered fun q hq => h.below q (List.mem_append_right _ hq)
    below := ?_ }
  · refine List.forall_mem_append.mpr ⟨h.insertions_lie, List.forall_mem_singleton.mpr ?_⟩
    exact ⟨rfl, hboundary, hboundary, Nat.le_refl _, fun _ => rfl⟩
  · rw [← List.append_assoc]
    refine List.forall_mem_append.mpr ⟨fun p hp => Nat.lt_succ_of_lt (h.below p hp), ?_⟩
    exact List.forall_mem_singleton.mpr (Nat.lt_succ_self n)

/-- A replacement that counts is added behind the others, and lies apart from them.

**Proof sketch.** The new replacement overlaps none that counts, so it counts itself and lies before
or behind each of them. Its number is greater than all that have been given out. -/
lemma Collects.addReplacement (h : Collects t fragments n changes) {start stop : Nat} (text : Text)
    (hle : start ≤ stop) (hstart : t.isBoundary start = true) (hstop : t.isBoundary stop = true)
    (hfree : ∀ p ∈ changes.replacements, p.overlaps start stop = false) :
    Collects t (fragments ++ [.replacement start stop text]) (n + 1) { changes with
      replacements := changes.replacements ++
        [{ order := n, start := start, stop := stop, insertion := false, text := text }] } := by
  have hblock : (Fragment.replacement start stop text).block? t = none := rfl
  have hcounts : ¬ ((keptReplacements fragments).any fun r => r.overlaps start stop) = true := by
    rw [← h.replacements_eq, List.any_map, List.any_eq_true]
    rintro ⟨p, hp, hover⟩
    exact Bool.false_ne_true ((hfree p hp).symm.trans hover)
  refine { h with
    replacements_eq := ?_
    insertions_eq := by simp [List.filterMap_append, hblock, h.insertions_eq]
    replacements_lie := ?_
    apart := ?_
    replacements_numbered :=
      numbered_concat h.replacements_numbered fun q hq => h.below q (List.mem_append_left _ hq)
    below := ?_ }
  · rw [keptReplacements_concat_replacement, if_neg hcounts, List.map_append, h.replacements_eq]
    rfl
  · refine List.forall_mem_append.mpr ⟨h.replacements_lie, List.forall_mem_singleton.mpr ?_⟩
    exact ⟨rfl, hstart, hstop, hle, by simp⟩
  · refine List.pairwise_append.mpr ⟨h.apart, List.pairwise_singleton _ _, fun p hp q hq => ?_⟩
    obtain rfl := List.mem_singleton.mp hq
    have hover := hfree p hp
    simp only [Pending.overlaps, Bool.and_eq_false_iff, decide_eq_false_iff_not] at hover
    show p.stop ≤ start ∨ stop ≤ p.start
    omega
  · obtain ⟨hreplacements, hinsertions⟩ := List.forall_mem_append.mp h.below
    refine List.forall_mem_append.mpr ⟨List.forall_mem_append.mpr ⟨?_, ?_⟩, ?_⟩
    · exact fun p hp => Nat.lt_succ_of_lt (hreplacements p hp)
    · exact List.forall_mem_singleton.mpr (Nat.lt_succ_self n)
    · exact fun p hp => Nat.lt_succ_of_lt (hinsertions p hp)

/-- **One more fragment**: what is collected stays what the fragments mean.

**Proof sketch.** A block is added behind the insertions under a number that is greater than
all others. A replacement is added if it overlaps none that is kept, which is how the kept ones are
chosen; so all of them stay apart. -/
lemma Collects.add {f : Fragment} (h : Collects t fragments n changes)
    (ha : Changes.add t changes (f, n) = .ok changes') :
    Collects t (fragments ++ [f]) (n + 1) changes' := by
  cases f with
  | note lines placement =>
    have hkept := keptReplacements_concat_note fragments lines placement
    rcases add_note_cases ha with ⟨rfl, hnone⟩ | ⟨offset, text, hboundary, hsome, rfl⟩
    · exact h.skip hkept hnone
    · exact h.addBlock hkept hboundary hsome
  | replacement start stop text =>
    obtain ⟨⟨hle, hstart, hstop⟩, hadd⟩ := add_replacement_cases ha
    split at hadd
    · next hover =>
      subst hadd
      refine h.skip ?_ rfl
      rw [keptReplacements_concat_replacement, if_pos]
      rwa [← h.replacements_eq, List.any_map]
    · next hover =>
      subst hadd
      refine h.addReplacement text hle hstart hstop fun p hp => ?_
      exact Bool.eq_false_iff.mpr fun hp' => hover (List.any_eq_true.mpr ⟨p, hp, hp'⟩)

/-- What is collected from all fragments, some of them having been seen. -/
lemma Collects.foldlM {seen : List Fragment} (h : Collects t seen n changes)
    (hfold : (fragments.zipIdx n).foldlM (Changes.add t) changes = .ok changes') :
    Collects t (seen ++ fragments) (n + fragments.length) changes' := by
  induction fragments generalizing seen n changes with
  | nil =>
    obtain rfl : changes = changes' := by simpa [pure, Except.pure] using hfold
    simpa using h
  | cons f fragments ih =>
    rw [List.zipIdx_cons, List.foldlM_cons] at hfold
    cases hone : Changes.add t changes (f, n) with
    | error e => simp [hone, bind, Except.bind] at hfold
    | ok next =>
      rw [hone] at hfold
      have hrun := ih (h.add hone) hfold
      simpa [Nat.add_assoc, Nat.add_comm 1] using hrun

/-- The collected changes are the kept replacements and the blocks. -/
lemma ofFragments_collects (h : ofFragments t fragments = .ok changes) :
    Collects t fragments fragments.length changes := by
  simpa using (collects_nil t).foldlM h

/-- If no fragment replaces an empty piece, all collected changes fit the text. -/
lemma ofFragments_tracks (hproper : ∀ f ∈ fragments, f.Proper)
    (h : ofFragments t fragments = .ok changes) :
    Tracks t fragments fragments.length changes := by
  have hcollects := ofFragments_collects h
  refine { hcollects with replacements_fit := fun p hp => ?_ }
  obtain ⟨hkind, hlies⟩ := hcollects.replacements_lie p hp
  have hkept : p.replacement ∈ keptReplacements fragments := by
    rw [← hcollects.replacements_eq]
    exact List.mem_map_of_mem hp
  exact ⟨hkind, hlies, fun _ => start_lt_stop_of_mem_keptAfter hproper (by simp) hkept⟩

/-! ## The order of changes -/

end Changes

namespace Pending

variable {R : List Pending} {p q : Pending}

/-- An insertion that is moved stays one. -/
lemma movedPast_insertion (R : List Pending) (p : Pending) :
    (movedPast R p).insertion = p.insertion := by
  simp only [movedPast]
  split <;> rfl

/-- A change that is moved keeps its number. -/
lemma movedPast_order (R : List Pending) (p : Pending) : (movedPast R p).order = p.order := by
  simp only [movedPast]
  split <;> rfl

/-- Moving an insertion is landing its block. -/
lemma movedPast_block (R : List Pending) (p : Pending) :
    (movedPast R p).block =
      { p.block with offset := landing (R.map Pending.replacement) p.start } := by
  have hsame : ((fun r : Replacement => r.surrounds p.start) ∘ Pending.replacement) =
      fun r : Pending => r.surrounds p.start := rfl
  simp only [movedPast, landing, List.find?_map, hsame]
  cases R.find? fun r => r.surrounds p.start <;> rfl

/-- A moved insertion still lies in the text. -/
lemma Lies.movedPast {t : Text} (h : p.Lies t) (hR : ∀ r ∈ R, r.insertion = false ∧ r.Lies t) :
    (p.movedPast R).Lies t := by
  simp only [Pending.movedPast]
  split
  · next r hr =>
    have hb := (hR r (List.mem_of_find?_eq_some hr)).2.stop
    exact ⟨hb, hb, Nat.le_refl _, fun _ => rfl⟩
  · exact h

/-- An insertion is moved out of all replaced pieces.

**Proof sketch.** If it is moved, it goes to the end of a piece. A piece around that end would share
a byte with it. -/
lemma not_surrounds_movedPast (hapart : R.Pairwise Apart) (p : Pending) :
    ∀ r ∈ R, (p.movedPast R).start ≤ r.start ∨ r.stop ≤ (p.movedPast R).start := by
  intro r hr
  simp only [movedPast]
  split
  · next s hs =>
    have hs' := List.mem_of_find?_eq_some hs
    by_cases hrs : r = s
    · subst hrs
      exact .inr (Nat.le_refl _)
    · have h₁ := List.find?_some hs
      simp only [surrounds, Bool.and_eq_true, decide_eq_true_eq] at h₁
      have h₂ : r.stop ≤ s.start ∨ s.stop ≤ r.start := hapart.forall hr hs' hrs
      show s.stop ≤ r.start ∨ r.stop ≤ s.stop
      omega
  · next hnone =>
    have := List.find?_eq_none.mp hnone r hr
    simp only [surrounds, Bool.and_eq_true, decide_eq_true_eq, not_and] at this
    omega

/-- The order of changes, case by case. -/
lemma comesBefore_iff : p.comesBefore q = true ↔
    q.start < p.start ∨ p.start = q.start ∧
      (p.insertion = false ∧ q.insertion = true ∨
        p.insertion = q.insertion ∧ q.order ≤ p.order) := by
  simp only [comesBefore]
  split
  · next hs =>
    split
    · next hi => simp [hs, hi]
    · next hi =>
      cases hp : p.insertion <;> cases hq : q.insertion <;> simp_all
  · next hs =>
    simp only [decide_eq_true_eq]
    omega

/-- The order of changes is transitive. -/
lemma comesBefore_trans (p q r : Pending) (hpq : p.comesBefore q = true)
    (hqr : q.comesBefore r = true) : p.comesBefore r = true := by
  rw [comesBefore_iff] at hpq hqr ⊢
  rcases hpq with hpq | ⟨hpq, h₁⟩
  · rcases hqr with hqr | ⟨hqr, -⟩ <;> exact .inl (by omega)
  · rcases hqr with hqr | ⟨hqr, h₂⟩
    · exact .inl (by omega)
    · refine .inr ⟨by omega, ?_⟩
      rcases h₁ with ⟨hp, hq⟩ | ⟨hp, ho⟩
      · rcases h₂ with ⟨hq', hr⟩ | ⟨hq', -⟩
        · simp [hq] at hq'
        · exact .inl ⟨hp, by rw [← hq', hq]⟩
      · rcases h₂ with ⟨hq', hr⟩ | ⟨hq', ho'⟩
        · exact .inl ⟨by rw [hp, hq'], hr⟩
        · exact .inr ⟨by rw [hp, hq'], by omega⟩

/-- Of two changes one comes before the other. -/
lemma comesBefore_total (p q : Pending) : (p.comesBefore q || q.comesBefore p) = true := by
  rw [Bool.or_eq_true, comesBefore_iff, comesBefore_iff]
  rcases Nat.lt_trichotomy p.start q.start with h | h | h
  · exact .inr (.inl h)
  · cases hp : p.insertion <;> cases hq : q.insertion <;> simp [h] <;> omega
  · exact .inl (.inl h)

end Pending

namespace Changes

variable {t : Text} {fragments : List Fragment} {n : Nat} {changes : Changes}

/-- All changes, insertions where they land. -/
def all (changes : Changes) : List Pending :=
  changes.replacements ++ changes.insertions.map (Pending.movedPast changes.replacements)

/-- Ordering changes loses none and adds none. -/
lemma ordered_perm (changes : Changes) : changes.ordered.Perm changes.all :=
  List.mergeSort_perm _ _

/-- Ordered changes are in order. -/
lemma ordered_pairwise (changes : Changes) :
    changes.ordered.Pairwise fun p q => p.comesBefore q = true :=
  List.pairwise_mergeSort Pending.comesBefore_trans Pending.comesBefore_total _

/-- All changes lie in the text. -/
lemma Collects.all_lie (h : Collects t fragments n changes) : ∀ p ∈ changes.all, p.Lies t := by
  intro p hp
  rcases List.mem_append.mp hp with hp | hp
  · exact (h.replacements_lie p hp).2
  · obtain ⟨q, hq, rfl⟩ := List.mem_map.mp hp
    exact (h.insertions_lie q hq).2.movedPast h.replacements_lie

/-- The insertions among all changes are those that were moved. -/
lemma Collects.insertion_of_mem_moved (h : Collects t fragments n changes) {p : Pending}
    (hp : p ∈ changes.insertions.map (Pending.movedPast changes.replacements)) :
    p.insertion = true := by
  obtain ⟨q, hq, rfl⟩ := List.mem_map.mp hp
  rw [Pending.movedPast_insertion]
  exact (h.insertions_lie q hq).1

/-- All changes fit the text. -/
lemma Tracks.all_fit (h : Tracks t fragments n changes) : ∀ p ∈ changes.all, p.Fits t := by
  intro p hp
  refine ⟨h.all_lie p hp, fun hkind => ?_⟩
  rcases List.mem_append.mp hp with hp | hp
  · exact (h.replacements_fit p hp).2.replacement hkind
  · simp [h.insertion_of_mem_moved hp] at hkind

/-- One of any two changes lies before the other. -/
lemma Collects.all_apart (h : Collects t fragments n changes) :
    changes.all.Pairwise Pending.Apart := by
  have hmoved : ∀ p ∈ changes.insertions.map (Pending.movedPast changes.replacements),
      p.stop = p.start := fun p hp =>
    (h.all_lie p (List.mem_append_right _ hp)).insertion (h.insertion_of_mem_moved hp)
  refine List.pairwise_append.mpr ⟨h.apart, ?_, ?_⟩
  · refine List.pairwise_of_forall_mem_list fun p hp q hq => ?_
    have := hmoved p hp
    have := hmoved q hq
    simp only [Pending.Apart]
    omega
  · intro r hr p hp
    have hp' := hmoved p hp
    obtain ⟨q, hq, rfl⟩ := List.mem_map.mp hp
    have := Pending.not_surrounds_movedPast h.apart q r hr
    simp only [Pending.Apart]
    omega

/-- **Ordered changes are descending.**

**Proof sketch.** One of any two changes lies before the other. If the earlier one in the list were
the one in front, both would start at the same offset and the earlier one would be an insertion;
then so is the later one, since replacements come first. -/
lemma Tracks.ordered_descending (h : Tracks t fragments n changes) :
    Descending changes.ordered := by
  have hapart : changes.ordered.Pairwise Pending.Apart :=
    h.all_apart.perm changes.ordered_perm.symm fun hpq => hpq.symm
  refine (hapart.and changes.ordered_pairwise).imp_of_mem fun {p q} hp hq hpq => ?_
  obtain ⟨hsides, hbefore⟩ := hpq
  simp only [Pending.Apart] at hsides
  have hp' := h.all_fit p (changes.ordered_perm.mem_iff.mp hp)
  have hq' := h.all_fit q (changes.ordered_perm.mem_iff.mp hq)
  have hple := hp'.start_le_stop
  rw [Pending.comesBefore_iff] at hbefore
  rcases hbefore with hlt | ⟨hs, hkind⟩
  · have := hq'.start_le_stop
    omega
  · rcases hkind with ⟨-, hins⟩ | ⟨hsame, -⟩
    · have := hq'.insertion hins
      omega
    · cases hins : q.insertion with
      | true =>
        have := hq'.insertion hins
        omega
      | false =>
        have := hp'.replacement (hsame.trans hins)
        have := hq'.replacement hins
        omega

/-! ## The same pass in both orders -/

/-- The insertions among all changes. -/
lemma Collects.filter_insertion_all (h : Collects t fragments n changes) :
    (changes.all.filter fun p => p.insertion) =
      changes.insertions.map (Pending.movedPast changes.replacements) := by
  have hrep : (changes.replacements.filter fun p => p.insertion) = [] :=
    List.filter_eq_nil_iff.mpr fun p hp => by simp [(h.replacements_lie p hp).1]
  have hins : ((changes.insertions.map (Pending.movedPast changes.replacements)).filter
      fun p => p.insertion) = changes.insertions.map (Pending.movedPast changes.replacements) :=
    List.filter_eq_self.mpr fun p hp => h.insertion_of_mem_moved hp
  rw [all, List.filter_append, hrep, hins, List.nil_append]

/-- The replacements among all changes. -/
lemma Collects.filter_replacement_all (h : Collects t fragments n changes) :
    (changes.all.filter fun p => !p.insertion) = changes.replacements := by
  have hrep : (changes.replacements.filter fun p => !p.insertion) = changes.replacements :=
    List.filter_eq_self.mpr fun p hp => by simp [(h.replacements_lie p hp).1]
  have hins : ((changes.insertions.map (Pending.movedPast changes.replacements)).filter
      fun p => !p.insertion) = [] :=
    List.filter_eq_nil_iff.mpr fun p hp => by simp [h.insertion_of_mem_moved hp]
  rw [all, List.filter_append, hrep, hins, List.append_nil]

/-- The replacements among all changes are those that count. -/
lemma Collects.replacementsOf_all (h : Collects t fragments n changes) :
    replacementsOf changes.all = keptReplacements fragments := by
  rw [replacementsOf, h.filter_replacement_all, h.replacements_eq]

/-- The blocks among all changes are those of the fragments, where they land. -/
lemma Collects.blocksOf_all (h : Collects t fragments n changes) :
    blocksOf changes.all = placedBlocks t fragments := by
  rw [blocksOf, h.filter_insertion_all, placedBlocks, ← h.insertions_eq, ← h.replacements_eq,
    List.map_map, List.map_map]
  exact List.map_congr_left fun p _ => Pending.movedPast_block _ p

/-- At most one replaced piece starts at an offset, so the order of replacements does not matter.

**Proof sketch.** Two of them would share the byte at that offset. -/
lemma Tracks.newTextAt_ordered (h : Tracks t fragments n changes) (x : Nat) :
    newTextAt (replacementsOf changes.ordered.reverse) x =
      newTextAt (keptReplacements fragments) x := by
  have hperm : changes.ordered.reverse.Perm changes.all :=
    (List.reverse_perm _).trans changes.ordered_perm
  have hsingle : ((changes.all.filter fun p => !p.insertion).filter
      fun p => p.start == x).Pairwise fun _ _ => False := by
    refine ((h.all_apart.filter _).filter _).imp_of_mem fun {p q} hp hq hpq => ?_
    simp only [List.mem_filter, Bool.not_eq_true', beq_iff_eq] at hp hq
    have hp' := (h.all_fit p hp.1.1).replacement hp.1.2
    have hq' := (h.all_fit q hq.1.1).replacement hq.1.2
    simp only [Pending.Apart] at hpq
    omega
  have heq := List.Perm.eq_of_pairwise (fun _ _ _ _ h _ => h.elim)
    (hsingle.perm ((hperm.filter _).filter _).symm id) hsingle ((hperm.filter _).filter _)
  have hmap : ∀ ps : List Pending, newTextAt (replacementsOf ps) x =
      ((ps.filter fun p => !p.insertion).filter fun p => p.start == x).flatMap Pending.text := by
    intro ps
    rw [newTextAt, replacementsOf, List.filter_map, List.flatMap_map]
    rfl
  rw [← h.replacementsOf_all, hmap, hmap, heq]

/-- The order of replacements does not matter for what they cover. -/
lemma Tracks.any_covers_ordered (h : Tracks t fragments n changes) (x : Nat) :
    ((replacementsOf changes.ordered.reverse).any fun r => r.covers x) =
      (keptReplacements fragments).any fun r => r.covers x := by
  have hperm : (replacementsOf changes.ordered.reverse).Perm (keptReplacements fragments) := by
    rw [← h.replacementsOf_all]
    exact ((((List.reverse_perm _).trans changes.ordered_perm)).filter _).map _
  rw [Bool.eq_iff_iff, List.any_eq_true, List.any_eq_true]
  exact exists_congr fun r => and_congr_left' hperm.mem_iff

/-- Blocks that land at one offset come in the order of their fragments.

**Proof sketch.** In the reversed order of application, insertions at one offset come by their
numbers, as they do in the order of fragments. The numbers differ, so the lists are the same. -/
lemma Tracks.blocksAt_ordered (h : Tracks t fragments n changes) (x : Nat) :
    blocksAt (blocksOf changes.ordered.reverse) x = blocksAt (placedBlocks t fragments) x := by
  have hperm : changes.ordered.reverse.Perm changes.all :=
    (List.reverse_perm _).trans changes.ordered_perm
  set moved := changes.insertions.map (Pending.movedPast changes.replacements) with hmoved
  have hins : (changes.all.filter fun p => p.insertion) = moved := h.filter_insertion_all
  have hnumbered : moved.Pairwise fun p q => p.order < q.order := by
    rw [hmoved, List.pairwise_map]
    simpa only [Pending.movedPast_order] using h.numbered
  have hinj : ∀ p ∈ moved, ∀ q ∈ moved, p.order = q.order → p = q := fun p hp q hq =>
    List.inj_on_of_nodup_map (List.pairwise_map.mpr (hnumbered.imp Nat.ne_of_lt)) hp hq
  have hreversed : ((changes.ordered.reverse.filter fun p => p.insertion).filter
      fun p => p.start == x).Pairwise fun p q => p.order ≤ q.order := by
    have hback := List.pairwise_reverse.mpr changes.ordered_pairwise
    refine ((hback.filter _).filter _).imp_of_mem fun {p q} hp hq hpq => ?_
    simp only [List.mem_filter, beq_iff_eq] at hp hq
    rw [Pending.comesBefore_iff, hp.1.2, hq.1.2] at hpq
    simp only [Bool.true_eq_false, false_and, true_and, false_or] at hpq
    omega
  have heq : ((changes.ordered.reverse.filter fun p => p.insertion).filter
      fun p => p.start == x) = moved.filter fun p => p.start == x := by
    have hp := (hperm.filter fun p => p.insertion).filter fun p => p.start == x
    rw [hins] at hp
    refine List.Perm.eq_of_pairwise (fun p q hp' hq' hpq hqp => ?_) hreversed
      ((hnumbered.filter _).imp Nat.le_of_lt) hp
    exact hinj p (List.mem_of_mem_filter (hp.mem_iff.mp hp')) q (List.mem_of_mem_filter hq')
      (Nat.le_antisymm hpq hqp)
  have hmap : ∀ ps : List Pending, blocksAt (blocksOf ps) x =
      ((ps.filter fun p => p.insertion).filter fun p => p.start == x).flatMap Pending.text := by
    intro ps
    rw [blocksAt, blocksOf, List.filter_map, List.flatMap_map]
    rfl
  rw [← h.blocksOf_all, hmap, hmap, heq, hins]

/-- The pass over the text is the same for the ordered changes and for the fragments. -/
lemma Tracks.substituted_ordered (h : Tracks t fragments n changes) :
    substituteFrom (replacementsOf changes.ordered.reverse) (blocksOf changes.ordered.reverse) 0 t =
      substituted t fragments :=
  substituteFrom_congr h.blocksAt_ordered fun x => ⟨h.newTextAt_ordered x, h.any_covers_ordered x⟩

end Changes

/-! ## Assembled edits -/

/-- The edit that puts a new text in the place of a piece. -/
def Replacement.edit (r : Replacement) : Edit :=
  .replace r.start r.stop r.text

/-- The edit that puts a block into a text. -/
def Block.edit (b : Block) : Edit :=
  .insert b.offset b.text

/-- The edits of changes are those of the replacements and of the blocks among them. -/
lemma map_edit_perm (changes : List Pending) :
    (changes.map Pending.edit).Perm
      ((replacementsOf changes).map Replacement.edit ++ (blocksOf changes).map Block.edit) := by
  induction changes with
  | nil => exact .nil
  | cons p changes ih =>
    cases hp : p.insertion with
    | true =>
      have hedit : p.edit = p.block.edit := by
        simp [Pending.edit, hp, Block.edit, Pending.block]
      simpa [replacementsOf, blocksOf, hp, hedit] using
        (ih.cons p.block.edit).trans List.perm_middle.symm
    | false =>
      have hedit : p.edit = p.replacement.edit := by
        simp [Pending.edit, hp, Replacement.edit, Pending.replacement]
      simpa [replacementsOf, blocksOf, hp, hedit] using ih.cons p.replacement.edit

/-- An edit changes the size of a text by the size of its text, less what it takes away. -/
lemma size_applyEdit {t u : Text} {e : Edit} (h : applyEdit t e = .ok u) :
    size u + (e.stop - e.offset) = size t + size e.text := by
  simp only [applyEdit] at h
  split at h
  · simp at h
  · next h₀ =>
    split at h
    · simp at h
    · next hcheck =>
      obtain ⟨hle, hstart, hstop⟩ := checkRange_eq_ok_iff.mp hcheck
      obtain ⟨a, w, b, rfl, ha, hw⟩ := exists_split_of_le hstart hstop hle
      have hone := applyEdit_split a w b h₀ ha.symm hw.symm
      simp only [applyEdit, h₀, ↓reduceIte, hcheck, Except.ok.injEq] at hone h
      rw [← h, hone]
      simp only [size_append] at hw ⊢
      omega

/-- Every edit counts once in the size of the new text. -/
lemma size_applyEdits {t u : Text} {edits : List Edit} (h : applyEdits t edits = .ok u) :
    size u + (edits.map fun e => e.stop - e.offset).sum =
      size t + (edits.map fun e => size e.text).sum := by
  induction edits generalizing t with
  | nil =>
    obtain rfl : t = u := by simpa [applyEdits, pure, Except.pure] using h
    simp
  | cons e edits ih =>
    simp only [applyEdits, List.foldlM_cons] at h
    cases hone : applyEdit t e with
    | error error => simp [hone, bind, Except.bind] at h
    | ok next =>
      rw [hone] at h
      have hstep := size_applyEdit hone
      have hrun := ih h
      simp only [List.map_cons, List.sum_cons]
      omega

/-- Assembled edits are the changes that were collected, in order. -/
lemma assemble_eq_ok_iff {t : Text} {fragments : List Fragment} {edits : List Edit} :
    assemble t fragments = .ok edits ↔
      ∃ changes, Changes.ofFragments t fragments = .ok changes ∧
        edits = changes.ordered.map Pending.edit := by
  simp only [assemble]
  cases Changes.ofFragments t fragments <;> simp [eq_comm]

/-- Assembled edits are one for each replacement that counts and one for each block. -/
lemma assemble_perm {t : Text} {fragments : List Fragment} {edits : List Edit}
    (hproper : ∀ f ∈ fragments, f.Proper) (h : assemble t fragments = .ok edits) :
    edits.Perm ((keptReplacements fragments).map Replacement.edit ++
      (placedBlocks t fragments).map Block.edit) := by
  obtain ⟨changes, hchanges, rfl⟩ := assemble_eq_ok_iff.mp h
  have htracks := Changes.ofFragments_tracks hproper hchanges
  rw [← htracks.replacementsOf_all, ← htracks.blocksOf_all]
  exact (changes.ordered_perm.map _).trans (map_edit_perm _)

/-- Assembled edits fit the text, and give what one pass gives. -/
lemma applyEdits_of_assemble {t : Text} {fragments : List Fragment} {edits : List Edit}
    (hproper : ∀ f ∈ fragments, f.Proper) (h : assemble t fragments = .ok edits) :
    applyEdits t edits = .ok (substituted t fragments) := by
  obtain ⟨changes, hchanges, rfl⟩ := assemble_eq_ok_iff.mp h
  have htracks := Changes.ofFragments_tracks hproper hchanges
  have hfit : ∀ p ∈ changes.ordered, p.Fits t := fun p hp =>
    htracks.all_fit p (changes.ordered_perm.mem_iff.mp hp)
  have happly := applyEdits_of_descending htracks.ordered_descending hfit []
  rwa [List.append_nil, List.append_nil, htracks.substituted_ordered] at happly

/-- **Applying assembled edits is one substitution.** The edits are one for each replacement that
counts and one for each block. Applied one after the other they give what one pass over the
unchanged text gives, and each of them counts once in its size.

**Proof sketch.** The edits are ordered from the end of the text to its start, so none moves what a
later one refers to. Each of them therefore does to the unchanged text what the pass from left to
right does at its offset. The sizes add up as every edit counts once. -/
theorem applyEdits_assemble {t : Text} {fragments : List Fragment} {edits : List Edit}
    (hproper : ∀ f ∈ fragments, f.Proper) (h : assemble t fragments = .ok edits) :
    edits.Perm ((keptReplacements fragments).map Replacement.edit ++
        (placedBlocks t fragments).map Block.edit) ∧
      applyEdits t edits = .ok (substituted t fragments) ∧
      size (substituted t fragments) +
          ((keptReplacements fragments).map fun r => r.stop - r.start).sum =
        size t + ((keptReplacements fragments).map fun r => size r.text).sum +
          ((placedBlocks t fragments).map fun b => size b.text).sum := by
  have hperm := assemble_perm hproper h
  have happly := applyEdits_of_assemble hproper h
  refine ⟨hperm, happly, ?_⟩
  have hsize := size_applyEdits happly
  rw [(hperm.map _).sum_nat, (hperm.map fun e => size e.text).sum_nat] at hsize
  simp only [List.map_append, List.map_map, List.sum_append] at hsize
  have hwide :
      ((keptReplacements fragments).map ((fun e => e.stop - e.offset) ∘ Replacement.edit)) =
      (keptReplacements fragments).map fun r => r.stop - r.start := by
    refine List.map_congr_left fun r _ => ?_
    simp only [Function.comp, Replacement.edit, Edit.replace, Edit.stop, Edit.offset]
    omega
  have hthin : ((placedBlocks t fragments).map ((fun e => e.stop - e.offset) ∘ Block.edit)).sum =
      0 := by
    refine List.sum_eq_zero_iff_forall_eq_nat.mpr fun x hx => ?_
    obtain ⟨b, -, rfl⟩ := List.mem_map.mp hx
    simp [Block.edit, Edit.insert, Edit.stop, Edit.offset]
  rw [hwide, hthin] at hsize
  simpa [Nat.add_assoc, Function.comp_def, Replacement.edit, Edit.replace, Block.edit, Edit.insert]
    using hsize

/-- Of two replacements that overlap the first one counts, and the block that would lie inside it
lands behind it. -/
theorem applyEdits_assemble_overlapping :
    assemble "ab\ncde".toList
        [.note ["---@a".toList] (.above 3), .replacement 0 4 "xy".toList,
          .replacement 3 5 "zz".toList, .note ["---@b".toList] (.below 6)] =
      .ok [.insert 6 "\n---@b\n".toList, .insert 4 "---@a\n".toList, .replace 0 4 "xy".toList] ∧
    applyEdits "ab\ncde".toList
        [.insert 6 "\n---@b\n".toList, .insert 4 "---@a\n".toList, .replace 0 4 "xy".toList] =
      .ok "xy---@a\nde\n---@b\n".toList := by
  have h : assemble "ab\ncde".toList
        [.note ["---@a".toList] (.above 3), .replacement 0 4 "xy".toList,
          .replacement 3 5 "zz".toList, .note ["---@b".toList] (.below 6)] =
      .ok [.insert 6 "\n---@b\n".toList, .insert 4 "---@a\n".toList, .replace 0 4 "xy".toList] := by
    -- The second replacement overlaps the first one, and the first block moves behind that.
    refine assemble_eq_ok_iff.mpr ⟨{
      replacements :=
        [{ order := 1, start := 0, stop := 4, insertion := false, text := "xy".toList }]
      insertions := [
        { order := 0, start := 3, stop := 3, insertion := true, text := "---@a\n".toList },
        { order := 3, start := 6, stop := 6, insertion := true, text := "\n---@b\n".toList }] },
      rfl, ?_⟩
    simp [Changes.ordered, List.mergeSort, Pending.movedPast, Pending.surrounds,
      Pending.comesBefore, Pending.edit]
  exact ⟨h, (applyEdits_assemble (by simp [Fragment.Proper]) h).2.1.trans (by decide +kernel)⟩

end Gloss
