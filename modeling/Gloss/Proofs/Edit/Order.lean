import Gloss.Proofs.Edit.Assemble

/-!
# The order of assembled edits

Edits are applied one after the other, while all their offsets are those of the unchanged text. This
is safe if every edit lies before all edits in front of it in the list: then what an edit refers to
is still there, at its old offset, when its turn comes.

Assembled edits are in such an order unless an empty piece is replaced at the start of a piece that
an earlier fragment replaces. Of two replacements at one offset the later one comes first, so in
that case the empty one is applied first and its text stands where the other one looks for the old
text.

## Main definitions

* `Pending.EmptyFirst`: of two replacements at one offset, the earlier one is empty.

## Main results

* `Changes.Collects.ordered_descending_iff`: when ordered changes are descending.
* `applyEdits_of_descending_append`: descending changes leave the text that later ones refer to.
* `assemble_backward_iff`: when every edit lies before all edits in front of it.
-/

set_option relaxedAutoImplicit false
set_option autoImplicit false

namespace Gloss

open Text

/-! ## Replacements at one offset -/

/-- Of two replacements that start at one offset, the one with the smaller number is empty. -/
def Pending.EmptyFirst (p q : Pending) : Prop :=
  p.insertion = false → q.insertion = false → p.start = q.start →
    (p.order < q.order → p.stop = p.start) ∧ (q.order < p.order → q.stop = q.start)

/-- The condition does not depend on which change is named first. -/
lemma Pending.EmptyFirst.symm {p q : Pending} (h : p.EmptyFirst q) : q.EmptyFirst p :=
  fun hq hp hs => (h hp hq hs.symm).symm

namespace Changes

variable {t : Text} {fragments : List Fragment} {n : Nat} {changes : Changes}

/-- Replacements have numbers of their own. -/
lemma Collects.all_numbered (h : Collects t fragments n changes) :
    changes.all.Pairwise fun p q => p.insertion = false → q.insertion = false →
      p.order ≠ q.order := by
  refine List.pairwise_append.mpr ⟨?_, ?_, ?_⟩
  · exact h.replacements_numbered.imp fun hlt _ _ => Nat.ne_of_lt hlt
  · refine List.pairwise_of_forall_mem_list fun p hp q _ hkind => ?_
    simp [h.insertion_of_mem_moved hp] at hkind
  · intro p _ q hq _ hkind
    simp [h.insertion_of_mem_moved hq] at hkind

/-- The numbers of replacements say which fragment came first. -/
lemma Collects.all_emptyFirst_iff (h : Collects t fragments n changes) :
    changes.all.Pairwise Pending.EmptyFirst ↔
      (keptReplacements fragments).Pairwise fun r s => r.start = s.start → r.stop = r.start := by
  rw [← h.replacements_eq, List.pairwise_map]
  constructor
  · intro hall
    have hkept := ((List.pairwise_append.mp hall).1).and h.replacements_numbered
    refine hkept.imp_of_mem fun {p q} hp hq hpq hs => ?_
    obtain ⟨hempty, hlt⟩ := hpq
    exact (hempty (h.replacements_lie p hp).1 (h.replacements_lie q hq).1 hs).1 hlt
  · intro hkept
    refine List.pairwise_append.mpr ⟨?_, ?_, ?_⟩
    · refine (hkept.and h.replacements_numbered).imp fun {p q} hpq _ _ hs => ?_
      exact ⟨fun _ => hpq.1 hs, fun hlt => absurd hlt (Nat.lt_asymm hpq.2)⟩
    · refine List.pairwise_of_forall_mem_list fun p hp q _ hkind => ?_
      simp [h.insertion_of_mem_moved hp] at hkind
    · intro p _ q hq _ hkind
      simp [h.insertion_of_mem_moved hq] at hkind

/-- **When ordered changes are descending**: if of two replacements that start at one offset the
earlier one is empty.

**Proof sketch.** One of any two changes lies before the other. Only if they start at one offset can
the one in front in the list be the one in front in the text. Insertions take no place and come
after replacements, so both are replacements, and the one with the greater number comes first. -/
lemma Collects.ordered_descending_iff (h : Collects t fragments n changes) :
    Descending changes.ordered ↔
      (keptReplacements fragments).Pairwise fun r s => r.start = s.start → r.stop = r.start := by
  rw [← h.all_emptyFirst_iff, ← changes.ordered_perm.pairwise_iff Pending.EmptyFirst.symm]
  have hlie : ∀ p ∈ changes.ordered, p.Lies t := fun p hp =>
    h.all_lie p (changes.ordered_perm.mem_iff.mp hp)
  constructor
  · intro hd
    refine (hd.and changes.ordered_pairwise).imp_of_mem fun {p q} _ hq hpq hp' hq' hs => ?_
    obtain ⟨hle, hbefore⟩ := hpq
    have horder : q.order ≤ p.order := by
      rcases Pending.comesBefore_iff.mp hbefore with hlt | ⟨-, ⟨-, hins⟩ | ⟨-, horder⟩⟩
      · omega
      · simp [hq'] at hins
      · exact horder
    have := (hlie q hq).start_le_stop
    exact ⟨fun hlt => absurd hlt (Nat.not_lt.mpr horder), fun _ => by omega⟩
  · intro hempty
    have hapart : changes.ordered.Pairwise Pending.Apart :=
      h.all_apart.perm changes.ordered_perm.symm fun hpq => hpq.symm
    have hnumbered : changes.ordered.Pairwise fun p q => p.insertion = false →
        q.insertion = false → p.order ≠ q.order :=
      h.all_numbered.perm changes.ordered_perm.symm fun hpq hq hp => (hpq hp hq).symm
    refine ((hempty.and hnumbered).and (hapart.and changes.ordered_pairwise)).imp_of_mem
      fun {p q} hp hq hpq => ?_
    obtain ⟨⟨hempty, hne⟩, hsides, hbefore⟩ := hpq
    simp only [Pending.Apart] at hsides
    have hple := (hlie p hp).start_le_stop
    have hqle := (hlie q hq).start_le_stop
    rcases Pending.comesBefore_iff.mp hbefore with hlt | ⟨hs, ⟨-, hins⟩ | ⟨hsame, horder⟩⟩
    · omega
    · have := (hlie q hq).insertion hins
      omega
    · cases hins : q.insertion with
      | true =>
        have := (hlie q hq).insertion hins
        omega
      | false =>
        have hlt : q.order < p.order :=
          Nat.lt_of_le_of_ne horder (hne (hsame.trans hins) hins).symm
        have := (hempty (hsame.trans hins) hins hs).2 hlt
        omega

end Changes

/-! ## What later edits refer to -/

/-- A change that lies in a text lies in it with more text behind. -/
lemma Pending.Lies.append {a : Text} {p : Pending} (h : p.Lies a) (b : Text) : p.Lies (a ++ b) where
  start := isBoundary_append_right h.start b
  stop := isBoundary_append_right h.stop b
  start_le_stop := h.start_le_stop
  insertion := h.insertion

/-- **Descending changes leave the text that later ones refer to**: once the first of them are
applied, the text up to the end of any other one is what it was.

**Proof sketch.** Induction on the changes that are applied, over all texts. The first one lies
behind all others and only changes what is behind its start. -/
lemma applyEdits_of_descending_append {t : Text} {first later : List Pending}
    (hd : Descending (first ++ later)) (hlie : ∀ p ∈ first ++ later, p.Lies t) :
    ∃ u, applyEdits t (first.map Pending.edit) = .ok u ∧
      ∀ p ∈ later, ∃ a b b', t = a ++ b ∧ u = a ++ b' ∧ size a = p.stop := by
  induction first generalizing t with
  | nil =>
    refine ⟨t, rfl, fun p hp => ?_⟩
    obtain ⟨a, b, ht, ha⟩ := isBoundary_iff.mp (hlie p hp).stop
    exact ⟨a, b, b, ht, ht, ha⟩
  | cons p first ih =>
    obtain ⟨hlast, hd⟩ := List.pairwise_cons.mp hd
    have hp := hlie p (by simp)
    obtain ⟨a, w, b, rfl, ha, hw⟩ := exists_split_of_le hp.start hp.stop hp.start_le_stop
    have hone : applyEdit (a ++ w ++ b) p.edit = .ok (a ++ (p.text ++ b)) := by
      have := applyEdit_split a w b p.edit_start_ne_zero (by rw [p.edit_offset, ha])
        (by rw [hp.edit_stop, hw])
      simpa [p.edit_text] using this
    have hrest : ∀ q ∈ first ++ later, q.Lies (a ++ (p.text ++ b)) := fun q hq => by
      have hq' : q.Lies (a ++ (w ++ b)) := by
        rw [← List.append_assoc]
        exact hlie q (List.mem_cons_of_mem p hq)
      exact (hq'.of_append (by rw [ha]; exact hlast q hq)).append _
    obtain ⟨u, hu, hkeep⟩ := ih hd hrest
    refine ⟨u, ?_, fun q hq => ?_⟩
    · rw [← hu]
      simp only [applyEdits, List.map_cons, List.foldlM_cons, hone]
      rfl
    · -- The text up to the end of the change lies in front of the first edit.
      obtain ⟨a', c, c', hsplit, hu', hsize⟩ := hkeep q hq
      have hle : size a' ≤ size a := by
        rw [hsize, ha]
        exact hlast q (List.mem_append_right _ hq)
      obtain ⟨m, rfl, -⟩ := exists_eq_append_of_size_le hsplit.symm hle
      exact ⟨a', m ++ w ++ b, c', by simp, hu', hsize⟩

/-! ## Assembled edits -/

/-- **When every edit lies before all edits in front of it.** Assembled edits are in this order iff
of two kept replacements that start at one offset the earlier one is always empty. If they are, then
applying the first of them, as many as one likes, succeeds and leaves the text up to the end of
every other edit as it was: no edit touches what an earlier one has put in, and no offset that is
still to be used is shifted.

**Proof sketch.** Ordered changes start later and later towards the front, and all of them lie
apart. So only two changes at one offset can be out of order: two replacements, of which the later
one comes first and then ends behind the start of the other, unless that is empty. Edits in this
order leave the text up to the next one alone, by induction on those that have been applied. -/
theorem assemble_backward_iff {t : Text} {fragments : List Fragment} {edits : List Edit}
    (h : assemble t fragments = .ok edits) :
    ((edits.Pairwise fun e later => later.stop ≤ e.offset) ↔
      (keptReplacements fragments).Pairwise fun r s => r.start = s.start → r.stop = r.start) ∧
    ((edits.Pairwise fun e later => later.stop ≤ e.offset) →
      ∀ first later, edits = first ++ later →
        ∃ u, applyEdits t first = .ok u ∧
          ∀ e ∈ later, ∃ a b b', t = a ++ b ∧ u = a ++ b' ∧ size a = e.stop) := by
  obtain ⟨changes, hchanges, rfl⟩ := assemble_eq_ok_iff.mp h
  have hcollects := Changes.ofFragments_collects hchanges
  have hlie : ∀ p ∈ changes.ordered, p.Lies t := fun p hp =>
    hcollects.all_lie p (changes.ordered_perm.mem_iff.mp hp)
  have hedits : ((changes.ordered.map Pending.edit).Pairwise
      fun e later => later.stop ≤ e.offset) ↔ Descending changes.ordered := by
    rw [List.pairwise_map]
    refine List.Pairwise.iff_of_mem fun {p q} _ hq => ?_
    rw [(hlie q hq).edit_stop, p.edit_offset]
  refine ⟨hedits.trans hcollects.ordered_descending_iff, fun hbackward first later hsplit => ?_⟩
  obtain ⟨first', later', hordered, rfl, rfl⟩ := List.map_eq_append_iff.mp hsplit
  have hd := hedits.mp hbackward
  rw [hordered] at hd hlie
  obtain ⟨u, hu, hkeep⟩ := applyEdits_of_descending_append hd hlie
  refine ⟨u, hu, fun e he => ?_⟩
  obtain ⟨p, hp, rfl⟩ := List.mem_map.mp he
  rw [(hlie p (List.mem_append_right _ hp)).edit_stop]
  exact hkeep p hp

/-- An empty piece that is replaced at the start of a piece of an earlier fragment comes first, and
its text is taken away again by the other edit. -/
theorem assemble_not_backward_empty :
    assemble "ab".toList [.replacement 0 1 "X".toList, .replacement 0 0 "Y".toList] =
      .ok [.replace 0 0 "Y".toList, .replace 0 1 "X".toList] ∧
    (¬ [Edit.replace 0 0 "Y".toList, .replace 0 1 "X".toList].Pairwise
      fun e later => later.stop ≤ e.offset) ∧
    applyEdits "ab".toList [.replace 0 0 "Y".toList, .replace 0 1 "X".toList] =
      .ok "Xab".toList := by
  have h : assemble "ab".toList [.replacement 0 1 "X".toList, .replacement 0 0 "Y".toList] =
      .ok [.replace 0 0 "Y".toList, .replace 0 1 "X".toList] := by
    refine assemble_eq_ok_iff.mpr ⟨{
      replacements := [
        { order := 0, start := 0, stop := 1, insertion := false, text := "X".toList },
        { order := 1, start := 0, stop := 0, insertion := false, text := "Y".toList }]
      insertions := [] }, rfl, ?_⟩
    simp [Changes.ordered, List.mergeSort, Pending.comesBefore, Pending.edit]
  refine ⟨h, fun hbackward => ?_, by decide +kernel⟩
  have hkept := (assemble_backward_iff h).1.mp hbackward
  revert hkept
  decide +kernel

end Gloss
