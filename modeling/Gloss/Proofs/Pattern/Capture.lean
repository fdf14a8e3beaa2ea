import Gloss.Proofs.Pattern.Escape

/-!
# What groups capture

Which runs a pattern leads to, groups included. As for the places alone, a sequence leads through a
run in between; a group adds the piece between the place where its pattern started and the place it
has come to. So the groups of a match cut its text into pieces, each of which the pattern inside the
group leads over.

## Main definitions

* `Expr.Leads`: the pattern leads from one run to another.
* `Expr.hasNoGroup`: nothing is remembered.

## Main results

* `Expr.exists_leads_of_matchAt?`: a match is a run that the pattern leads to.
* `Expr.leads_seqs_append`: a sequence of sequences leads through a run in between.
* `Expr.Leads.reaches`, `Expr.Leads.groups_eq`: what a run has come to, and what it remembers.
* `Expr.leads_seqs_group`: what a group in a sequence remembers.
-/

set_option relaxedAutoImplicit false
set_option autoImplicit false

namespace Gloss

namespace Expr

/-- The pattern leads from one run to another. Repetitions of anything but characters are not looked
at. -/
def Leads : Expr → Run → Run → Prop
  | .empty, r, s => s = r
  | .char set, r, s => r.step? set = some s
  | .anchor a, r, s => r.anchor? a = some s
  | .seq a b, r, s => ∃ m, a.Leads r m ∧ b.Leads m s
  | .alt a b, r, s => a.Leads r s ∨ b.Leads r s
  | .chars set least most greedy, r, s => s ∈ Run.chars set least most greedy r
  | .option body _, r, s => body.Leads r s ∨ s = r
  | .rep _ _ _ _, _, _ => False
  | .group index body, r, s => ∃ m, body.Leads r m ∧ s = m.close index r.place

/-- The pattern has no group. -/
def hasNoGroup : Expr → Bool
  | .empty => true
  | .char _ => true
  | .anchor _ => true
  | .seq a b => a.hasNoGroup && b.hasNoGroup
  | .alt a b => a.hasNoGroup && b.hasNoGroup
  | .chars _ _ _ _ => true
  | .option body _ => body.hasNoGroup
  | .rep body _ _ _ => body.hasNoGroup
  | .group _ _ => false

variable {e : Expr} {es fs : List Expr} {r s : Run}

/-- **The runs of a plain pattern are runs that it leads to.** Not all of them are kept, since of
two runs to one place only the first is.

**Proof sketch.** Induction on the pattern. Leaving out repeated runs only removes some. -/
lemma leads_of_mem_ends (he : e.isPlain = true) (hs : s ∈ e.ends r) : e.Leads r s := by
  induction e generalizing r s with
  | empty => exact List.mem_singleton.mp hs
  | char set => exact Option.mem_toList.mp hs
  | anchor a => exact Option.mem_toList.mp hs
  | seq a b iha ihb =>
    simp only [isPlain, Bool.and_eq_true] at he
    obtain ⟨m, hm, hs⟩ := List.mem_flatMap.mp (Run.mem_of_mem_distinct hs)
    exact ⟨m, iha he.1 hm, ihb he.2 hs⟩
  | alt a b iha ihb =>
    simp only [isPlain, Bool.and_eq_true] at he
    exact (List.mem_append.mp hs).imp (iha he.1) (ihb he.2)
  | chars set least most greedy => exact hs
  | option body greedy ih =>
    have hs : s ∈ body.ends r ∨ s = r := by
      cases greedy <;> simpa [ends, or_comm] using hs
    exact hs.imp_left (ih he)
  | rep body least most greedy ih => simp [isPlain] at he
  | group index body ih =>
    obtain ⟨m, hm, rfl⟩ := List.mem_map.mp hs
    exact ⟨m, ih he hm, rfl⟩

/-- A match is a run that the pattern leads to. -/
lemma exists_leads_of_matchAt? (he : e.isPlain = true) {p : Cursor} {m : Match}
    (hm : e.matchAt? p = some m) :
    m.start = p ∧ e.Leads { place := p, groups := [] } { place := m.stop, groups := m.groups } := by
  simp only [matchAt?] at hm
  split at hm
  · obtain ⟨s, hs, rfl⟩ := Option.map_eq_some_iff.mp hm
    exact ⟨rfl, leads_of_mem_ends he (List.mem_of_mem_head? hs)⟩
  · simp at hm

/-- The place that a run comes to is one that the pattern leads to. -/
lemma Leads.reaches (h : e.Leads r s) : e.Reaches r.place s.place := by
  induction e generalizing r s with
  | empty => exact congrArg Run.place h
  | char set =>
    obtain ⟨c, rest, hrest, hc, rfl⟩ := Run.step?_eq_some h
    exact ⟨c, hc, Cursor.Reads.step hrest⟩
  | anchor a =>
    obtain rfl := Run.anchor?_eq_some h
    exact ⟨by simpa [Leads, Run.anchor?] using h, rfl⟩
  | seq a b iha ihb =>
    obtain ⟨m, ha, hb⟩ := h
    exact ⟨m.place, iha ha, ihb hb⟩
  | alt a b iha ihb => exact h.imp iha ihb
  | chars set least most greedy =>
    obtain ⟨w, ⟨hreads, -, hall⟩, hbounds⟩ := Run.mem_chars_iff.mp h
    exact ⟨w, hreads, hall, hbounds⟩
  | option body greedy ih => exact h.imp ih (congrArg Run.place)
  | rep body least most greedy ih => exact h
  | group index body ih =>
    obtain ⟨m, hm, rfl⟩ := h
    exact (ih hm : body.Reaches r.place m.place)

/-- Without groups nothing new is remembered. -/
lemma Leads.groups_eq (h : e.Leads r s) (he : e.hasNoGroup = true) : s.groups = r.groups := by
  induction e generalizing r s with
  | empty => exact congrArg Run.groups h
  | char set =>
    obtain ⟨c, rest, -, -, rfl⟩ := Run.step?_eq_some h
    rfl
  | anchor a =>
    obtain rfl := Run.anchor?_eq_some h
    rfl
  | seq a b iha ihb =>
    simp only [hasNoGroup, Bool.and_eq_true] at he
    obtain ⟨m, ha, hb⟩ := h
    exact (ihb hb he.2).trans (iha ha he.1)
  | alt a b iha ihb =>
    simp only [hasNoGroup, Bool.and_eq_true] at he
    exact h.elim (iha · he.1) (ihb · he.2)
  | chars set least most greedy =>
    obtain ⟨w, ⟨-, hgroups, -⟩, -⟩ := Run.mem_chars_iff.mp h
    exact hgroups
  | option body greedy ih => exact h.elim (ih · he) (congrArg Run.groups)
  | rep body least most greedy ih => exact h.elim
  | group index body ih => simp [hasNoGroup] at he

/-- A sequence of sequences leads through a run in between. -/
lemma leads_seqs_append :
    (seqs (es ++ fs)).Leads r s ↔ ∃ m, (seqs es).Leads r m ∧ (seqs fs).Leads m s :=
  seqs_append_iff (fun _ _ => Iff.rfl) fun _ _ _ _ => Iff.rfl

/-- **A group in a sequence** remembers the piece that its pattern leads over, and what comes before
it in the sequence remembers nothing. -/
lemma leads_seqs_group {index : Nat} {body : Expr} (hes : (seqs es).hasNoGroup = true)
    (hbody : body.hasNoGroup = true) (h : (seqs (es ++ ([.group index body] ++ fs))).Leads r s) :
    ∃ p q, (seqs es).Reaches r.place p ∧ body.Reaches p q ∧
      (seqs fs).Leads
        { place := q, groups := (index, { start := p, stop := q }) :: r.groups } s := by
  obtain ⟨before, hbefore, h⟩ := leads_seqs_append.mp h
  obtain ⟨_, ⟨inside, hinside, rfl⟩, hafter⟩ := leads_seqs_append.mp h
  refine ⟨before.place, inside.place, hbefore.reaches, hinside.reaches, ?_⟩
  have hgroups : inside.groups = r.groups :=
    (hinside.groups_eq hbody).trans (hbefore.groups_eq hes)
  rw [← hgroups]
  exact hafter

end Expr

end Gloss
