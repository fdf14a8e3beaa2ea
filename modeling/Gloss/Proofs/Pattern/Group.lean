import Gloss.Proofs.Pattern.Place

/-!
# Characters that groups cannot hold

What a group of a pattern matches consists of characters that the pattern inside it admits. Whether
a character is among them can be read off the pattern, at least where it repeats nothing but
characters.

## Main definitions

* `Expr.avoids`: nothing that the pattern goes over is a given character.
* `Expr.groupAvoids`: nothing that a group matches holds a given character.

## Main results

* `Expr.matchAt?_group_avoids`: a group of a match does not hold a character that it avoids.
-/

set_option relaxedAutoImplicit false
set_option autoImplicit false

namespace Gloss

open Text

namespace Expr

/-- The pattern never goes over the character `c`. A repetition of anything but characters is not
looked into. -/
def avoids (c : Char) : Expr → Bool
  | .empty => true
  | .char set => !set.mem c
  | .anchor _ => true
  | .seq a b => a.avoids c && b.avoids c
  | .alt a b => a.avoids c && b.avoids c
  | .chars set _ _ _ => !set.mem c
  | .option body _ => body.avoids c
  | .rep _ _ _ _ => false
  | .group _ body => body.avoids c

/-- The group with a number never goes over the character `c`. -/
def groupAvoids (c : Char) (index : Nat) : Expr → Bool
  | .empty => true
  | .char _ => true
  | .anchor _ => true
  | .seq a b => a.groupAvoids c index && b.groupAvoids c index
  | .alt a b => a.groupAvoids c index && b.groupAvoids c index
  | .chars _ _ _ _ => true
  | .option body _ => body.groupAvoids c index
  | .rep _ _ _ _ => false
  | .group i body => (i != index || body.avoids c) && body.groupAvoids c index

end Expr

variable {c : Char} {r s : Run}

namespace Expr

/-- A run of a pattern goes over no character that the pattern avoids.

**Proof sketch.** Induction on the pattern. Only single characters and repetitions of them go over
characters, and these are of their classes. -/
lemma ends_avoids {e : Expr} (he : e.avoids c = true) (hs : s ∈ e.ends r) :
    ∃ w, r.place.Reads w s.place ∧ c ∉ w := by
  induction e generalizing r s with
  | empty =>
    obtain rfl := List.mem_singleton.mp hs
    exact ⟨[], Cursor.Reads.refl _, by simp⟩
  | char set =>
    obtain ⟨d, rest, hrest, hd, rfl⟩ := Run.step?_eq_some (Option.mem_toList.mp hs)
    refine ⟨[d], Cursor.Reads.step hrest, fun hc => ?_⟩
    obtain rfl := List.mem_singleton.mp hc
    simp [avoids, hd] at he
  | anchor a =>
    obtain rfl := Run.anchor?_eq_some (Option.mem_toList.mp hs)
    exact ⟨[], Cursor.Reads.refl _, by simp⟩
  | seq a b iha ihb =>
    simp only [avoids, Bool.and_eq_true] at he
    obtain ⟨m, hm, hs⟩ := List.mem_flatMap.mp (Run.mem_of_mem_distinct hs)
    obtain ⟨v, hv, hcv⟩ := iha he.1 hm
    obtain ⟨w, hw, hcw⟩ := ihb he.2 hs
    exact ⟨v ++ w, hv.trans hw, by simp [hcv, hcw]⟩
  | alt a b iha ihb =>
    simp only [avoids, Bool.and_eq_true] at he
    rcases List.mem_append.mp hs with hs | hs
    · exact iha he.1 hs
    · exact ihb he.2 hs
  | chars set least most greedy =>
    obtain ⟨w, ⟨hw, -, hall⟩, -⟩ := Run.mem_chars_iff.mp hs
    refine ⟨w, hw, fun hc => ?_⟩
    simp [avoids, hall c hc] at he
  | option body greedy ih =>
    have hs : s ∈ body.ends r ∨ s = r := by
      cases greedy <;> simpa [ends, or_comm] using hs
    rcases hs with hs | rfl
    · exact ih he hs
    · exact ⟨[], Cursor.Reads.refl _, by simp⟩
  | rep body least most greedy ih => simp [avoids] at he
  | group index body ih =>
    obtain ⟨m, hm, rfl⟩ := List.mem_map.mp hs
    obtain ⟨w, hw, hc⟩ := ih he hm
    exact ⟨w, hw, hc⟩

/-- **Groups hold no character that they avoid**, if those seen before do not.

**Proof sketch.** Induction on the pattern. A group is added when its pattern has been gone over,
and its text is what was gone over. -/
lemma ends_groupAvoids {e : Expr} {index : Nat} (he : e.groupAvoids c index = true)
    (hr : ∀ g ∈ r.groups, g.1 = index → c ∉ g.2.text) (hs : s ∈ e.ends r) :
    ∀ g ∈ s.groups, g.1 = index → c ∉ g.2.text := by
  induction e generalizing r s with
  | empty =>
    obtain rfl := List.mem_singleton.mp hs
    exact hr
  | char set =>
    obtain ⟨d, rest, -, -, rfl⟩ := Run.step?_eq_some (Option.mem_toList.mp hs)
    exact hr
  | anchor a =>
    obtain rfl := Run.anchor?_eq_some (Option.mem_toList.mp hs)
    exact hr
  | seq a b iha ihb =>
    simp only [groupAvoids, Bool.and_eq_true] at he
    obtain ⟨m, hm, hs⟩ := List.mem_flatMap.mp (Run.mem_of_mem_distinct hs)
    exact ihb he.2 (iha he.1 hr hm) hs
  | alt a b iha ihb =>
    simp only [groupAvoids, Bool.and_eq_true] at he
    rcases List.mem_append.mp hs with hs | hs
    · exact iha he.1 hr hs
    · exact ihb he.2 hr hs
  | chars set least most greedy =>
    obtain ⟨w, ⟨-, hgroups, -⟩, -⟩ := Run.mem_chars_iff.mp hs
    rw [hgroups]
    exact hr
  | option body greedy ih =>
    have hs : s ∈ body.ends r ∨ s = r := by
      cases greedy <;> simpa [ends, or_comm] using hs
    rcases hs with hs | rfl
    · exact ih he hr hs
    · exact hr
  | rep body least most greedy ih => simp [groupAvoids] at he
  | group i body ih =>
    simp only [groupAvoids, Bool.and_eq_true, Bool.or_eq_true, bne_iff_ne] at he
    obtain ⟨m, hm, rfl⟩ := List.mem_map.mp hs
    intro g hg hindex
    rcases List.mem_cons.mp hg with rfl | hg
    · have hbody : body.avoids c = true := he.1.resolve_left fun hne => hne hindex
      obtain ⟨w, hw, hc⟩ := ends_avoids hbody hm
      rw [Piece.text, hw.textTo]
      exact hc
    · exact ih he.2 hr hm g hg hindex

/-- A group of a match does not hold a character that it avoids. -/
lemma matchAt?_group_avoids {e : Expr} {index : Nat} (he : e.groupAvoids c index = true)
    {place : Cursor} {m : Match} (hm : e.matchAt? place = some m) {piece : Piece}
    (hpiece : m.group? index = some piece) : c ∉ piece.text := by
  simp only [matchAt?] at hm
  split at hm
  · obtain ⟨s, hs, rfl⟩ := Option.map_eq_some_iff.mp hm
    obtain ⟨before, after, heq, -⟩ := List.lookup_eq_some_iff.mp hpiece
    have hmem : (index, piece) ∈ s.groups := by
      change s.groups = before ++ (index, piece) :: after at heq
      rw [heq]
      exact List.mem_append_right _ List.mem_cons_self
    exact ends_groupAvoids he (by simp) (List.mem_of_mem_head? hs) _ hmem rfl
  · simp at hm

end Expr

end Gloss
