import Gloss.Entries
import Mathlib.Data.List.Basic
import Mathlib.Data.List.Nodup

/-!
# Setting entries

Setting the entry of a key changes what the key leads to and nothing else, keeps the entries that
are there, and makes no key twice.

## Main results

* `lookup_setEntry`: what a key leads to after an entry has been set.
* `nodup_keys_setEntry`: keys that differ stay different.
-/

set_option relaxedAutoImplicit false
set_option autoImplicit false

namespace Gloss

variable {κ ν : Type} [DecidableEq κ] {key k : κ} {v : ν} {entries : List (κ × ν)}

/-- **What a key leads to after an entry has been set.**

**Proof sketch.** Induction on the entries. The first entry of the key is the one that is set, and
entries of other keys are passed over. -/
lemma lookup_setEntry [BEq κ] [LawfulBEq κ] :
    (setEntry key v entries).lookup k = if k = key then some v else entries.lookup k := by
  induction entries with
  | nil =>
    by_cases hk : k = key
    · simp [setEntry, hk]
    · simp [setEntry, hk]
  | cons first entries ih =>
    obtain ⟨n, old⟩ := first
    by_cases hn : n = key
    · subst hn
      by_cases hk : k = n
      · simp [setEntry, hk]
      · have hne : (k == n) = false := beq_eq_false_iff_ne.mpr hk
        simp [setEntry, hk, hne, List.lookup_cons]
    · rw [setEntry, if_neg hn, List.lookup_cons, List.lookup_cons, ih]
      by_cases hk : k = n
      · subst hk
        simp [hn]
      · have hne : (k == n) = false := beq_eq_false_iff_ne.mpr hk
        simp [hne]

/-- An entry that is there after one has been set is the new one or an old one. -/
lemma mem_setEntry {e : κ × ν} (h : e ∈ setEntry key v entries) : e = (key, v) ∨ e ∈ entries := by
  induction entries with
  | nil => exact .inl (by simpa [setEntry] using h)
  | cons first entries ih =>
    obtain ⟨n, old⟩ := first
    rw [setEntry] at h
    split_ifs at h with hn
    · subst hn
      exact (List.mem_cons.mp h).imp_right (List.mem_cons_of_mem _)
    · rcases List.mem_cons.mp h with rfl | h
      · exact .inr List.mem_cons_self
      · exact (ih h).imp_right (List.mem_cons_of_mem _)

/-- A key that was there is still there. -/
lemma any_setEntry (p : κ → Bool) (h : (entries.any fun e => p e.1) = true) :
    ((setEntry key v entries).any fun e => p e.1) = true := by
  induction entries with
  | nil => simp at h
  | cons first entries ih =>
    obtain ⟨n, old⟩ := first
    rw [setEntry]
    split_ifs
    · exact h
    · rw [List.any_cons, Bool.or_eq_true] at h ⊢
      exact h.imp_right ih

/-- **Keys that differ stay different.**

**Proof sketch.** Induction on the entries. The keys stay the same, or the new key comes to the end
if it is none of them. -/
lemma nodup_keys_setEntry (h : (entries.map Prod.fst).Nodup) :
    ((setEntry key v entries).map Prod.fst).Nodup := by
  induction entries with
  | nil => simp [setEntry]
  | cons first entries ih =>
    obtain ⟨n, old⟩ := first
    rw [List.map_cons, List.nodup_cons] at h
    rw [setEntry]
    split_ifs with hn
    · exact List.nodup_cons.mpr h
    · refine List.nodup_cons.mpr ⟨fun hmem => ?_, ih h.2⟩
      obtain ⟨e, he, hfst⟩ := List.mem_map.mp hmem
      rcases mem_setEntry he with rfl | he
      · exact hn hfst.symm
      · exact h.1 (List.mem_map.mpr ⟨e, he, hfst⟩)

end Gloss
