import Gloss.Proofs.Entries
import Gloss.Proofs.Toml.Distinct

/-!
# Documents on top of documents

What a table holds after another one has been put on top of it, said by the keys: a key of the new
table leads to its value, merged with the old one, and any other key to what it led to before.
Nothing is ever taken away from a table. A value that is no table takes the place of the old one.

## Main definitions

* `Value.textEntries`: the entries of a table of texts.

## Main results

* `Value.lookup_mergeEntries_of_eq_none`, `Value.lookup_mergeEntries_of_eq_some`: what a key leads
  to.
* `Value.isSome_lookup_mergeEntries`: no key is lost.
* `Value.exists_mergeEntries_textEntries`: tables of texts.
* `Value.Proper.merge`: the keys still differ.
-/

set_option relaxedAutoImplicit false
set_option autoImplicit false

namespace Gloss

namespace Value

/-! ## Tables -/

section

variable {k : Text} {old new : List (Text × Value)}

/-- Layering nothing over entries leaves them. -/
lemma mergeEntries_nil : mergeEntries old [] = old := by rw [mergeEntries]

/-- A new entry on top of what its key led to. -/
def onTop (old : List (Text × Value)) (e : Text × Value) : Value :=
  (old.lookup e.1).elim e.2 (merge · e.2)

/-- Entries are layered over others one by one. -/
lemma mergeEntries_cons (e : Text × Value) :
    mergeEntries old (e :: new) = mergeEntries (setEntry e.1 (onTop old e) old) new := by
  obtain ⟨key, v⟩ := e
  rw [mergeEntries, onTop]
  cases old.lookup key <;> rfl

/-- A key that is not new leads where it led before. -/
lemma lookup_mergeEntries_of_eq_none (h : new.lookup k = none) :
    (mergeEntries old new).lookup k = old.lookup k := by
  induction new generalizing old with
  | nil => rw [mergeEntries_nil]
  | cons e new ih =>
    obtain ⟨key, v⟩ := e
    rw [List.lookup_cons] at h
    split at h
    · simp at h
    · next hne =>
      rw [mergeEntries_cons, ih h, lookup_setEntry, if_neg (by simpa using hne)]

/-- A new key leads to its value on top of the old one. -/
lemma lookup_mergeEntries_of_eq_some (hkeys : (new.map Prod.fst).Nodup) {v : Value}
    (h : new.lookup k = some v) : (mergeEntries old new).lookup k = some (onTop old (k, v)) := by
  induction new generalizing old with
  | nil => simp at h
  | cons e new ih =>
    obtain ⟨key, w⟩ := e
    rw [List.map_cons, List.nodup_cons] at hkeys
    rw [List.lookup_cons] at h
    split at h
    · next heq =>
      obtain rfl : k = key := by simpa using heq
      obtain rfl : w = v := by simpa using h
      have hnone : new.lookup k = none := by
        rw [List.lookup_eq_none_iff]
        intro e he
        have hne : k ≠ e.1 := fun hk => hkeys.1 (List.mem_map.mpr ⟨e, he, hk.symm⟩)
        simpa using hne
      rw [mergeEntries_cons, lookup_mergeEntries_of_eq_none hnone, lookup_setEntry, if_pos rfl]
    · next hne =>
      have hne : k ≠ key := by simpa using hne
      rw [mergeEntries_cons, ih hkeys.2 h]
      simp only [onTop, lookup_setEntry, if_neg hne]

/-- No key is lost. -/
lemma isSome_lookup_mergeEntries (hkeys : (new.map Prod.fst).Nodup)
    (h : (old.lookup k).isSome = true) : ((mergeEntries old new).lookup k).isSome = true := by
  cases hnew : new.lookup k with
  | none => rwa [lookup_mergeEntries_of_eq_none hnew]
  | some v => rw [lookup_mergeEntries_of_eq_some hkeys hnew, Option.isSome_some]

/-- The value is no table. -/
def isPlain : Value → Bool
  | .table _ => false
  | _ => true

/-- A value that is no table takes the place of the old one. -/
lemma merge_of_isPlain {v : Value} (h : v.isPlain = true) (old : Value) : merge old v = v := by
  cases v with
  | table entries => exact absurd h (by simp [isPlain])
  | _ => rw [merge]; simp

/-- Tables are merged by their entries. -/
lemma merge_table (old new : List (Text × Value)) :
    merge (.table old) (.table new) = .table (mergeEntries old new) := by
  rw [merge]

/-- A value that is no table is found as it was put there. -/
lemma lookup_mergeEntries_of_isPlain (hkeys : (new.map Prod.fst).Nodup) {v : Value}
    (h : new.lookup k = some v) (hv : v.isPlain = true) :
    (mergeEntries old new).lookup k = some v := by
  rw [lookup_mergeEntries_of_eq_some hkeys h, onTop]
  cases old.lookup k with
  | none => rfl
  | some o => rw [Option.elim_some, merge_of_isPlain hv]

end

/-! ## Tables of texts -/

/-- The entries of a table of texts. -/
def textEntries (texts : List (Text × Text)) : List (Text × Value) :=
  texts.map fun e => (e.1, .text e.2)

/-- A text is looked up by its key. -/
lemma lookup_textEntries (texts : List (Text × Text)) (k : Text) :
    (textEntries texts).lookup k = (texts.lookup k).map .text := by
  induction texts with
  | nil => rfl
  | cons e texts ih =>
    rw [textEntries] at ih ⊢
    rw [List.map_cons, List.lookup_cons, List.lookup_cons, ih]
    split <;> rfl

/-- The keys of texts stay what they are. -/
lemma map_fst_textEntries (texts : List (Text × Text)) :
    (textEntries texts).map Prod.fst = texts.map Prod.fst := by
  simp [textEntries, Function.comp_def]

/-- What is read as a text is that text. -/
lemma eq_text_of_text? {v : Value} {t : Text} (h : text? v = some t) : v = .text t := by
  cases v with
  | text s => simpa [text?] using h
  | _ => simp [text?] at h

/-- The tables that are read as tables of texts. -/
lemma texts?_eq_some_iff {v : Value} {texts : List (Text × Text)} :
    texts? v = some texts ↔ v = .table (textEntries texts) := by
  constructor
  · intro h
    cases v with
    | table entries =>
      rw [texts?] at h
      congr 1
      induction entries generalizing texts with
      | nil =>
        cases h
        rfl
      | cons e entries ih =>
        rw [List.mapM_cons] at h
        obtain ⟨e', he, h⟩ := Option.bind_eq_some_iff.mp h
        obtain ⟨texts', htexts, h⟩ := Option.bind_eq_some_iff.mp h
        cases h
        obtain ⟨t, ht, rfl⟩ := Option.map_eq_some_iff.mp he
        rw [ih htexts, textEntries, textEntries, List.map_cons, ← eq_text_of_text? ht]
    | _ => simp [texts?] at h
  · rintro rfl
    rw [texts?]
    induction texts with
    | nil => rfl
    | cons e texts ih =>
      rw [textEntries] at ih ⊢
      rw [List.map_cons, List.mapM_cons, ih]
      rfl

/-- A table of texts comes back. -/
lemma texts?_textEntries (texts : List (Text × Text)) :
    texts? (.table (textEntries texts)) = some texts :=
  texts?_eq_some_iff.mpr rfl

/-- A table of texts stays one when a text is set. -/
lemma exists_setEntry_textEntries (key t : Text) (old : List (Text × Text)) :
    ∃ texts, setEntry key (.text t) (textEntries old) = textEntries texts := by
  induction old with
  | nil => exact ⟨[(key, t)], rfl⟩
  | cons e old ih =>
    obtain ⟨texts, htexts⟩ := ih
    rw [textEntries, List.map_cons, setEntry]
    split_ifs
    · exact ⟨(e.1, t) :: old, rfl⟩
    · exact ⟨e :: texts, by rw [← textEntries, htexts]; rfl⟩

/-- Texts on top of texts are a table of texts, in which the new texts count before the old. -/
lemma exists_mergeEntries_textEntries (old : List (Text × Text)) {new : List (Text × Text)}
    (hkeys : (new.map Prod.fst).Nodup) :
    ∃ texts, mergeEntries (textEntries old) (textEntries new) = textEntries texts ∧
      ∀ k, texts.lookup k = (new.lookup k).or (old.lookup k) := by
  have hexists : ∃ texts, mergeEntries (textEntries old) (textEntries new) = textEntries texts := by
    clear hkeys
    induction new generalizing old with
    | nil => exact ⟨old, mergeEntries_nil⟩
    | cons e new ih =>
      have htop : onTop (textEntries old) (e.1, .text e.2) = .text e.2 := by
        rw [onTop]
        cases (textEntries old).lookup e.1 with
        | none => rfl
        | some o => exact merge_of_isPlain rfl o
      obtain ⟨texts, htexts⟩ := exists_setEntry_textEntries e.1 e.2 old
      have hcons : textEntries (e :: new) = (e.1, .text e.2) :: textEntries new := rfl
      rw [hcons, mergeEntries_cons, htop, htexts]
      exact ih texts
  obtain ⟨texts, htexts⟩ := hexists
  refine ⟨texts, htexts, fun k => ?_⟩
  have hlookup : (texts.lookup k).map Value.text =
      ((new.lookup k).or (old.lookup k)).map .text := by
    rw [← lookup_textEntries, ← htexts]
    cases hnew : new.lookup k with
    | none =>
      rw [lookup_mergeEntries_of_eq_none (by rw [lookup_textEntries, hnew]; rfl),
        lookup_textEntries, Option.none_or]
    | some t =>
      rw [lookup_mergeEntries_of_isPlain (by rwa [map_fst_textEntries])
        (by rw [lookup_textEntries, hnew]; rfl) rfl]
      rfl
  exact Option.map_injective (fun _ _ h => Value.text.inj h) hlookup

/-! ## Keys -/

/-- What a key leads to is proper if all entries are. -/
lemma proper_of_lookup {entries : List (Text × Value)} (h : ∀ e ∈ entries, e.2.Proper) {k : Text}
    {v : Value} (hv : entries.lookup k = some v) : v.Proper := by
  obtain ⟨before, after, rfl, -⟩ := List.lookup_eq_some_iff.mp hv
  exact h (k, v) (by simp)

/-- The keys of a table differ if those of the old table do and each value can be merged. -/
lemma proper_mergeEntries {old new : List (Text × Value)} (hkeys : (old.map Prod.fst).Nodup)
    (hold : ∀ e ∈ old, e.2.Proper) (hnew : ∀ e ∈ new, e.2.Proper)
    (hmerge : ∀ e ∈ new, ∀ {o : Value}, o.Proper → (merge o e.2).Proper) :
    (Value.table (mergeEntries old new)).Proper := by
  induction new generalizing old with
  | nil =>
    rw [mergeEntries_nil]
    exact .table hkeys hold
  | cons e new ih =>
    rw [List.forall_mem_cons] at hnew hmerge
    have htop : (onTop old e).Proper := by
      rw [onTop]
      cases hlookup : old.lookup e.1 with
      | none => exact hnew.1
      | some o => exact hmerge.1 (proper_of_lookup hold hlookup)
    rw [mergeEntries_cons]
    refine ih (nodup_keys_setEntry hkeys) (fun e' he' => ?_) hnew.2 hmerge.2
    rcases mem_setEntry he' with rfl | he'
    · exact htop
    · exact hold e' he'

/-- **The keys of tables on top of each other still differ.**

**Proof sketch.** Induction on the value on top. Only two tables are merged, entry by entry;
anything else replaces what is below. -/
lemma Proper.merge {old new : Value} (hold : old.Proper) (hnew : new.Proper) :
    (Value.merge old new).Proper := by
  induction hnew generalizing old with
  | @table entries keys each ih =>
    cases hold with
    | table oldKeys oldEach =>
      rw [merge_table]
      exact proper_mergeEntries oldKeys oldEach each fun e he _ ho => ih e he ho
    | _ =>
      rw [Value.merge]
      · exact .table keys each
      · simp
  | _ =>
    rw [merge_of_isPlain rfl]
    constructor <;> assumption

end Value

end Gloss
