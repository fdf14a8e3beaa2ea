import Gloss.Toml.Reader
import Mathlib.Data.List.Nodup

/-!
# Keys of documents differ

Every table of a document that has been read has different keys, however deep it is: nothing is
added to a table under a key that it has, unless what is there can be added to.

## Main definitions

* `Value.Proper`: all tables of a value have different keys.
* `Toml.Entries.Proper`: the same of a table while it is read.

## Main results

* `Toml.descend_proper`: a change somewhere in a table that is being read keeps its keys different.
* `Toml.readsProper`: values are proper.
* `Toml.read?_proper`: documents are proper.
-/

set_option relaxedAutoImplicit false
set_option autoImplicit false

namespace Gloss

/-- The keys of every table in the value differ. -/
inductive Value.Proper : Value → Prop where
  | text (t : Text) : Proper (.text t)
  | integer (n : Int) : Proper (.integer n)
  | real (written : Text) : Proper (.real written)
  | boolean (b : Bool) : Proper (.boolean b)
  | list {items : List Value} (each : ∀ v ∈ items, Proper v) : Proper (.list items)
  | table {entries : List (Text × Value)} (keys : (entries.map Prod.fst).Nodup)
    (each : ∀ e ∈ entries, Proper e.2) : Proper (.table entries)

namespace Toml

/-- The keys of every table in the entry differ. -/
inductive Entry.Proper : Entry → Prop where
  | value {v : Value} (h : v.Proper) : Proper (.value v)
  | table {kind : TableKind} {entries : Entries} (keys : (entries.map Prod.fst).Nodup)
    (each : ∀ e ∈ entries, Proper e.2) : Proper (.table kind entries)
  | tables {items : List Entries} (keys : ∀ entries ∈ items, (entries.map Prod.fst).Nodup)
    (each : ∀ entries ∈ items, ∀ e ∈ entries, Proper e.2) : Proper (.tables items)

/-- The keys of a table that is being read differ, and so do those of every table in it. -/
structure Entries.Proper (entries : Entries) : Prop where
  /-- The keys differ. -/
  keys : (entries.map Prod.fst).Nodup
  /-- The keys of every table in it differ. -/
  each : ∀ e ∈ entries, e.2.Proper

/-- No entries are proper. -/
lemma Entries.proper_nil : Entries.Proper [] :=
  ⟨List.nodup_nil, by simp⟩

namespace Entry

/-- A table is proper iff its entries are. -/
lemma proper_table_iff {kind : TableKind} {entries : Entries} :
    (Entry.table kind entries).Proper ↔ Entries.Proper entries := by
  constructor
  · rintro (_ | ⟨keys, each⟩)
    exact ⟨keys, each⟩
  · exact fun h => .table h.keys h.each

/-- Tables in a row are proper iff the entries of each are. -/
lemma proper_tables_iff {items : List Entries} :
    (Entry.tables items).Proper ↔ ∀ entries ∈ items, Entries.Proper entries := by
  constructor
  · rintro (_ | _ | ⟨keys, each⟩) entries hmem
    exact ⟨keys entries hmem, each entries hmem⟩
  · exact fun h => .tables (fun entries hmem => (h entries hmem).keys)
      fun entries hmem => (h entries hmem).each

/-- The entries of a table become values one by one. -/
lemma entriesToValues_eq_map (entries : Entries) :
    entriesToValues entries = entries.map fun e => (e.1, e.2.toValue) := by
  induction entries with
  | nil => rfl
  | cons e entries ih => rw [entriesToValues, ih, List.map_cons]

/-- Tables in a row become values one by one. -/
lemma itemsToValues_eq_map (items : List Entries) :
    itemsToValues items = items.map fun entries => .table (entriesToValues entries) := by
  induction items with
  | nil => rfl
  | cons entries items ih => rw [itemsToValues, ih, List.map_cons]

/-- Entries whose keys differ become a table whose keys differ. -/
lemma proper_table_entriesToValues {entries : Entries} (keys : (entries.map Prod.fst).Nodup)
    (each : ∀ e ∈ entries, e.2.toValue.Proper) :
    (Value.table (entriesToValues entries)).Proper := by
  rw [entriesToValues_eq_map]
  refine .table (by simpa [Function.comp_def] using keys) ?_
  exact List.forall_mem_map.mpr each

/-- A proper entry becomes a proper value. -/
lemma Proper.toValue {e : Entry} (h : e.Proper) : e.toValue.Proper := by
  induction h with
  | value h => simpa [Entry.toValue] using h
  | table keys each ih =>
    rw [Entry.toValue]
    exact proper_table_entriesToValues keys ih
  | tables keys each ih =>
    rw [Entry.toValue, itemsToValues_eq_map]
    refine .list (List.forall_mem_map.mpr fun entries he => ?_)
    exact proper_table_entriesToValues (keys entries he) (ih entries he)

end Entry

/-- Proper entries become a proper table. -/
lemma Entries.Proper.toValue {entries : Entries} (h : entries.Proper) :
    (Value.table (Entry.entriesToValues entries)).Proper :=
  Entry.proper_table_entriesToValues h.keys fun e he => (h.each e he).toValue

/-! ## Changes of a table -/

section Changes

variable {key : Text} {f : Option Entry → Option Entry} {entries next : Entries}

/-- A change adds no key but its own. -/
lemma mem_keys_of_change (h : change key f entries = some next) {k : Text}
    (hk : k ∈ next.map Prod.fst) : k = key ∨ k ∈ entries.map Prod.fst := by
  induction entries generalizing next with
  | nil =>
    obtain ⟨e, -, rfl⟩ := Option.map_eq_some_iff.mp h
    exact .inl (by simpa using hk)
  | cons first entries ih =>
    obtain ⟨k', old⟩ := first
    rw [change] at h
    split_ifs at h with hkey
    · obtain ⟨e, -, rfl⟩ := Option.map_eq_some_iff.mp h
      exact .inr hk
    · obtain ⟨rest, hrest, rfl⟩ := Option.map_eq_some_iff.mp h
      rcases List.mem_cons.mp hk with rfl | hk
      · exact .inr List.mem_cons_self
      · exact (ih hrest hk).imp_right (List.mem_cons_of_mem k')

/-- A change that gives proper entries keeps a table proper. -/
lemma change_proper (hf : ∀ old e, (∀ o ∈ old, Entry.Proper o) → f old = some e → e.Proper)
    (hproper : entries.Proper) (h : change key f entries = some next) : next.Proper := by
  induction entries generalizing next with
  | nil =>
    obtain ⟨e, he, rfl⟩ := Option.map_eq_some_iff.mp h
    exact ⟨by simp, by simpa using hf none e (by simp) he⟩
  | cons first entries ih =>
    obtain ⟨k, old⟩ := first
    obtain ⟨keys, each⟩ := hproper
    rw [List.map_cons, List.nodup_cons] at keys
    rw [List.forall_mem_cons] at each
    rw [change] at h
    split_ifs at h with hkey
    · obtain ⟨e, he, rfl⟩ := Option.map_eq_some_iff.mp h
      have hnew : e.Proper := hf (some old) e (by simpa using each.1) he
      exact ⟨List.nodup_cons.mpr keys, List.forall_mem_cons.mpr ⟨hnew, each.2⟩⟩
    · obtain ⟨rest, hrest, rfl⟩ := Option.map_eq_some_iff.mp h
      have hproper := ih ⟨keys.2, each.2⟩ hrest
      refine ⟨List.nodup_cons.mpr ⟨fun hmem => ?_, hproper.keys⟩,
        List.forall_mem_cons.mpr ⟨each.1, hproper.each⟩⟩
      exact (mem_keys_of_change hrest hmem).elim hkey keys.1

/-- **A change of the table at a path keeps the keys different** if it does so in that table.

**Proof sketch.** Induction on the path. The entry of its first key is a table, new or not, or a
list of tables, whose last one is changed. -/
lemma descend_proper {dotted : Bool} {f : Entries → Option Entries}
    (hf : ∀ {old new : Entries}, old.Proper → f old = some new → new.Proper) {path : List Text}
    (hproper : entries.Proper) (h : descend dotted f path entries = some next) : next.Proper := by
  induction path generalizing entries next with
  | nil => exact hf hproper h
  | cons key path ih =>
    rw [descend] at h
    refine change_proper ?_ hproper h
    intro old e hold he
    split at he
    · obtain ⟨inner, hinner, rfl⟩ := Option.map_eq_some_iff.mp he
      exact Entry.proper_table_iff.mpr (ih Entries.proper_nil hinner)
    · simp at he
    · next items =>
      have hitems := Entry.proper_tables_iff.mp (hold _ rfl)
      split_ifs at he
      split at he
      · simp at he
      · next last hlast =>
        obtain ⟨inner, hinner, rfl⟩ := Option.map_eq_some_iff.mp he
        have hinner := ih (hitems last (List.mem_of_getLast? hlast)) hinner
        refine Entry.proper_tables_iff.mpr fun entries hmem => ?_
        rcases List.mem_append.mp hmem with hmem | hmem
        · exact hitems entries ((List.dropLast_sublist items).subset hmem)
        · rw [List.mem_singleton.mp hmem]
          exact hinner
    · next kind inner =>
      split_ifs at he
      obtain ⟨inner', hinner, rfl⟩ := Option.map_eq_some_iff.mp he
      exact Entry.proper_table_iff.mpr (ih (Entry.proper_table_iff.mp (hold _ rfl)) hinner)

/-- A value under a dotted key keeps the keys different. -/
lemma addDotted_proper {path : List Text} {v : Value} (hv : v.Proper) (hproper : entries.Proper)
    (h : addDotted path key v entries = some next) : next.Proper := by
  refine descend_proper (fun hold hnew => change_proper ?_ hold hnew) hproper h
  intro old e _ he
  split_ifs at he
  cases he
  exact .value hv

/-- The header of a table keeps the keys different. -/
lemma openTable_proper {path : List Text} (hproper : entries.Proper)
    (h : openTable path key entries = some next) : next.Proper := by
  refine descend_proper (fun hold hnew => change_proper ?_ hold hnew) hproper h
  intro old e hold he
  split at he
  · cases he
    exact Entry.proper_table_iff.mpr Entries.proper_nil
  · cases he
    exact Entry.proper_table_iff.mpr (Entry.proper_table_iff.mp (hold _ rfl))
  · simp at he

/-- The header of an array of tables keeps the keys different. -/
lemma openItem_proper {path : List Text} (hproper : entries.Proper)
    (h : openItem path key entries = some next) : next.Proper := by
  refine descend_proper (fun hold hnew => change_proper ?_ hold hnew) hproper h
  intro old e hold he
  split at he
  · cases he
    exact Entry.proper_tables_iff.mpr (by simpa using Entries.proper_nil)
  · cases he
    refine Entry.proper_tables_iff.mpr fun entries hmem => ?_
    rcases List.mem_append.mp hmem with hmem | hmem
    · exact Entry.proper_tables_iff.mp (hold _ rfl) entries hmem
    · rw [List.mem_singleton.mp hmem]
      exact Entries.proper_nil
  · simp at he

end Changes

/-! ## Values -/

/-- An integer is proper. -/
lemma int64?_proper {n : Int} {v : Value} (h : int64? n = some v) : v.Proper := by
  rw [int64?] at h
  split_ifs at h
  cases h
  exact .integer n

/-- A written integer is proper. -/
lemma integer?_proper {t : Text} {v : Value} (h : integer? t = some v) : v.Proper := by
  unfold integer? at h
  split at h
  all_goals
    obtain ⟨ds, -, hds⟩ := Option.bind_eq_some_iff.mp h
    exact int64?_proper hds

/-- The value of a word is proper. -/
lemma valueOfWord?_proper {word : Text} {v : Value} (h : valueOfWord? word = some v) :
    v.Proper := by
  unfold valueOfWord? at h
  split_ifs at h
  · cases h
    exact .boolean true
  · cases h
    exact .boolean false
  · cases h
    exact .real word
  · split at h
    · cases h
      exact .table (by simp) (by simpa using .text _)
    · exact integer?_proper h

/-- What the three readers give with one bound: proper values, items and entries. -/
structure ReadsProper (bound : Nat) : Prop where
  value : ∀ {depth : Nat} {t rest : Text} {v : Value},
    readValue bound depth t = some (v, rest) → v.Proper
  items : ∀ {depth : Nat} {t rest : Text} {items : List Value},
    readItems bound depth t = some (items, rest) → ∀ v ∈ items, v.Proper
  entries : ∀ {depth : Nat} {t rest : Text} {entries next : Entries},
    entries.Proper → readInline bound depth entries t = some (next, rest) → next.Proper

/-- What the readers give is proper with one more level of recursion.

**Proof sketch.** By the kind of value. The parts of a list or a table are read with one level less,
and an entry is added only if its key is new. -/
lemma readsProper_step {bound : Nat} (ih : ReadsProper bound) : ReadsProper (bound + 1) where
  value := by
    intro depth t rest v h
    unfold readValue at h
    split at h
    · split_ifs at h
      obtain ⟨p, hitems, hp⟩ := Option.map_eq_some_iff.mp h
      cases hp
      exact .list (ih.items hitems)
    · split_ifs at h
      split at h
      · cases h
        exact .table List.nodup_nil (by simp)
      · obtain ⟨p, hentries, hp⟩ := Option.map_eq_some_iff.mp h
        cases hp
        exact (ih.entries Entries.proper_nil hentries).toValue
    · split at h
      · cases h
        exact .text _
      · split_ifs at h
        obtain ⟨w, hw, hp⟩ := Option.map_eq_some_iff.mp h
        cases hp
        exact valueOfWord?_proper hw
  items := by
    intro depth t rest items h
    rw [readItems] at h
    split at h
    · cases h
      simp
    · split at h
      · simp at h
      · next v after hv =>
        split at h
        · cases h
          simpa using ih.value hv
        · obtain ⟨p, hitems, hp⟩ := Option.map_eq_some_iff.mp h
          cases hp
          exact List.forall_mem_cons.mpr ⟨ih.value hv, ih.items hitems⟩
        · simp at h
  entries := by
    intro depth t rest entries next hproper h
    rw [readInline] at h
    split at h
    · split at h
      · simp at h
      · next v after hv =>
        split at h
        · simp at h
        · next added hadd =>
          have hadded := addDotted_proper (ih.value hv) hproper hadd
          split at h
          · cases h
            exact hadded
          · exact ih.entries hadded h
          · simp at h
    · simp at h

/-- **The tables of a value that is read have different keys.** -/
lemma readsProper (bound : Nat) : ReadsProper bound := by
  induction bound with
  | zero =>
    exact ⟨fun h => by simp [readValue] at h, fun h => by simp [readItems] at h,
      fun _ h => by simp [readInline] at h⟩
  | succ bound ih => exact readsProper_step ih

/-! ## Documents -/

/-- A header keeps the keys different. -/
lemma readHeader_proper {doc next : Document} {t rest : Text} (hproper : doc.entries.Proper)
    (h : readHeader doc t = some (next, rest)) : next.entries.Proper := by
  unfold readHeader at h
  split at h
  · split at h
    · obtain ⟨entries, hentries, hp⟩ := Option.map_eq_some_iff.mp h
      cases hp
      exact openItem_proper hproper hentries
    · simp at h
  · split at h
    · obtain ⟨entries, hentries, hp⟩ := Option.map_eq_some_iff.mp h
      cases hp
      exact openTable_proper hproper hentries
    · simp at h

/-- A key with its value keeps the keys different. -/
lemma readKeyValue_proper {doc next : Document} {t rest : Text} (hproper : doc.entries.Proper)
    (h : readKeyValue doc t = some (next, rest)) : next.entries.Proper := by
  unfold readKeyValue at h
  split at h
  · obtain ⟨⟨v, after⟩, hv, hmap⟩ := Option.bind_eq_some_iff.mp h
    obtain ⟨entries, hentries, hp⟩ := Option.map_eq_some_iff.mp hmap
    cases hp
    have hv := (readsProper _).value hv
    exact descend_proper (fun hold hnew => addDotted_proper hv hold hnew) hproper hentries
  · simp at h

/-- Reading lines leaves a proper document proper. -/
lemma readLines_proper {bound : Nat} {doc next : Document} {t : Text} (hproper : doc.entries.Proper)
    (h : readLines bound doc t = some next) : next.entries.Proper := by
  induction bound generalizing doc t with
  | zero =>
    rw [readLines] at h
    split_ifs at h
    cases h
    exact hproper
  | succ bound ih =>
    rw [readLines] at h
    split at h
    · cases h
      exact hproper
    · split at h
      · simp only at h
        split at h
        · simp at h
        · next hline =>
          split at h
          · simp at h
          · exact ih (readHeader_proper hproper hline) h
      · simp only at h
        split at h
        · simp at h
        · next hline =>
          split at h
          · simp at h
          · exact ih (readKeyValue_proper hproper hline) h

/-- **A document is a table, and all its tables have different keys.** -/
theorem read?_proper {t : Text} {document : Value} (h : read? t = some document) :
    document.Proper ∧ ∃ entries, document = .table entries := by
  obtain ⟨doc, hdoc, rfl⟩ := Option.map_eq_some_iff.mp h
  exact ⟨(readLines_proper Entries.proper_nil hdoc).toValue, _, rfl⟩

end Toml

end Gloss
