import Gloss.Proofs.File.Disk
import Gloss.Proofs.Settings.Codec
import Gloss.Proofs.Toml.Printed
import Gloss.Settings.Store

/-!
# Saving and loading settings

Settings that have been loaded, saved and loaded again are the same in everything but their type
tables. These are layered over the default tables key by key, so a default key that is missing in
them comes back. It can be missing only where the first document had the type tables in a list,
since a list takes the place of what it is layered over.

## Main definitions

* `Settings.Same`: settings are equal, their type tables as maps.
* `Settings.PrintsBack`: a printer whose text of settings is read as their document.
* `Settings.documentAt?`: the document that a named file holds.

## Main results

* `Settings.read?_render`: the text of writable settings is read as their document.
* `Settings.loadFrom_of_write`: a text that is written is what is loaded.
* `Settings.loadFrom_of_saveWith`: settings that are saved can be loaded, with complete type tables.
* `Settings.loadFrom_save_same_iff`: when loading, saving and loading gives the same settings.
-/

set_option relaxedAutoImplicit false
set_option autoImplicit false

namespace Gloss

open Toml Value

/-! ## The text of settings -/

/-- A record is read back if its fields are. -/
lemma Toml.readsBack_ofFields {height : Nat} {fields : List (String × Value)}
    (hkeys : (fields.map Prod.fst).Nodup) (h : ∀ f ∈ fields, ReadsBack height f.2) :
    ReadsBack (height + 1) (.ofFields fields) := by
  rw [ofFields_eq]
  exact readsBack_table (nodup_keys_fieldEntries hkeys) (List.forall_mem_map.mpr h)

/-- A list of texts is read back. -/
lemma Toml.readsBack_ofTexts (texts : List Text) : ReadsBack 1 (.ofTexts texts) :=
  readsBack_list (List.forall_mem_map.mpr fun t _ => readsBack_text t)

/-- A type table with different keys is read back. -/
lemma TypeTable.readsBack_toValue {table : TypeTable} (hkeys : (table.map Prod.fst).Nodup) :
    ReadsBack 1 table.toValue := by
  rw [toValue_eq]
  refine readsBack_table (by rwa [map_fst_textEntries]) ?_
  exact List.forall_mem_map.mpr fun e _ => readsBack_text e.2

/-- The settings of a scope are read back. -/
lemma ScopeSettings.readsBack_toValue (s : ScopeSettings) : ReadsBack 2 s.toValue := by
  refine readsBack_ofFields (by simp) ?_
  simp [(readsBack_text _).mono (Nat.zero_le 1), readsBack_ofTexts]

/-- The settings of a registration are read back. -/
lemma RegistrationSettings.readsBack_toValue (r : RegistrationSettings) :
    ReadsBack 1 r.toValue := by
  refine readsBack_ofFields (by simp) ?_
  simp [readsBack_text]

/-- Type tables with different keys are read back. -/
lemma TypeSettings.readsBack_toValue {types : TypeSettings} (h : types.KeysDiffer) :
    ReadsBack 2 types.toValue := by
  refine readsBack_ofFields (by simp) ?_
  simp [TypeTable.readsBack_toValue h.network, TypeTable.readsBack_toValue h.force,
    TypeTable.readsBack_toValue h.forceIndex]

/-- The settings of patterns are read back. -/
lemma PatternSettings.readsBack_toValue (s : PatternSettings) : ReadsBack 3 s.toValue := by
  have hregistration : ReadsBack 2 (.list (s.registration.map RegistrationSettings.toValue)) :=
    readsBack_list (List.forall_mem_map.mpr fun r _ => r.readsBack_toValue)
  refine readsBack_ofFields (by simp) ?_
  simp [(readsBack_text _).mono (Nat.zero_le 2), hregistration]

/-- The settings of fields are read back. -/
lemma FieldSettings.readsBack_toValue (s : FieldSettings) : ReadsBack 1 s.toValue := by
  refine readsBack_ofFields (by simp) ?_
  simp [readsBack_text]

namespace Settings

/-- **The text of writable settings is read as their document.**

**Proof sketch.** Every field of the settings is printed so that it is read back, at most three
levels deep, and the version is within the range of the numbers. -/
lemma read?_render {s : Settings} (h : s.Writable) : read? s.render = some s.toValue := by
  have hversion : isInt64 s.version = true := by
    have hlt : (s.version : Int) < (Nat.pow 2 63 : Int) :=
      Int.ofNat_lt.mpr (h.version_lt.trans (by decide))
    have hneg : -(Nat.pow 2 63 : Int) ≤ 0 := Int.neg_nonpos_of_nonneg (Int.natCast_nonneg _)
    rw [isInt64, Bool.and_eq_true, decide_eq_true_eq, decide_eq_true_eq]
    exact ⟨Int.le_trans hneg (Int.natCast_nonneg _), hlt⟩
  have hscopes : ReadsBack 3 (.list (s.scopes.map ScopeSettings.toValue)) :=
    readsBack_list (List.forall_mem_map.mpr fun scope _ => scope.readsBack_toValue)
  rw [render, toValue, ofFields_eq]
  refine Toml.read?_render (nodup_keys_fieldEntries (by simp)) (List.forall_mem_map.mpr ?_)
    (by decide : 3 < depthLimit)
  simp [(readsBack_nat hversion).mono (Nat.zero_le 3), (readsBack_boolean _).mono (Nat.zero_le 3),
    (readsBack_text _).mono (Nat.zero_le 3), hscopes,
    (TypeSettings.readsBack_toValue h.types).mono (by decide : 2 ≤ 3),
    s.patterns.readsBack_toValue, s.fields.readsBack_toValue.mono (by decide : 1 ≤ 3)]

/-! ## Files -/

/-- A file that a path leads to is the nearest. -/
lemma nearestFile?_of_isFile {disk : Disk} {cwd : List Text} {path : Text}
    (h : disk.isFile cwd path = true) : nearestFile? disk cwd path = disk.locate? cwd path := by
  have hancestors : ancestors cwd = cwd :: ((List.range cwd.length).reverse.map cwd.take) := by
    simp [ancestors, List.range_succ]
  rw [nearestFile?, hancestors, List.find?_cons, h]
  rfl

/-- **A text that is written is what is loaded.**

**Proof sketch.** The text is a file at the path, so it is found there and nowhere above, and it is
the only layer. -/
lemma loadFrom_of_write {disk written : Disk} {cwd : List Text} {path content : Text}
    (h : write disk cwd path content = .ok written) :
    loadFrom written cwd path =
      (read? content).elim (.error .unreadable) fun document => ofLayers [document] := by
  have hat : written.at? cwd path = some (.file (some content)) := by
    unfold write at h
    simp only at h
    split at h
    · simp at h
    · split at h
      · simp at h
      · next hwrite =>
        obtain rfl := Except.ok.inj h
        exact Disk.at?_of_writeFile hwrite
  have hfile : written.isFile cwd path = true := by rw [Disk.isFile, hat]
  have hentry : (nearestFile? written cwd path).bind written.atPlace? =
      some (.file (some content)) := by
    rw [nearestFile?_of_isFile hfile]
    exact hat
  rw [loadFrom, hat, if_pos Option.isSome_some, ofFile, hentry]
  simp only [documentOf?, Option.bind_some]
  cases read? content <;> rfl

/-- The printer gives settings that can be written a text which is read as their document. -/
def PrintsBack (print : Settings → Text) : Prop :=
  ∀ s : Settings, s.Writable → read? (print s) = some s.toValue

/-- The printer of this library is one of these. -/
lemma printsBack_render : PrintsBack render := fun _ h => read?_render h

/-- **Settings that are saved can be loaded**, with the defaults that their type tables lack,
whatever the printer is as long as its text is read back. -/
lemma loadFrom_of_saveWith {print : Settings → Text} (hprint : PrintsBack print) {s : Settings}
    (h : s.Writable) {disk written : Disk} {cwd : List Text} {path : Text}
    (hsave : s.saveWith print disk cwd path = .ok written) :
    ∃ types, loadFrom written cwd path = .ok { s with types := types } ∧
      types.Completes s.types default.types := by
  obtain ⟨types, htypes, hcompletes⟩ := ofLayers_toValue h
  refine ⟨types, ?_, hcompletes⟩
  rw [loadFrom_of_write hsave, hprint s h, Option.elim_some, htypes]

/-- The document that a named file holds; none if there is no file. -/
def documentAt? (disk : Disk) (cwd : List Text) (path : Text) : Option Value :=
  match (nearestFile? disk cwd path).bind disk.atPlace? with
  | some (.file content) => documentOf? content
  | _ => none

/-- Settings that are loaded come from the document of the file, on top of the defaults; without a
file, an empty document is on top. -/
lemma exists_of_loadFrom {disk : Disk} {cwd : List Text} {path : Text} {s : Settings}
    (h : loadFrom disk cwd path = .ok s) :
    ∃ entries, (documentAt? disk cwd path = some (.table entries) ∨ entries = []) ∧
      (Value.table entries).Proper ∧
      ofValue? (merge default.toValue (.table entries)) = some s := by
  have hlayers : ∀ {layers}, ofLayers layers = .ok s →
      ofValue? (layers.foldl merge default.toValue) = some s := by
    intro layers hlayers
    unfold ofLayers at hlayers
    split at hlayers
    · next hs => rw [hs, Except.ok.inj hlayers]
    · simp at hlayers
  rw [loadFrom] at h
  split_ifs at h
  unfold ofFile at h
  split at h
  · next content hentry =>
    split at h
    · next document hdocument =>
      obtain ⟨t, -, hread⟩ := Option.bind_eq_some_iff.mp hdocument
      obtain ⟨hproper, entries, rfl⟩ := read?_proper hread
      have hs := hlayers h
      rw [List.foldl_cons, List.foldl_nil] at hs
      refine ⟨entries, .inl ?_, hproper, hs⟩
      rw [documentAt?, hentry]
      exact hdocument
    · simp at h
  · have hempty : merge default.toValue (.table []) = default.toValue := by
      rw [toValue, ofFields_eq, merge_table, mergeEntries_nil]
    have hs := hlayers h
    rw [List.foldl_nil, ← hempty] at hs
    exact ⟨[], .inr rfl, .table (by simp) (by simp), hs⟩

/-- The default settings can be written. -/
lemma default_writable : default.Writable :=
  ⟨by decide, TypeSettings.keysDiffer_default⟩

/-- Settings that are loaded are writable. -/
lemma writable_of_loadFrom {disk : Disk} {cwd : List Text} {path : Text} {s : Settings}
    (h : loadFrom disk cwd path = .ok s) : s.Writable := by
  obtain ⟨entries, -, hproper, hs⟩ := exists_of_loadFrom h
  have hdefault : default.toValue.Proper := (read?_proper (read?_render default_writable)).1
  exact writable_of_ofValue? (hdefault.merge hproper) hs

/-- The document that a named file holds has the type tables in a list. -/
def ListsTypes (disk : Disk) (cwd : List Text) (path : Text) : Prop :=
  ∃ entries items, documentAt? disk cwd path = some (.table entries) ∧
    entries.lookup "types".toList = some (.list items)

/-- Settings that are loaded have the default keys, unless the type tables were in a list. -/
lemma covers_of_loadFrom {disk : Disk} {cwd : List Text} {path : Text} {s : Settings}
    (h : loadFrom disk cwd path = .ok s) (hlist : ¬ ListsTypes disk cwd path) :
    s.types.Each TypeTable.Covers default.types := by
  obtain ⟨entries, hdocument, hproper, hs⟩ := exists_of_loadFrom h
  refine covers_of_ofValue? hproper (fun items hitems => ?_) hs
  rcases hdocument with hdocument | rfl
  · exact hlist ⟨entries, items, hdocument, hitems⟩
  · simp at hitems

/-- Two settings are equal, their type tables as maps. -/
def Same (s t : Settings) : Prop :=
  { s with types := t.types } = t ∧ s.types.Each TypeTable.Same t.types

/-- **Loading, saving and loading gives the settings that were loaded first**, with the default keys
that their type tables lack. So the settings are the same iff the type tables have all default keys,
and they have them unless the first document has the type tables in a list. This holds for every
printer whose text is read back, such as the one of this library.

**Proof sketch.** Settings that are loaded come from a merge of documents, so their numbers are
small and the keys of their tables differ: they can be written. What is written is read as their
document, and layering it over the defaults replaces everything but the type tables, which are
merged key by key. A list in the first document replaces the default tables; everything else is
merged with them, so that no default key is lost. -/
theorem loadFrom_save_same_iff {disk : Disk} {cwd : List Text} {path : Text} {s : Settings}
    (hload : loadFrom disk cwd path = .ok s) :
    PrintsBack render ∧ ∀ (print : Settings → Text), PrintsBack print →
      ∀ (target saved : Disk) (cwd' : List Text) (path' : Text),
        s.saveWith print target cwd' path' = .ok saved →
        ∃ s', loadFrom saved cwd' path' = .ok s' ∧ { s with types := s'.types } = s' ∧
          s'.types.Completes s.types default.types ∧
          (s'.Same s ↔ s.types.Each TypeTable.Covers default.types) ∧
          (¬ ListsTypes disk cwd path → s'.Same s) := by
  refine ⟨printsBack_render, fun print hprint target saved cwd' path' hsave => ?_⟩
  obtain ⟨types, hreload, hcompletes⟩ :=
    loadFrom_of_saveWith hprint (writable_of_loadFrom hload) hsave
  have hsame : Same { s with types := types } s ↔ s.types.Each TypeTable.Covers default.types := by
    rw [Same, hcompletes.same_iff]
    exact and_iff_right rfl
  exact ⟨_, hreload, rfl, hcompletes, hsame, fun h => hsame.mpr (covers_of_loadFrom hload h)⟩

/-- A disk with one settings file. -/
def oneFile (content : String) : Disk :=
  [([fileName], .file (some content.toList))]

/-- Settings are saved to an empty disk. -/
lemma save_nil (s : Settings) : s.save [] [] fileName = .ok [([fileName], .file (some s.render))] :=
  rfl

/-- Settings are loaded from a file if what is loaded passes a check. -/
lemma exists_loadFrom_oneFile {content : String} {p : Settings → Bool}
    (h : (loadFrom (oneFile content) [] fileName).toOption.any p = true) :
    ∃ s, loadFrom (oneFile content) [] fileName = .ok s ∧ p s = true := by
  cases hload : loadFrom (oneFile content) [] fileName with
  | error fault => simp [hload, Except.toOption] at h
  | ok s => exact ⟨s, rfl, by simpa [hload, Except.toOption] using h⟩

/-- A scope in a list, without hubs of its own, and a type that the defaults do not have. -/
def sampleText : String :=
  "scopes = [[\"NPC\", \"npcs\"]]\n[types.force]\nFORCE_ENTITY = 'Entity'\n"

/-- A scope in a list and a type that the defaults do not have come back. -/
theorem loadFrom_save_same_sample :
    ∃ s saved s', loadFrom (oneFile sampleText) [] fileName = .ok s ∧
      s.types.force.lookup "FORCE_ENTITY".toList = some "Entity".toList ∧
      s.save [] [] fileName = .ok saved ∧ loadFrom saved [] fileName = .ok s' ∧ s'.Same s := by
  have hcheck : (loadFrom (oneFile sampleText) [] fileName).toOption.any (fun s =>
      s.types.force.lookup "FORCE_ENTITY".toList == some "Entity".toList &&
        decide (s.types.Each TypeTable.Covers default.types)) = true := by
    decide +kernel
  obtain ⟨s, hload, hs⟩ := exists_loadFrom_oneFile hcheck
  rw [Bool.and_eq_true, beq_iff_eq, decide_eq_true_eq] at hs
  obtain ⟨hprint, hsaved⟩ := loadFrom_save_same_iff hload
  obtain ⟨s', hreload, -, -, hiff, -⟩ := hsaved render hprint [] _ [] fileName s.save_nil
  exact ⟨s, _, s', hload, hs.1, s.save_nil, hreload, hiff.mpr hs.2⟩

/-- The first type table without any key, in a list. -/
def emptiedText : String :=
  "types = [\x7b\x7d]"

/-- **A type table that was emptied does not come back empty.** In a list it takes the place of the
default table. The file that is saved has it as a table, which is layered over the default table. -/
theorem loadFrom_save_not_same_emptied :
    ∃ s saved s', loadFrom (oneFile emptiedText) [] fileName = .ok s ∧
      s.save [] [] fileName = .ok saved ∧ loadFrom saved [] fileName = .ok s' ∧ ¬ s'.Same s := by
  have hcheck : (loadFrom (oneFile emptiedText) [] fileName).toOption.any (fun s =>
      !decide (s.types.Each TypeTable.Covers default.types)) = true := by
    decide +kernel
  obtain ⟨s, hload, hs⟩ := exists_loadFrom_oneFile hcheck
  rw [Bool.not_eq_true', decide_eq_false_iff_not] at hs
  obtain ⟨types, hreload, hcompletes⟩ :=
    loadFrom_of_saveWith printsBack_render (writable_of_loadFrom hload) s.save_nil
  exact ⟨s, _, _, hload, s.save_nil, hreload, fun hsame => hs (hcompletes.same_iff.mp hsame.2)⟩

end Settings

end Gloss
