import Gloss.Proofs.Toml.Merge
import Gloss.Settings.Codec

/-!
# Settings and their documents

The document of settings, layered over the defaults, gives the settings back: a list or a simple
value of the document takes the place of the default, and a record has all its names in the
document. Only the type tables are tables of free keys, so they come back with the defaults of the
keys that they do not have.

## Main definitions

* `TypeTable.Covers`: a type table has all keys of another.
* `TypeTable.Completes`: a type table is another one with the missing keys of a third.
* `Settings.Writable`: what settings that are read from a document have, and all that is needed to
  read them back.

## Main results

* `Settings.ofLayers_toValue`: settings come back from their document, with complete type tables.
* `Settings.writable_of_ofValue?`: settings that a document gives are writable.
* `Settings.covers_of_ofValue?`: they have the default keys, unless the document has the type tables
  in a list.
-/

set_option relaxedAutoImplicit false
set_option autoImplicit false

namespace Gloss

/-! ## Records -/

namespace Value

/-- The entries of a record. -/
def fieldEntries (fields : List (String × Value)) : List (Text × Value) :=
  fields.map fun f => (f.1.toList, f.2)

/-- A record is the table of its fields. -/
lemma ofFields_eq (fields : List (String × Value)) :
    ofFields fields = .table (fieldEntries fields) :=
  rfl

section Fields

variable {α : Type} {fields : List (String × Value)}

/-- A field of a record is looked up by its name. -/
lemma lookup_fieldEntries (fields : List (String × Value)) (name : String) :
    (fieldEntries fields).lookup name.toList = fields.lookup name := by
  induction fields with
  | nil => rfl
  | cons f fields ih =>
    have hname : (name.toList == f.1.toList) = (name == f.1) := by
      rw [Bool.eq_iff_iff, beq_iff_eq, beq_iff_eq, String.toList_inj]
    rw [fieldEntries] at ih ⊢
    rw [List.map_cons, List.lookup_cons, ih, hname, List.lookup_cons]

/-- Fields with different names have different keys. -/
lemma nodup_keys_fieldEntries (h : (fields.map Prod.fst).Nodup) :
    ((fieldEntries fields).map Prod.fst).Nodup := by
  have hkeys : (fieldEntries fields).map Prod.fst = (fields.map Prod.fst).map String.toList := by
    simp [fieldEntries, Function.comp_def]
  rw [hkeys]
  exact h.map fun _ _ => String.toList_inj.mp

/-- What is read from a field. -/
lemma field?_fieldEntries (fields : List (String × Value)) (name : String)
    (read : Value → Option α) (default : Option α) :
    field? (fieldEntries fields) name.toList read default =
      (fields.lookup name).elim default read := by
  rw [field?, lookup_fieldEntries]
  cases fields.lookup name <;> rfl

/-- What is read from a field of a record that is on top of others. -/
lemma field?_mergeEntries (h : (fields.map Prod.fst).Nodup) (old : List (Text × Value))
    (name : String) (read : Value → Option α) (default : Option α) :
    field? (mergeEntries old (fieldEntries fields)) name.toList read default =
      (fields.lookup name).elim (field? old name.toList read default)
        fun v => read (onTop old (name.toList, v)) := by
  rw [field?]
  cases hfield : fields.lookup name with
  | none =>
    rw [lookup_mergeEntries_of_eq_none (by rw [lookup_fieldEntries, hfield])]
    rfl
  | some v =>
    rw [lookup_mergeEntries_of_eq_some (nodup_keys_fieldEntries h)
      (by rw [lookup_fieldEntries, hfield])]
    rfl

/-- A plain value takes the place of what it is layered over. -/
lemma onTop_of_isPlain {v : Value} (h : v.isPlain = true) (old : List (Text × Value)) (k : Text) :
    onTop old (k, v) = v := by
  rw [onTop]
  cases old.lookup k with
  | none => rfl
  | some o => exact merge_of_isPlain h o

/-- A field that is no record is read as it was put there. -/
lemma field?_mergeEntries_of_isPlain (h : (fields.map Prod.fst).Nodup) {name : String} {v : Value}
    (hfield : fields.lookup name = some v) (hv : v.isPlain = true) (old : List (Text × Value))
    (read : Value → Option α) (default : Option α) :
    field? (mergeEntries old (fieldEntries fields)) name.toList read default = read v := by
  rw [field?_mergeEntries h, hfield, Option.elim_some, onTop_of_isPlain hv]

/-- A text takes the place of what it is layered over. -/
@[simp]
lemma onTop_text (old : List (Text × Value)) (k t : Text) : onTop old (k, .text t) = .text t :=
  onTop_of_isPlain rfl old k

/-- A truth value takes the place of what it is layered over. -/
lemma onTop_boolean (old : List (Text × Value)) (k : Text) (b : Bool) :
    onTop old (k, .boolean b) = .boolean b :=
  onTop_of_isPlain rfl old k

/-- A list takes the place of what it is layered over. -/
@[simp]
lemma onTop_list (old : List (Text × Value)) (k : Text) (items : List Value) :
    onTop old (k, .list items) = .list items :=
  onTop_of_isPlain rfl old k

/-- A value is layered over the field of its name, if there is one. -/
lemma onTop_fieldEntries (fields : List (String × Value)) (name : String) (v : Value) :
    onTop (fieldEntries fields) (name.toList, v) = (fields.lookup name).elim v (merge · v) := by
  rw [onTop, lookup_fieldEntries]

end Fields

/-- A list of items that are read back one by one is read back. -/
lemma list?_map {α : Type} {toValue : α → Value} {ofValue? : Value → Option α}
    (h : ∀ a, ofValue? (toValue a) = some a) (items : List α) :
    list? ofValue? (.list (items.map toValue)) = some items := by
  rw [list?]
  induction items with
  | nil => rfl
  | cons a items ih =>
    rw [List.map_cons, List.mapM_cons, ih, h]
    rfl

/-- A list of texts comes back. -/
lemma list?_ofTexts (texts : List Text) : list? text? (ofTexts texts) = some texts :=
  list?_map (fun t => (rfl : text? (.text t) = some t)) texts

end Value

open Value

/-- A scope is read back. -/
lemma ScopeSettings.ofValue?_toValue (s : ScopeSettings) : ofValue? s.toValue = some s := by
  simp only [-String.reduceToList, ofValue?, toValue, ofFields_eq, record?, Option.bind_eq_bind,
    Option.bind_some, field?_fieldEntries]
  simp [List.lookup_cons, list?_ofTexts, text?]

/-- A registration is read back. -/
lemma RegistrationSettings.ofValue?_toValue (r : RegistrationSettings) :
    ofValue? r.toValue = some r := by
  have hkind : RegistrationKind.ofWord? r.kind.word = some r.kind := by
    cases r.kind <;> decide +kernel
  simp only [-String.reduceToList, ofValue?, toValue, ofFields_eq, record?, Option.bind_eq_bind,
    Option.bind_some, field?_fieldEntries]
  simp [List.lookup_cons, text?, hkind]

/-- Patterns are read back, on top of others. -/
lemma PatternSettings.ofValue?_merge (old s : PatternSettings) :
    ofValue? (merge old.toValue s.toValue) = some s := by
  rw [toValue, toValue, ofFields_eq, ofFields_eq, merge_table]
  simp only [-String.reduceToList, ofValue?, record?, Option.bind_eq_bind, Option.bind_some]
  repeat rw [field?_mergeEntries (by simp)]
  simp only [-String.reduceToList, List.lookup_cons_self, List.lookup_cons, String.reduceBEq,
    Option.elim_some, onTop_text, onTop_list, text?, Option.bind_some, Option.pure_def,
    list?_map RegistrationSettings.ofValue?_toValue]

/-- How fields are written is read back, on top of others. -/
lemma FieldSettings.ofValue?_merge (old s : FieldSettings) :
    ofValue? (merge old.toValue s.toValue) = some s := by
  rw [toValue, toValue, ofFields_eq, ofFields_eq, merge_table]
  simp (disch := simp) only [-String.reduceToList, ofValue?, record?, Option.bind_eq_bind,
    Option.bind_some, field?_mergeEntries]
  simp [text?]

/-! ## Type tables -/

namespace TypeTable

/-- The table has all keys of another. -/
def Covers (table other : TypeTable) : Prop :=
  ∀ e ∈ other, (table.lookup e.1).isSome = true

/-- Whether a table has all keys of another can be decided. -/
instance (table other : TypeTable) : Decidable (table.Covers other) :=
  inferInstanceAs (Decidable (∀ e ∈ other, (table.lookup e.1).isSome = true))

/-- Two tables are the same map. -/
def Same (table other : TypeTable) : Prop :=
  ∀ key, table.lookup key = other.lookup key

/-- The table is another one with what that lacks from a third. -/
def Completes (new table defaults : TypeTable) : Prop :=
  ∀ key, new.lookup key = (table.lookup key).or (defaults.lookup key)

/-- A table covers another iff it leads somewhere from all keys of the other. -/
lemma covers_iff {table other : TypeTable} :
    table.Covers other ↔
      ∀ key, (other.lookup key).isSome = true → (table.lookup key).isSome = true := by
  constructor
  · intro h key hkey
    obtain ⟨e, he, heq⟩ := List.lookup_isSome_iff.mp hkey
    exact eq_of_beq heq ▸ h e he
  · intro h e he
    exact h e.1 (List.lookup_isSome_iff.mpr ⟨e, he, beq_self_eq_true _⟩)

/-- A completed table is the same iff nothing was missing. -/
lemma Completes.same_iff {new table defaults : TypeTable} (h : new.Completes table defaults) :
    new.Same table ↔ table.Covers defaults := by
  rw [covers_iff]
  refine forall_congr' fun key => ?_
  rw [h key]
  cases table.lookup key <;> cases defaults.lookup key <;> simp

/-- A type table is written as the table of its texts. -/
lemma toValue_eq (table : TypeTable) : table.toValue = .table (textEntries table) := rfl

end TypeTable

namespace TypeSettings

/-- Each type table is in a relation to the same table of others. -/
def Each (r : TypeTable → TypeTable → Prop) (s t : TypeSettings) : Prop :=
  r s.network t.network ∧ r s.force t.force ∧ r s.forceIndex t.forceIndex

/-- A relation between tables that can be decided can be decided for all three. -/
instance (r : TypeTable → TypeTable → Prop) [DecidableRel r] (s t : TypeSettings) :
    Decidable (s.Each r t) :=
  inferInstanceAs (Decidable (_ ∧ _ ∧ _))

/-- The type tables are others with what these lack from third ones. -/
structure Completes (new types defaults : TypeSettings) : Prop where
  network : new.network.Completes types.network defaults.network
  force : new.force.Completes types.force defaults.force
  forceIndex : new.forceIndex.Completes types.forceIndex defaults.forceIndex

/-- Completed type tables are the same iff nothing was missing. -/
lemma Completes.same_iff {new types defaults : TypeSettings} (h : new.Completes types defaults) :
    new.Each TypeTable.Same types ↔ types.Each TypeTable.Covers defaults :=
  and_congr h.network.same_iff (and_congr h.force.same_iff h.forceIndex.same_iff)

/-- The keys of each type table differ. -/
structure KeysDiffer (types : TypeSettings) : Prop where
  network : (types.network.map Prod.fst).Nodup
  force : (types.force.map Prod.fst).Nodup
  forceIndex : (types.forceIndex.map Prod.fst).Nodup

/-- What is read from the entries of a value. -/
structure ReadFrom (entries : List (Text × Value)) (types : TypeSettings) : Prop where
  network : field? entries "network".toList texts? (some ({} : TypeSettings).network) =
    some types.network
  force : field? entries "force".toList texts? (some ({} : TypeSettings).force) = some types.force
  forceIndex : field? entries "force_index".toList texts? (some ({} : TypeSettings).forceIndex) =
    some types.forceIndex

/-- A value gives type tables iff each of them is read from its entry. -/
lemma ofValue?_eq_some_iff {v : Value} {types : TypeSettings} :
    ofValue? v = some types ↔
      ∃ entries, v.record? names = some entries ∧ ReadFrom entries types := by
  constructor
  · intro h
    obtain ⟨entries, hentries, h⟩ := Option.bind_eq_some_iff.mp h
    obtain ⟨network, hnetwork, h⟩ := Option.bind_eq_some_iff.mp h
    obtain ⟨force, hforce, h⟩ := Option.bind_eq_some_iff.mp h
    obtain ⟨forceIndex, hindex, h⟩ := Option.bind_eq_some_iff.mp h
    obtain rfl := Option.some.inj h
    exact ⟨entries, hentries, hnetwork, hforce, hindex⟩
  · rintro ⟨entries, hentries, h⟩
    refine Option.bind_eq_some_iff.mpr ⟨entries, hentries, ?_⟩
    refine Option.bind_eq_some_iff.mpr ⟨_, h.network, ?_⟩
    refine Option.bind_eq_some_iff.mpr ⟨_, h.force, ?_⟩
    exact Option.bind_eq_some_iff.mpr ⟨_, h.forceIndex, rfl⟩

/-- Type tables on top of others come back with what they lack.

**Proof sketch.** Each of the three tables comes back with the default entries that it lacks, and
the document has one field for each of them. -/
lemma ofValue?_merge (defaults : TypeSettings) {types : TypeSettings} (h : types.KeysDiffer) :
    ∃ new, ofValue? (merge defaults.toValue types.toValue) = some new ∧
      new.Completes types defaults := by
  obtain ⟨network, hnetwork, hn⟩ := exists_mergeEntries_textEntries defaults.network h.network
  obtain ⟨force, hforce, hf⟩ := exists_mergeEntries_textEntries defaults.force h.force
  obtain ⟨forceIndex, hindex, hi⟩ :=
    exists_mergeEntries_textEntries defaults.forceIndex h.forceIndex
  refine ⟨⟨network, force, forceIndex⟩, ?_, hn, hf, hi⟩
  rw [toValue, toValue, ofFields_eq, ofFields_eq, merge_table]
  simp (disch := simp) only [-String.reduceToList, ofValue?, record?, Option.bind_eq_bind,
    Option.bind_some, field?_mergeEntries, onTop_fieldEntries]
  simp [-String.reduceToList, List.lookup_cons, TypeTable.toValue_eq, merge_table, hnetwork, hforce,
    hindex, texts?_textEntries]

end TypeSettings

/-! ## Settings -/

namespace Settings

/-- The version is a number of 32 bits and the keys of each type table differ. -/
structure Writable (s : Settings) : Prop where
  version_lt : s.version < Nat.pow 2 32
  types : s.types.KeysDiffer

/-- What is read from the entries of a document. -/
structure ReadFrom (entries : List (Text × Value)) (s : Settings) : Prop where
  version : field? entries "version".toList nat32? (some default.version) = some s.version
  debug : field? entries "debug".toList boolean? (some default.debug) = some s.debug
  untyped : field? entries "untyped".toList text? (some default.untyped) = some s.untyped
  baseCallReplacement : field? entries "base_macro_replacement".toList text?
    (some default.baseCallReplacement) = some s.baseCallReplacement
  scopes : field? entries "scopes".toList (list? ScopeSettings.ofValue?) (some default.scopes) =
    some s.scopes
  types : field? entries "types".toList TypeSettings.ofValue? (some default.types) = some s.types
  patterns : field? entries "patterns".toList PatternSettings.ofValue? (some default.patterns) =
    some s.patterns
  fields : field? entries "fields".toList FieldSettings.ofValue? (some default.fields) =
    some s.fields

/-- A document gives settings iff each of them is read from its entry. -/
lemma ofValue?_eq_some_iff {v : Value} {s : Settings} :
    ofValue? v = some s ↔ ∃ entries, v.record? names = some entries ∧ ReadFrom entries s := by
  constructor
  · intro h
    obtain ⟨entries, hentries, h⟩ := Option.bind_eq_some_iff.mp h
    obtain ⟨version, hversion, h⟩ := Option.bind_eq_some_iff.mp h
    obtain ⟨debug, hdebug, h⟩ := Option.bind_eq_some_iff.mp h
    obtain ⟨untyped, huntyped, h⟩ := Option.bind_eq_some_iff.mp h
    obtain ⟨baseCall, hbaseCall, h⟩ := Option.bind_eq_some_iff.mp h
    obtain ⟨scopes, hscopes, h⟩ := Option.bind_eq_some_iff.mp h
    obtain ⟨types, htypes, h⟩ := Option.bind_eq_some_iff.mp h
    obtain ⟨patterns, hpatterns, h⟩ := Option.bind_eq_some_iff.mp h
    obtain ⟨fields, hfields, h⟩ := Option.bind_eq_some_iff.mp h
    obtain rfl := Option.some.inj h
    exact ⟨entries, hentries, hversion, hdebug, huntyped, hbaseCall, hscopes, htypes, hpatterns,
      hfields⟩
  · rintro ⟨entries, hentries, h⟩
    refine Option.bind_eq_some_iff.mpr ⟨entries, hentries, ?_⟩
    refine Option.bind_eq_some_iff.mpr ⟨_, h.version, ?_⟩
    refine Option.bind_eq_some_iff.mpr ⟨_, h.debug, ?_⟩
    refine Option.bind_eq_some_iff.mpr ⟨_, h.untyped, ?_⟩
    refine Option.bind_eq_some_iff.mpr ⟨_, h.baseCallReplacement, ?_⟩
    refine Option.bind_eq_some_iff.mpr ⟨_, h.scopes, ?_⟩
    refine Option.bind_eq_some_iff.mpr ⟨_, h.types, ?_⟩
    refine Option.bind_eq_some_iff.mpr ⟨_, h.patterns, ?_⟩
    exact Option.bind_eq_some_iff.mpr ⟨_, h.fields, rfl⟩

/-- Settings come back from their document on top of others, if their type tables do.

**Proof sketch.** Field by field: each is in the document, which is on top, so it is read from
there. -/
lemma ofValue?_merge {defaults s : Settings} (hversion : s.version < Nat.pow 2 32)
    {types : TypeSettings}
    (htypes : TypeSettings.ofValue? (merge defaults.types.toValue s.types.toValue) = some types) :
    ofValue? (merge defaults.toValue s.toValue) = some { s with types := types } := by
  have hread : nat32? (.integer s.version) = some s.version := by
    rw [nat32?, if_pos ⟨Int.natCast_nonneg _, Int.ofNat_lt.mpr hversion⟩, Int.toNat_natCast]
  rw [toValue, toValue, ofFields_eq, ofFields_eq, merge_table, ofValue?_eq_some_iff]
  refine ⟨_, rfl, ?_⟩
  constructor
  case version =>
    -- A number of 32 bits must not be computed with here, so nothing is simplified.
    exact (field?_mergeEntries_of_isPlain (by simp) (by simp) rfl _ _ _).trans hread
  case debug =>
    rw [field?_mergeEntries (by simp)]
    simp [-String.reduceToList, List.lookup_cons, onTop_boolean, boolean?]
  case untyped =>
    rw [field?_mergeEntries (by simp)]
    simp [-String.reduceToList, List.lookup_cons, text?]
  case baseCallReplacement =>
    rw [field?_mergeEntries (by simp)]
    simp [-String.reduceToList, List.lookup_cons, text?]
  case scopes =>
    rw [field?_mergeEntries (by simp)]
    simpa [-String.reduceToList, List.lookup_cons] using list?_map ScopeSettings.ofValue?_toValue _
  case types =>
    rw [field?_mergeEntries (by simp)]
    simpa [-String.reduceToList, List.lookup_cons, onTop_fieldEntries] using htypes
  case patterns =>
    rw [field?_mergeEntries (by simp)]
    simpa [-String.reduceToList, List.lookup_cons, onTop_fieldEntries] using
      PatternSettings.ofValue?_merge _ s.patterns
  case fields =>
    rw [field?_mergeEntries (by simp)]
    simpa [-String.reduceToList, List.lookup_cons, onTop_fieldEntries] using
      FieldSettings.ofValue?_merge _ s.fields

/-- **Settings come back from their document**, with the defaults that their type tables lack. -/
lemma ofLayers_toValue {s : Settings} (h : s.Writable) :
    ∃ types, ofLayers [s.toValue] = .ok { s with types := types } ∧
      types.Completes s.types default.types := by
  obtain ⟨types, htypes, hcompletes⟩ := TypeSettings.ofValue?_merge default.types h.types
  refine ⟨types, ?_, hcompletes⟩
  rw [ofLayers, List.foldl_cons, List.foldl_nil, ofValue?_merge h.version_lt htypes]

end Settings

/-! ## What documents give -/

section Documents

/-- A field of a proper record is proper. -/
lemma Value.Proper.of_entry {names : List Text} {v w : Value} {entries : List (Text × Value)}
    (hv : v.Proper) (hentries : v.record? names = some entries) {name : Text}
    (hw : entries.lookup name = some w) : w.Proper := by
  obtain ⟨before, after, hlist, -⟩ := List.lookup_eq_some_iff.mp hw
  have hmem : (name, w) ∈ entries := by simp [hlist]
  cases hv with
  | table keys each =>
    obtain rfl := Option.some.inj hentries
    exact each _ hmem
  | list each =>
    obtain rfl := Option.some.inj hentries
    exact each w (List.of_mem_zip hmem).2
  | _ => simp [record?] at hentries

/-- The keys of a table of texts differ in a proper value. -/
lemma Value.Proper.nodup_keys_texts {v : Value} (hv : v.Proper) {texts : List (Text × Text)}
    (h : v.texts? = some texts) : (texts.map Prod.fst).Nodup := by
  rw [texts?_eq_some_iff] at h
  subst h
  cases hv with
  | table keys each => rwa [map_fst_textEntries] at keys

/-- The keys of type tables that a proper value gives differ. -/
lemma TypeSettings.keysDiffer_of_ofValue? {v : Value} (hv : v.Proper) {types : TypeSettings}
    (h : ofValue? v = some types) : types.KeysDiffer := by
  obtain ⟨entries, hentries, hread⟩ := ofValue?_eq_some_iff.mp h
  have hkeys : ∀ {name : Text} {default table : TypeTable}, (default.map Prod.fst).Nodup →
      field? entries name texts? (some default) = some table → (table.map Prod.fst).Nodup := by
    intro name default table hdefault htable
    rw [field?] at htable
    split at htable
    · next w hw => exact (hv.of_entry hentries hw).nodup_keys_texts htable
    · obtain rfl := Option.some.inj htable
      exact hdefault
  exact ⟨hkeys (by decide +kernel) hread.network, hkeys (by decide +kernel) hread.force,
    hkeys (by decide +kernel) hread.forceIndex⟩

/-- The keys of the default type tables differ. -/
lemma TypeSettings.keysDiffer_default : ({} : TypeSettings).KeysDiffer :=
  ⟨by decide +kernel, by decide +kernel, by decide +kernel⟩

/-- A number that is read as one of 32 bits is small. -/
lemma Value.lt_of_nat32? {v : Value} {n : Nat} (h : v.nat32? = some n) : n < Nat.pow 2 32 := by
  cases v with
  | integer k =>
    rw [nat32?] at h
    split_ifs at h with hk
    obtain rfl := Option.some.inj h
    exact (Int.toNat_lt hk.1).mpr hk.2
  | _ => simp [nat32?] at h

/-- A table of texts on top of others has their keys. -/
lemma TypeTable.covers_of_merged {old new : List (Text × Value)} (hnew : (Value.table new).Proper)
    {name : Text} {default table : TypeTable} (hold : old.lookup name = some default.toValue)
    (h : field? (mergeEntries old new) name texts? (some default) = some table) :
    table.Covers default := by
  have hself : default.Covers default := covers_iff.mpr fun _ => id
  cases hnew with
  | table keys each =>
    rw [field?] at h
    cases hname : new.lookup name with
    | none =>
      rw [lookup_mergeEntries_of_eq_none hname, hold] at h
      obtain rfl := Option.some.inj ((texts?_textEntries default).symm.trans h)
      exact hself
    | some w =>
      rw [lookup_mergeEntries_of_eq_some keys hname, onTop, hold] at h
      have hw := proper_of_lookup each hname
      cases w with
      | table inner =>
        rw [Option.elim_some, toValue_eq, merge_table] at h
        have hmerged := Value.table.inj (texts?_eq_some_iff.mp h)
        cases hw with
        | table innerKeys innerEach =>
          refine covers_iff.mpr fun key hkey => ?_
          have hsome : ((textEntries default).lookup key).isSome = true := by
            rwa [lookup_textEntries, Option.isSome_map]
          have hlookup := isSome_lookup_mergeEntries innerKeys hsome
          rwa [hmerged, lookup_textEntries, Option.isSome_map] at hlookup
      | _ =>
        rw [Option.elim_some, merge_of_isPlain rfl] at h
        simp [texts?] at h

/-- Type tables on top of others have their keys. -/
lemma TypeSettings.covers_of_ofValue? {new : List (Text × Value)} (hnew : (Value.table new).Proper)
    {types : TypeSettings}
    (h : ofValue? (merge ({} : TypeSettings).toValue (.table new)) = some types) :
    types.Each TypeTable.Covers {} := by
  rw [toValue, ofFields_eq, merge_table, ofValue?_eq_some_iff] at h
  obtain ⟨entries, hentries, hread⟩ := h
  obtain rfl := Option.some.inj hentries
  refine ⟨TypeTable.covers_of_merged hnew ?_ hread.network,
    TypeTable.covers_of_merged hnew ?_ hread.force,
    TypeTable.covers_of_merged hnew ?_ hread.forceIndex⟩
  all_goals
    rw [lookup_fieldEntries]
    simp [-String.reduceToList, List.lookup_cons]

namespace Settings

/-- **Settings that a proper value gives are writable.**

**Proof sketch.** The version is one of 32 bits or the default, and the keys of a table in a proper
value differ. -/
lemma writable_of_ofValue? {v : Value} (hv : v.Proper) {s : Settings} (h : ofValue? v = some s) :
    s.Writable := by
  obtain ⟨entries, hentries, hread⟩ := ofValue?_eq_some_iff.mp h
  constructor
  · have hversion := hread.version
    rw [field?] at hversion
    split at hversion
    · exact lt_of_nat32? hversion
    · rw [← Option.some.inj hversion]
      decide
  · have htypes := hread.types
    rw [field?] at htypes
    split at htypes
    · next w hw => exact TypeSettings.keysDiffer_of_ofValue? (hv.of_entry hentries hw) htypes
    · rw [← Option.some.inj htypes]
      exact TypeSettings.keysDiffer_default

/-- **Settings that a document gives have the default keys in their type tables**, unless it has the
type tables in a list.

**Proof sketch.** By what the document has for the type tables. Without them, the defaults come
back, which are covered as an empty table on top of them; a table is merged with the defaults key by
key; anything else is no table and is refused. -/
lemma covers_of_ofValue? {entries : List (Text × Value)} (hproper : (Value.table entries).Proper)
    (hlist : ∀ items, entries.lookup "types".toList ≠ some (.list items)) {s : Settings}
    (h : ofValue? (merge default.toValue (.table entries)) = some s) :
    s.types.Each TypeTable.Covers {} := by
  obtain ⟨old, htable, hold⟩ : ∃ old, default.toValue = .table old ∧
      old.lookup "types".toList = some default.types.toValue := by
    refine ⟨_, by rw [toValue, ofFields_eq], ?_⟩
    rw [lookup_fieldEntries]
    simp [-String.reduceToList, List.lookup_cons]
  rw [htable, merge_table, ofValue?_eq_some_iff] at h
  obtain ⟨merged, hmerged, hread⟩ := h
  obtain rfl := Option.some.inj hmerged
  have htypes := hread.types
  rw [field?] at htypes
  cases hproper with
  | table keys each =>
    cases hentry : entries.lookup "types".toList with
    | none =>
      rw [lookup_mergeEntries_of_eq_none hentry, hold] at htypes
      -- Nothing is on top, which is an empty table on top.
      have hempty : merge default.types.toValue (.table []) = default.types.toValue := by
        rw [TypeSettings.toValue, ofFields_eq, merge_table, mergeEntries_nil]
      have hproper : (Value.table []).Proper := .table (by simp) (by simp)
      rw [← hempty] at htypes
      exact TypeSettings.covers_of_ofValue? hproper htypes
    | some w =>
      rw [lookup_mergeEntries_of_eq_some keys hentry, onTop, hold, Option.elim_some] at htypes
      cases w with
      | table inner => exact TypeSettings.covers_of_ofValue? (proper_of_lookup each hentry) htypes
      | list items => exact absurd hentry (hlist items)
      | _ =>
        rw [merge_of_isPlain rfl] at htypes
        simp [TypeSettings.ofValue?, record?] at htypes

end Settings

end Documents

end Gloss
