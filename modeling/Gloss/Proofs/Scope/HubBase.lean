import Gloss.Proofs.Scope.Folder

/-!
# Bases that hub files declare

Whether a file is a hub is told by its name in any case, but the base of a folder is looked for only
in the files whose names are written as the rule has them, which is in lower case. So on a disk that
tells the case of names apart, a base that a hub declares can be missed. This module says when it is
found.

## Main definitions

* `ScopeRule.NamesHub`: a name is that of a hub.
* `baseIn?`: the base that a file of a directory declares.

## Main results

* `folderBase_eq`: the base of a folder in terms of its files.
* `detectFolder_finds_base_iff`: when the base of a folder is one that a hub declares.
-/

set_option relaxedAutoImplicit false
set_option autoImplicit false

namespace Gloss

/-- The name is that of a hub: as the rule has it, or in another case. -/
def ScopeRule.NamesHub (rule : ScopeRule) (name : Text) : Prop :=
  name ∈ rule.hubs ∨ rule.isHub name = true

/-- The base that the file of a directory with a given name declares. -/
def baseIn? (files : FileView) (rule : ScopeRule) (dir name : Text) : Option Base :=
  (files.read? (joinPath dir name)).bind (declaredBase? rule.baseAssignment)

section

variable (files : FileView) (rule : ScopeRule) (dir : Text)

/-- The base of a folder is the first that a file named as the rule has it declares, and else the
scope. -/
lemma folderBase_eq :
    folderBase files rule dir =
      (rule.hubs.findSome? (baseIn? files rule dir)).getD (.literal rule.scope) := by
  rw [folderBase, ← List.head?_filterMap, List.filterMap_filterMap, List.head?_filterMap]
  rfl

/-- **Where the base of a folder comes from**: from the first file, named as the rule has it, that
declares one, or else it is the scope. -/
lemma folderBase_cases :
    (∃ before hub after, rule.hubs = before ++ hub :: after ∧
        baseIn? files rule dir hub = some (folderBase files rule dir) ∧
        ∀ earlier ∈ before, baseIn? files rule dir earlier = none) ∨
      ((∀ hub ∈ rule.hubs, baseIn? files rule dir hub = none) ∧
        folderBase files rule dir = .literal rule.scope) := by
  rw [folderBase_eq]
  cases hfound : rule.hubs.findSome? (baseIn? files rule dir) with
  | none => exact .inr ⟨List.findSome?_eq_none_iff.mp hfound, rfl⟩
  | some base =>
    obtain ⟨before, hub, after, hhubs, hbase, hbefore⟩ := List.findSome?_eq_some_iff.mp hfound
    exact .inl ⟨before, hub, after, hhubs, hbase, hbefore⟩

end

/-- A folder that is found while nothing is remembered is the directory of the script, with the base
that its files give. -/
lemma eq_of_detectFolder_nil {files : FileView} {rule : ScopeRule} {p : ScriptPath}
    {typeName : Text} {found : FolderScope}
    (h : (detectFolder files rule p typeName []).1 = some found) :
    p.parent? = some found.path ∧ found.base = folderBase files rule found.path := by
  rcases detectFolder_cases files rule p typeName [] with hnone | ⟨dir, hparent, hsome⟩
  · simp [hnone] at h
  · rw [hsome] at h
    obtain rfl := Option.some.inj h
    exact ⟨hparent, rfl⟩

/-- **When the base of a folder is one that a hub declares.** While nothing is remembered, a script
gets the base from the first hub, named as the rule has it, that declares one, and else the scope.
So the base is one that some hub declares, its name being in any case, iff a hub named as the rule
has it declares one, or some hub declares the scope itself. Where the case of names does not matter,
a base that a hub declares is always found.

**Proof sketch.** The base is that of the first hub that declares one, or the scope if none does. In
the second case a declared base can be the base that is found only if it is the scope; and where
case does not matter, a hub in any spelling is read like the one that the rule names. -/
theorem detectFolder_finds_base_iff {files : FileView} {rule : ScopeRule} {p : ScriptPath}
    {typeName : Text} {found : FolderScope}
    (h : (detectFolder files rule p typeName []).1 = some found) :
    p.parent? = some found.path ∧
    ((∃ before hub after, rule.hubs = before ++ hub :: after ∧
        baseIn? files rule found.path hub = some found.base ∧
        ∀ earlier ∈ before, baseIn? files rule found.path earlier = none) ∨
      ((∀ hub ∈ rule.hubs, baseIn? files rule found.path hub = none) ∧
        found.base = .literal rule.scope)) ∧
    ((∃ name, rule.NamesHub name ∧ baseIn? files rule found.path name = some found.base) ↔
      (∃ hub ∈ rule.hubs, (baseIn? files rule found.path hub).isSome = true) ∨
        ∃ name, rule.isHub name = true ∧
          baseIn? files rule found.path name = some (.literal rule.scope)) ∧
    ((∀ name, files.read? (joinPath found.path name) =
      files.read? (joinPath found.path name.lower)) →
      ∀ name, rule.isHub name = true → (baseIn? files rule found.path name).isSome = true →
        ∃ hub ∈ rule.hubs, baseIn? files rule found.path hub = some found.base) := by
  obtain ⟨hparent, hbase⟩ := eq_of_detectFolder_nil h
  have hcases := folderBase_cases files rule found.path
  rw [← hbase] at hcases
  refine ⟨hparent, hcases, ⟨?_, ?_⟩, ?_⟩
  · rintro ⟨name, hname, hdeclares⟩
    rcases hname with hmem | hhub
    · exact .inl ⟨name, hmem, by rw [hdeclares]; rfl⟩
    · -- Another spelling declares what was found: it was found in a file named as the rule has it,
      -- or it is the scope.
      rcases hcases with ⟨before, hub, after, hhubs, hfound, -⟩ | ⟨-, hscope⟩
      · exact .inl ⟨hub, by simp [hhubs], by rw [hfound]; rfl⟩
      · exact .inr ⟨name, hhub, hscope ▸ hdeclares⟩
  · intro hdeclared
    rcases hcases with ⟨before, hub, after, hhubs, hfound, -⟩ | ⟨hnone, hscope⟩
    · exact ⟨hub, .inl (by simp [hhubs]), hfound⟩
    · rcases hdeclared with ⟨hub, hmem, hsome⟩ | ⟨name, hhub, hself⟩
      · simp [hnone hub hmem] at hsome
      · exact ⟨name, .inr hhub, hscope ▸ hself⟩
  · intro hcase name hhub hsome
    rcases hcases with ⟨before, hub, after, hhubs, hfound, -⟩ | ⟨hnone, -⟩
    · exact ⟨hub, by simp [hhubs], hfound⟩
    · have hlower : baseIn? files rule found.path name = none := by
        rw [baseIn?, hcase]
        exact hnone name.lower (List.contains_iff_mem.mp hhub)
      simp [hlower] at hsome

/-- A folder with one file, a hub whose name starts with a capital. -/
def capitalHub : FileMap :=
  FileMap.ofList [("lua/entities/crate/Init.lua".toList, "ENT.Base = 'base_anim'".toList)]

/-- Whatever is read there is the text of the hub. -/
lemma eq_of_read?_capitalHub {path t : Text} (h : capitalHub.view.read? path = some t) :
    t = "ENT.Base = 'base_anim'".toList := by
  have hfiles : capitalHub =
      [(pathParts "lua/entities/crate/Init.lua".toList, "ENT.Base = 'base_anim'".toList)] := rfl
  have hlookup : capitalHub.lookup (pathParts path) = some t := h
  rw [hfiles, List.lookup_cons] at hlookup
  split at hlookup
  · exact (Option.some.inj hlookup).symm
  · simp at hlookup

/-- The hub counts for the folder and declares a base, but the base that is found is the scope. -/
theorem detectFolder_misses_capital_hub :
    ∃ rule p found,
      ScopeRule.ofSettings Settings.default.patterns.baseAssignment
        { name := "ENT".toList, folder := "entities".toList } = .ok rule ∧
      ScriptPath.read "lua/entities/crate/Init.lua".toList = .ok p ∧
      (detectFolder capitalHub.view rule p "crate".toList []).1 = some found ∧
      found.base = .literal "ENT".toList ∧ "Init.lua".toList ∈ capitalHub.view.list found.path ∧
      rule.isHub "Init.lua".toList = true ∧
      baseIn? capitalHub.view rule found.path "Init.lua".toList =
        some (.literal "base_anim".toList) ∧
      ¬ ∃ name, rule.NamesHub name ∧ baseIn? capitalHub.view rule found.path name =
        some found.base := by
  have hcheck : ((ScopeRule.ofSettings Settings.default.patterns.baseAssignment
      { name := "ENT".toList, folder := "entities".toList }).toOption.any fun rule =>
        (ScriptPath.read "lua/entities/crate/Init.lua".toList).toOption.any fun p =>
          (detectFolder capitalHub.view rule p "crate".toList []).1.any fun found =>
            found.base == .literal "ENT".toList &&
            (capitalHub.view.list found.path).contains "Init.lua".toList &&
            rule.isHub "Init.lua".toList &&
            baseIn? capitalHub.view rule found.path "Init.lua".toList ==
              some (.literal "base_anim".toList) &&
            (rule.hubs.all fun hub => (baseIn? capitalHub.view rule found.path hub).isNone) &&
            declaredBase? rule.baseAssignment "ENT.Base = 'base_anim'".toList !=
              some (.literal rule.scope)) = true := by
    decide +kernel
  generalize hrule : ScopeRule.ofSettings Settings.default.patterns.baseAssignment
    { name := "ENT".toList, folder := "entities".toList } = result at hcheck
  generalize hread : ScriptPath.read "lua/entities/crate/Init.lua".toList = read at hcheck
  cases result with
  | error fault => simp [Except.toOption] at hcheck
  | ok rule =>
    cases read with
    | error fault => simp [Except.toOption] at hcheck
    | ok p =>
      simp only [Except.toOption, Option.any_some, Option.any_eq_true, Bool.and_eq_true, beq_iff_eq,
        bne_iff_ne, List.contains_iff_mem, List.all_eq_true, Option.isNone_iff_eq_none] at hcheck
      obtain ⟨found, hfound, ⟨⟨⟨⟨hbase, hlist⟩, hhub⟩, hdeclares⟩, hnone⟩, hother⟩ := hcheck
      refine ⟨rule, p, found, rfl, rfl, hfound, hbase, hlist, hhub, hdeclares, ?_⟩
      rw [(detectFolder_finds_base_iff hfound).2.2.1]
      rintro (⟨hub, hmem, hsome⟩ | ⟨name, -, hself⟩)
      · simp [hnone hub hmem] at hsome
      · obtain ⟨t, ht, hself⟩ := Option.bind_eq_some_iff.mp hself
        rw [eq_of_read?_capitalHub ht] at hself
        exact hother hself

end Gloss
