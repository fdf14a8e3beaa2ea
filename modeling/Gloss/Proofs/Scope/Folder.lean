import Gloss.Annotate
import Mathlib.Data.List.Nodup

/-!
# What is remembered about folders

Looking at a script looks up at most one folder, and a look-up changes what is remembered in one way
only: where the folder has no base yet, the new base becomes the last one. So what is remembered
only grows at its end. A hub file has its folder remembered as soon as it has been annotated. So
what a script asks of the files is decided by which files there are, and by the hub files of its
folder as long as the folder is not remembered.

## Main definitions

* `FolderCache.DistinctKeys`: no folder is remembered twice.
* `LooksUp`: what is remembered after a script has been looked at.
* `InFolder`: the folder, the rule and the file name of a script.
* `Remembers`: the folder of a script is remembered if the script is a hub.

## Main results

* `FolderCache.getOrInsert_cases`: what a look-up does.
* `detectFolder_cases`, `detectFolder_remembered`: what the search for the folder of a script does.
* `looksUp_annotate`: annotation looks up at most one folder.
* `remembers_annotate`: a hub has its folder remembered once it has been annotated.
* `annotate_congr`: what annotation asks of the files.
-/

set_option relaxedAutoImplicit false
set_option autoImplicit false

namespace Gloss

/-! ## Looking up a folder -/

namespace FolderCache

variable (cache : FolderCache) (folder scope : Text) (base : Base)

/-- **What a look-up does**: a base that is remembered is given, and else the new base is given and
is the last one that is remembered. -/
lemma getOrInsert_cases :
    (∃ known, cache.get? folder scope = some known ∧
        cache.getOrInsert folder scope base = (known, cache)) ∨
      (cache.get? folder scope = none ∧
        cache.getOrInsert folder scope base = (base, cache ++ [(key folder scope, base)])) := by
  cases h : cache.get? folder scope with
  | some known => exact .inl ⟨known, rfl, by rw [getOrInsert, h]⟩
  | none => exact .inr ⟨rfl, by rw [getOrInsert, h]⟩

/-- A look-up only adds behind what is remembered. -/
lemma prefix_getOrInsert : cache <+: (cache.getOrInsert folder scope base).2 := by
  rcases cache.getOrInsert_cases folder scope base with ⟨known, -, h⟩ | ⟨-, h⟩
  · exact ⟨[], by rw [h, List.append_nil]⟩
  · exact ⟨[(key folder scope, base)], by rw [h]⟩

/-- The base that a look-up gives is remembered after it. -/
lemma get?_getOrInsert_self :
    (cache.getOrInsert folder scope base).2.get? folder scope =
      some (cache.getOrInsert folder scope base).1 := by
  rcases cache.getOrInsert_cases folder scope base with ⟨known, hknown, h⟩ | ⟨hnone, h⟩
  · rw [h, hknown]
  · rw [get?] at hnone
    simp [h, get?, List.lookup_append, hnone]

variable {cache folder scope base}

/-- What is added behind does not change what is remembered. -/
lemma get?_of_grows {cache' : FolderCache} (hgrows : cache <+: cache')
    (h : cache.get? folder scope = some base) : cache'.get? folder scope = some base := by
  obtain ⟨more, rfl⟩ := hgrows
  rw [get?] at h ⊢
  rw [List.lookup_append, h, Option.some_or]

/-- What is remembered once there is one base more was remembered before, or is that base. -/
lemma get?_concat_cases {folder' scope' : Text} {base' : Base}
    (hget : get? (cache ++ [(key folder' scope', base')]) folder scope = some base) :
    cache.get? folder scope = some base ∨
      (key folder scope = key folder' scope' ∧ base = base') := by
  rw [get?, List.lookup_append, Option.or_eq_some_iff] at hget
  rcases hget with hold | ⟨-, hnew⟩
  · exact .inl hold
  · obtain ⟨before, after, hentries, -⟩ := List.lookup_eq_some_iff.mp hnew
    have hmem : (key folder scope, base) ∈ [(key folder' scope', base')] := by simp [hentries]
    exact .inr (Prod.mk.inj (List.mem_singleton.mp hmem))

/-- No folder is remembered twice. -/
def DistinctKeys (cache : FolderCache) : Prop :=
  (cache.map Prod.fst).Nodup

/-- A look-up adds no folder that is remembered already. -/
lemma DistinctKeys.getOrInsert (h : cache.DistinctKeys) (folder scope : Text) (base : Base) :
    (cache.getOrInsert folder scope base).2.DistinctKeys := by
  rcases cache.getOrInsert_cases folder scope base with ⟨known, -, hfound⟩ | ⟨hnone, hfound⟩
  · rwa [hfound]
  · have hnew : key folder scope ∉ cache.map Prod.fst := by
      intro hmem
      obtain ⟨entry, hentry, hkey⟩ := List.mem_map.mp hmem
      have := List.lookup_eq_none_iff.mp hnone entry hentry
      simp [hkey] at this
    rw [hfound, DistinctKeys, List.map_append, List.map_singleton, ← List.concat_eq_append]
    exact h.concat hnew

end FolderCache

/-! ## Looking at a script -/

/-- **What the search for the folder of a script does**: there is none and nothing changes, or the
directory of the script is looked up.

**Proof sketch.** By whether the script has a directory, and whether it is a member of its
folder. -/
lemma detectFolder_cases (files : FileView) (rule : ScopeRule) (p : ScriptPath) (typeName : Text)
    (cache : FolderCache) :
    detectFolder files rule p typeName cache = (none, cache) ∨
      ∃ dir, p.parent? = some dir ∧ detectFolder files rule p typeName cache =
        (some { path := dir
                base := (cache.getOrInsert dir rule.scope (folderBase files rule dir)).1 },
          (cache.getOrInsert dir rule.scope (folderBase files rule dir)).2) := by
  unfold detectFolder
  cases p.parent? with
  | none => exact .inl rfl
  | some dir =>
    by_cases hmember : isFolderMember files rule p typeName dir = true
    · exact .inr ⟨dir, rfl, if_pos hmember⟩
    · exact .inl (if_neg hmember)

/-- **The base that is found for a folder is the one that is remembered for it**, and where no
folder is found nothing is added.

**Proof sketch.** Looking up a folder adds it at the end if it is not there, so what was remembered
for it before is remembered still, and after the look-up something is. -/
lemma detectFolder_remembered (files : FileView) (rule : ScopeRule) (p : ScriptPath)
    (typeName : Text) (cache : FolderCache) :
    ((detectFolder files rule p typeName cache).1 = none →
        (detectFolder files rule p typeName cache).2 = cache) ∧
      ∀ found, (detectFolder files rule p typeName cache).1 = some found →
        p.parent? = some found.path ∧
          (detectFolder files rule p typeName cache).2.get? found.path rule.scope =
            some found.base ∧
          ∀ base, cache.get? found.path rule.scope = some base → found.base = base := by
  rcases detectFolder_cases files rule p typeName cache with h | ⟨dir, hparent, h⟩
  · simp [h]
  · rw [h]
    refine ⟨by simp, fun found hfound => ?_⟩
    obtain rfl := Option.some.inj hfound
    have hself := cache.get?_getOrInsert_self dir rule.scope (folderBase files rule dir)
    refine ⟨hparent, hself, fun base hbase => ?_⟩
    -- What was remembered before the look-up is remembered after it.
    have hkept := FolderCache.get?_of_grows (cache.prefix_getOrInsert dir rule.scope
      (folderBase files rule dir)) hbase
    exact Option.some.inj (hself.symm.trans hkept)

/-- What is remembered after a script has been looked at: the same as before, or what a look-up of
one folder leaves, under the rule that its scope has. -/
inductive LooksUp (ctx : Context) (files : FileView) (cache : FolderCache) : FolderCache → Prop
  /-- No folder is looked up. -/
  | nothing : LooksUp ctx files cache cache
  /-- A folder is looked up. -/
  | folder (rule : ScopeRule) (dir : Text) (hrule : ctx.rule? rule.scope = some rule) :
    LooksUp ctx files cache (cache.getOrInsert dir rule.scope (folderBase files rule dir)).2

section

variable (ctx : Context) (files : FileView) (cache : FolderCache)

/-- A rule is found under its own scope. -/
lemma Context.rule?_scope {ctx : Context} {scope : Text} {rule : ScopeRule}
    (h : ctx.rule? scope = some rule) : ctx.rule? rule.scope = some rule := by
  have hscope : rule.scope = scope := by simpa using List.find?_some h
  rwa [hscope]

/-- Finding the type of a script looks up the folder of the first rule of its scope, if any. -/
lemma looksUp_resolveTarget (p : ScriptPath) (t : Text) :
    LooksUp ctx files cache (resolveTarget ctx files p t cache).2 := by
  unfold resolveTarget
  cases classify p ctx.rules with
  | none => exact .nothing
  | some c =>
    cases hrule : ctx.rule? c.scope with
    | none =>
      simp only [hrule]
      exact .nothing
    | some rule =>
      simp only [hrule, targetUnder]
      rcases detectFolder_cases files rule p c.typeName cache with h | ⟨dir, -, h⟩
      · rw [h]
        exact .nothing
      · rw [h]
        exact .folder rule dir (Context.rule?_scope hrule)

variable {ctx files} in
/-- What is remembered after a script whose path is known. -/
lemma snd_annotate_of_read {path : Text} {p : ScriptPath} (hread : ScriptPath.read path = .ok p)
    (t : Text) (cache : FolderCache) :
    (annotate ctx files path t cache).2 = (resolveTarget ctx files p t cache).2 := by
  simp only [annotate, readIdentifier, hread, fragmentsOf]
  split <;> rfl

/-- Annotation looks up at most one folder. -/
lemma looksUp_annotate (identifier t : Text) :
    LooksUp ctx files cache (annotate ctx files identifier t cache).2 := by
  cases hread : ScriptPath.read identifier with
  | error fault =>
    simp only [annotate, readIdentifier, hread]
    exact .nothing
  | ok p =>
    rw [snd_annotate_of_read hread]
    exact looksUp_resolveTarget ctx files cache p t

variable {ctx files cache} {cache' : FolderCache}

/-- Looking at a script only adds behind what is remembered. -/
lemma LooksUp.grows (h : LooksUp ctx files cache cache') : cache <+: cache' := by
  cases h with
  | nothing => exact List.prefix_refl _
  | folder rule dir hrule => exact cache.prefix_getOrInsert _ _ _

/-- Looking at a script adds no folder that is remembered already. -/
lemma LooksUp.distinctKeys (h : LooksUp ctx files cache cache') (hdistinct : cache.DistinctKeys) :
    cache'.DistinctKeys := by
  cases h with
  | nothing => exact hdistinct
  | folder rule dir hrule => exact hdistinct.getOrInsert _ _ _

end

/-! ## Scripts in folders -/

/-- The script that a path names is classified by a rule, and is in a folder under a name. -/
def InFolder (ctx : Context) (path folder : Text) (rule : ScopeRule) (name : Text) : Prop :=
  ∃ p c, ScriptPath.read path = .ok p ∧ classify p ctx.rules = some c ∧
    ctx.rule? c.scope = some rule ∧ p.parent? = some folder ∧ p.fileName = name

/-- If the script that a path names is a hub, its folder is remembered. -/
def Remembers (ctx : Context) (cache : FolderCache) (path : Text) : Prop :=
  ∀ folder rule name, InFolder ctx path folder rule name → rule.isHub name = true →
    (cache.get? folder rule.scope).isSome = true

section

variable {ctx : Context} {files : FileView} {path : Text} {p : ScriptPath}

/-- What is remembered stays so when a script is annotated. -/
lemma Remembers.annotate {cache : FolderCache} {path' : Text} (t : Text)
    (h : Remembers ctx cache path') : Remembers ctx (annotate ctx files path t cache).2 path' := by
  intro folder rule name hin hhub
  obtain ⟨base, hbase⟩ := Option.isSome_iff_exists.mp (h folder rule name hin hhub)
  rw [FolderCache.get?_of_grows (looksUp_annotate ctx files cache path t).grows hbase]
  rfl

/-- **A hub has its folder remembered once it has been annotated.** -/
lemma remembers_annotate (t : Text) (cache : FolderCache) :
    Remembers ctx (Gloss.annotate ctx files path t cache).2 path := by
  rintro folder rule name ⟨p, c, hread, hclass, hrule, hparent, rfl⟩ hhub
  have hmember : isFolderMember files rule p c.typeName folder = true := by
    rw [isFolderMember, hhub, Bool.true_or]
  rw [snd_annotate_of_read hread]
  simp only [resolveTarget, targetUnder, hclass, hrule, detectFolder, hparent, hmember, ↓reduceIte]
  rw [FolderCache.get?_getOrInsert_self]
  rfl

end

/-! ## What annotation asks of the files -/

section

variable {files files' : FileView} (hfile : ∀ q, files'.isFile q = files.isFile q)
  (hlist : ∀ q, files'.list q = files.list q)
include hfile hlist

/-- Whether a script belongs to a folder only depends on which files there are. -/
lemma isFolderMember_congr (rule : ScopeRule) (p : ScriptPath) (typeName dir : Text) :
    isFolderMember files' rule p typeName dir = isFolderMember files rule p typeName dir := by
  simp only [isFolderMember, holdsTypeFiles, hfile, hlist]

/-- The folder of a script depends on its hub files only as long as it is not remembered. -/
lemma detectFolder_congr {rule : ScopeRule} {p : ScriptPath} {cache : FolderCache}
    (hread : ∀ folder, p.parent? = some folder → cache.get? folder rule.scope = none →
      ∀ hub ∈ rule.hubs, files'.read? (joinPath folder hub) = files.read? (joinPath folder hub))
    (typeName : Text) :
    detectFolder files' rule p typeName cache = detectFolder files rule p typeName cache := by
  unfold detectFolder
  cases hparent : p.parent? with
  | none => rfl
  | some folder =>
    have hfound : cache.getOrInsert folder rule.scope (folderBase files' rule folder) =
        cache.getOrInsert folder rule.scope (folderBase files rule folder) := by
      unfold FolderCache.getOrInsert
      cases hget : cache.get? folder rule.scope with
      | some known => rfl
      | none =>
        have hcontents := List.filterMap_congr (hread folder hparent hget)
        simp only [folderBase, hcontents]
    simp only [isFolderMember_congr hfile hlist, hfound]

/-- **What annotation asks of the files**: which there are, and what the hub files of a folder hold
that is not remembered.

**Proof sketch.** Files are only asked for the folder of the script, whose base is read from the hub
files unless it is remembered. All else is a function of the text and the target. -/
lemma annotate_congr {ctx : Context} {path : Text} {cache : FolderCache}
    (hread : ∀ folder rule name, InFolder ctx path folder rule name →
      cache.get? folder rule.scope = none → ∀ hub ∈ rule.hubs,
        files'.read? (joinPath folder hub) = files.read? (joinPath folder hub)) (t : Text) :
    annotate ctx files' path t cache = annotate ctx files path t cache := by
  cases hpath : ScriptPath.read path with
  | error fault => simp only [annotate, readIdentifier, hpath]
  | ok p =>
    have hresolve : resolveTarget ctx files' p t cache = resolveTarget ctx files p t cache := by
      unfold resolveTarget
      cases hclass : classify p ctx.rules with
      | none => rfl
      | some c =>
        cases hrule : ctx.rule? c.scope with
        | none => simp only [hrule]
        | some rule =>
          have hdetect : detectFolder files' rule p c.typeName cache =
              detectFolder files rule p c.typeName cache :=
            detectFolder_congr hfile hlist (fun folder hparent hget =>
              hread folder rule _ ⟨p, c, hpath, hclass, hrule, hparent, rfl⟩ hget) c.typeName
          simp only [hrule, targetUnder, hdetect]
    simp only [annotate, readIdentifier, hpath, fragmentsOf, hresolve]

end

/-! ## Edits of a script -/

/-- The edits of a result of annotation, if there are any. -/
def someEdits? : Except AnnotateError (List Edit) → Option (List Edit)
  | .ok (e :: edits) => some (e :: edits)
  | _ => none

/-- Edits are only there if annotation succeeds. -/
lemma eq_ok_of_someEdits? {result : Except AnnotateError (List Edit)} {edits : List Edit}
    (h : someEdits? result = some edits) : result = .ok edits := by
  unfold someEdits? at h
  split at h
  · rw [Option.some.inj h]
  · simp at h

/-- Without its errors, annotation gives its edits if there are any. -/
lemma annotateQuietly_eq (ctx : Context) (files : FileView) (path t : Text) (cache : FolderCache) :
    annotateQuietly ctx files path t cache =
      (someEdits? (annotate ctx files path t cache).1, (annotate ctx files path t cache).2) := by
  unfold annotateQuietly
  rcases annotate ctx files path t cache with ⟨_ | edits, cache'⟩
  · rfl
  · cases edits <;> rfl

end Gloss
