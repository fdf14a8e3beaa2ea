import Gloss.Proofs.Scope.Folder
import Gloss.Proofs.Tree.Again
import Gloss.Session

/-!
# What a session remembers

Every request of a session looks up at most one folder, so what is remembered only grows at its end,
whatever is written to the files in between.

## Main results

* `looksUp_bindTree`: the pass over a tree looks up at most one folder.
* `Session.cache_perform`: what a request does to what is remembered.
* `Session.prefix_run`: what a session remembers only grows at its end.
* `Session.run_keeps_bases`: a base that is remembered stays the base of its folder.
-/

set_option relaxedAutoImplicit false
set_option autoImplicit false

namespace Gloss

/-- The pass over a tree looks up at most one folder. -/
lemma looksUp_bindTree (ctx : Context) (files : FileView) (cache : FolderCache) (tree : ScriptTree)
    (identifier t : Text) :
    LooksUp ctx files cache (bindTree ctx files tree identifier t cache).2.2 := by
  cases hread : ScriptPath.read identifier with
  | error fault =>
    simp only [bindTree, readIdentifier, hread]
    exact .nothing
  | ok p =>
    rw [bindTree_of_read ctx files tree hread]
    exact looksUp_resolveTarget ctx files cache p t

/-! ## Runs of a session -/

namespace Session

variable (ctx : Context) (s : Session)

/-- A step that annotates remembers what annotation does. -/
lemma cache_annotateStep (identifier : Text) (text : Option Text) (apply : Bool) :
    (s.annotateStep ctx identifier text apply).2.cache =
      (Gloss.annotate ctx s.files.view identifier (s.textOf identifier text) s.cache).2 := by
  simp only [annotateStep]
  rcases Gloss.annotate ctx s.files.view identifier (s.textOf identifier text) s.cache with
    ⟨_ | edits, cache⟩
  · rfl
  · cases apply with
    | false => rfl
    | true =>
      simp only [↓reduceIte]
      cases applyEdits (s.textOf identifier text) edits <;> rfl

/-- A step that binds a tree remembers what the pass does. -/
lemma cache_bindStep (identifier : Text) (text : Option Text) (quiet : Bool) :
    (s.bindStep ctx identifier text quiet).2.cache =
      (bindTree ctx s.files.view s.tree identifier (s.textOf identifier text) s.cache).2.2 := by
  unfold bindStep
  rcases bindTree ctx s.files.view s.tree identifier (s.textOf identifier text) s.cache with
    ⟨_ | report, tree, cache⟩ <;> rfl

/-- The search for the type of a script looks up at most one folder. -/
lemma looksUp_targetStep (identifier : Text) (text : Option Text) :
    LooksUp ctx s.files.view s.cache (s.targetStep ctx identifier text).2.cache := by
  unfold targetStep
  cases readIdentifier identifier with
  | error error => exact .nothing
  | ok p => exact looksUp_resolveTarget ctx s.files.view s.cache p (s.textOf identifier text)

/-- **What a request does to what is remembered.** Unless it forgets everything, nothing changes, or
one folder is looked up.

**Proof sketch.** By the request. Those that annotate, resolve a target or bind a tree look up one
folder at most, and the others leave what is remembered alone. -/
lemma cache_perform {step : SessionStep} (hstep : step ≠ .forget) :
    LooksUp ctx s.files.view s.cache (s.perform ctx step).2.cache ∨
      ∃ base folder scope,
        (s.perform ctx step).2.cache = (s.cache.getOrInsert folder scope base).2 := by
  cases step with
  | forget => exact absurd rfl hstep
  | remember base folder scope => exact .inr ⟨base, folder, scope, rfl⟩
  | annotate identifier text apply =>
    left
    rw [perform, cache_annotateStep]
    exact looksUp_annotate ctx s.files.view s.cache identifier _
  | target identifier text => exact .inl (looksUp_targetStep ctx s identifier text)
  | bind identifier text quiet =>
    left
    rw [perform, cache_bindStep]
    exact looksUp_bindTree ctx s.files.view s.cache s.tree identifier _
  | _ => exact .inl .nothing

/-- A request that does not forget only adds behind what is remembered. -/
lemma prefix_perform {step : SessionStep} (hstep : step ≠ .forget) :
    s.cache <+: (s.perform ctx step).2.cache := by
  rcases s.cache_perform ctx hstep with h | ⟨base, folder, scope, h⟩
  · exact h.grows
  · rw [h]
    exact s.cache.prefix_getOrInsert _ _ _

/-- A request that does not forget adds no folder that is remembered already. -/
lemma distinctKeys_perform {step : SessionStep} (hstep : step ≠ .forget)
    (hdistinct : s.cache.DistinctKeys) : (s.perform ctx step).2.cache.DistinctKeys := by
  rcases s.cache_perform ctx hstep with h | ⟨base, folder, scope, h⟩
  · exact h.distinctKeys hdistinct
  · rw [h]
    exact hdistinct.getOrInsert _ _ _

/-- **What a session remembers only grows at its end**, and no folder is remembered twice. -/
lemma prefix_run {steps : List SessionStep} (hkept : SessionStep.forget ∉ steps) :
    s.cache <+: (s.run ctx steps).cache ∧
      (s.cache.DistinctKeys → (s.run ctx steps).cache.DistinctKeys) := by
  induction steps generalizing s with
  | nil => exact ⟨List.prefix_refl _, id⟩
  | cons step steps ih =>
    obtain ⟨hstep, hsteps⟩ := not_or.mp (mt List.mem_cons.mpr hkept)
    obtain ⟨hgrows, hdistinct⟩ := ih (s.perform ctx step).2 hsteps
    exact ⟨(s.prefix_perform ctx (Ne.symm hstep)).trans hgrows,
      fun h => hdistinct (s.distinctKeys_perform ctx (Ne.symm hstep) h)⟩

end Session

/-- **A base that is remembered stays the base of its folder.** In a session that does not forget,
what is remembered for a folder and a scope at one point is remembered at every later point, and the
number of folders that are remembered never goes down. At a later point, whatever the files hold by
then, a script without a folder adds nothing; and a script with a folder has the base that is
remembered for it.

**Proof sketch.** Every step that does not forget extends what is remembered at its end, so a whole
run does, by induction on the steps. What was remembered is found first, and a script with a folder
gets what is found. -/
theorem Session.run_keeps_bases (ctx : Context) (s : Session) {steps : List SessionStep}
    (hkept : SessionStep.forget ∉ steps) :
    (∀ folder scope base, s.cache.get? folder scope = some base →
        (s.run ctx steps).cache.get? folder scope = some base) ∧
      (s.cache.length ≤ (s.run ctx steps).cache.length ∧
        (s.cache.DistinctKeys → (s.run ctx steps).cache.DistinctKeys)) ∧
      ∀ (files : FileView) (rule : ScopeRule) (p : ScriptPath) (typeName : Text),
        ((detectFolder files rule p typeName (s.run ctx steps).cache).1 = none →
          (detectFolder files rule p typeName (s.run ctx steps).cache).2 =
            (s.run ctx steps).cache) ∧
        ∀ found, (detectFolder files rule p typeName (s.run ctx steps).cache).1 = some found →
          p.parent? = some found.path ∧
            (detectFolder files rule p typeName (s.run ctx steps).cache).2.get? found.path
              rule.scope = some found.base ∧
            ∀ base, s.cache.get? found.path rule.scope = some base → found.base = base := by
  obtain ⟨hgrows, hdistinct⟩ := s.prefix_run ctx hkept
  have hstays : ∀ folder scope base, s.cache.get? folder scope = some base →
      (s.run ctx steps).cache.get? folder scope = some base :=
    fun folder scope base h => FolderCache.get?_of_grows hgrows h
  refine ⟨hstays, ⟨hgrows.length_le, hdistinct⟩, fun files rule p typeName => ?_⟩
  obtain ⟨hnone, hsome⟩ := detectFolder_remembered files rule p typeName (s.run ctx steps).cache
  refine ⟨hnone, fun found hfound => ?_⟩
  obtain ⟨hparent, hheld, hbefore⟩ := hsome found hfound
  exact ⟨hparent, hheld, fun base hbase => hbefore base (hstays _ _ base hbase)⟩

/-- The session after the hub of a folder has been written and looked at. -/
def lampSession (ctx : Context) : Session :=
  Session.run { files := [], cache := [], tree := tableTree [] [] } ctx
    [.write "lua/entities/lamp/init.lua".toList "ENT.Base = 'base_anim'".toList,
      .target "lua/entities/lamp/init.lua".toList none]

/-- Requests that write another base to the hub, and that give one for another spelling of the
folder. -/
def lampRewrites : List SessionStep :=
  [.write "lua/entities/lamp/init.lua".toList "ENT.Base = 'base_ai'".toList,
    .remember (.literal "other".toList) "Lua/Entities/Lamp".toList "ENT".toList]

/-- A script of the folder, which is spelled otherwise than its hub. -/
def lampClient : ScriptPath :=
  ⟨"lua/entities/LAMP/cl_init.lua".toList, by decide +kernel⟩

/-- The first base of a folder stays, though its hub is written anew and another base is given. -/
theorem Session.run_keeps_bases_rewritten_hub :
    ∃ ctx, Context.ofSettings Settings.default = .ok ctx ∧ SessionStep.forget ∉ lampRewrites ∧
      (lampSession ctx).cache.get? "lua/entities/lamp".toList "ENT".toList =
        some (.literal "base_anim".toList) ∧
      ((lampSession ctx).run ctx lampRewrites).files.read? "lua/entities/lamp/init.lua".toList =
        some "ENT.Base = 'base_ai'".toList ∧
      ((lampSession ctx).run ctx lampRewrites).cache.get? "lua/entities/lamp".toList
        "ENT".toList = some (.literal "base_anim".toList) ∧
      ∃ rule found, ctx.rule? "ENT".toList = some rule ∧
        (detectFolder ((lampSession ctx).run ctx lampRewrites).files.view rule lampClient
          "lamp".toList ((lampSession ctx).run ctx lampRewrites).cache).1 = some found ∧
        found.base = .literal "base_anim".toList := by
  obtain ⟨ctx, hctx⟩ := Context.exists_default
  have hcheck := Context.check_of_default (fun ctx =>
    let later := (lampSession ctx).run ctx lampRewrites
    (lampSession ctx).cache.get? "lua/entities/lamp".toList "ENT".toList ==
        some (.literal "base_anim".toList) &&
      later.files.read? "lua/entities/lamp/init.lua".toList ==
        some "ENT.Base = 'base_ai'".toList &&
      (ctx.rule? "ENT".toList).any fun rule =>
        (detectFolder later.files.view rule lampClient "lamp".toList later.cache).1.isSome)
    hctx (by decide +kernel)
  simp only [Bool.and_eq_true, beq_iff_eq, Option.any_eq_true, Option.isSome_iff_exists] at hcheck
  obtain ⟨⟨hbefore, hwritten⟩, rule, hrule, found, hfound⟩ := hcheck
  have hkept : SessionStep.forget ∉ lampRewrites := by decide
  obtain ⟨hstays, -, hdetect⟩ := Session.run_keeps_bases ctx (lampSession ctx) hkept
  obtain ⟨hparent, -, hbase⟩ := (hdetect _ rule lampClient "lamp".toList).2 found hfound
  refine ⟨ctx, hctx, hkept, hbefore, hwritten, hstays _ _ _ hbefore, rule, found, hrule, hfound,
    hbase _ ?_⟩
  have hpath : found.path = "lua/entities/LAMP".toList := (Option.some.inj hparent).symm
  have hscope : rule.scope = "ENT".toList := by simpa using List.find?_some hrule
  -- Both spellings of the folder are remembered under the same key.
  have hkey : FolderCache.key "lua/entities/LAMP".toList "ENT".toList =
      FolderCache.key "lua/entities/lamp".toList "ENT".toList := by decide +kernel
  rw [hscope, hpath, FolderCache.get?, hkey]
  exact hbefore

end Gloss
