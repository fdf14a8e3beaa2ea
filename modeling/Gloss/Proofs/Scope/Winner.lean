import Gloss.Proofs.Annotate.Default
import Gloss.Proofs.Annotate.Settled
import Gloss.Proofs.Tree.Attachment

/-!
# The rule that is used for a script

The path of a script is classified by the rule whose folder wins, but only the scope of that rule is
handed on: the type of the script and its fields are worked out with the first rule of that scope.
Both are the same rule as long as every scope has one rule. If a scope has several, for several
folders, they have the same pattern for the assignment of a base, while the hubs, the satellites and
the initialisation methods of the later ones do not count.

## Main results

* `ScopeRule.baseAssignment_eq_of_scope_eq`: rules of one scope read the same assignments of a base.
* `flatMap_fieldsInMethod_eq_iff`: trees tell methods apart.
* `resolveTarget_uses_first_rule`: the first rule of a scope is used, and when it does as the
  winner.
-/

set_option relaxedAutoImplicit false
set_option autoImplicit false

namespace Gloss

/-! ## Rules of one scope -/

/-- What a rule has from the settings of its scope. -/
lemma ScopeRule.fields_of_ofSettings {template : Text} {s : ScopeSettings} {rule : ScopeRule}
    (h : ScopeRule.ofSettings template s = .ok rule) :
    rule.scope = s.name ∧ rule.folder = folderSegments s.folder ∧ rule.folder ≠ [] ∧
      readSettingsPattern "patterns.base_assignment".toList
        (fillTemplate "\x7bscope\x7d".toList template s.name) = .ok rule.baseAssignment := by
  unfold ofSettings at h
  split at h
  · simp [throw, throwThe, MonadExceptOf.throw, bind, Except.bind] at h
  · simp only at h
    split at h
    · simp [throw, throwThe, MonadExceptOf.throw, bind, Except.bind] at h
    · next hfolder =>
      simp only [bind_eq_ok_iff] at h
      obtain ⟨satellites, -, assignment, hassignment, hrule⟩ := h
      obtain rfl := Except.ok.inj hrule
      exact ⟨rfl, rfl, by simpa using hfolder, hassignment⟩

/-- Every rule is that of a scope of the settings. -/
lemma ScopeRule.exists_ofSettings_of_mem {template : Text} {scopes : List ScopeSettings}
    {rules : List ScopeRule} (h : scopes.mapM (ScopeRule.ofSettings template) = .ok rules)
    {rule : ScopeRule} (hrule : rule ∈ rules) :
    ∃ s ∈ scopes, ScopeRule.ofSettings template s = .ok rule := by
  induction scopes generalizing rules with
  | nil =>
    obtain rfl : [] = rules := Except.ok.inj h
    simp at hrule
  | cons s scopes ih =>
    rw [List.mapM_cons] at h
    simp only [bind_eq_ok_iff] at h
    obtain ⟨first, hfirst, more, hmore, hrules⟩ := h
    obtain rfl := Except.ok.inj hrules
    rcases List.mem_cons.mp hrule with rfl | hrule
    · exact ⟨s, by simp, hfirst⟩
    · obtain ⟨s', hs', hread⟩ := ih hmore hrule
      exact ⟨s', by simp [hs'], hread⟩

/-- **Rules of one scope read the same assignments of a base**, since their patterns come from one
template and the name of the scope. -/
lemma ScopeRule.baseAssignment_eq_of_scope_eq {s : Settings} {rules : List ScopeRule}
    (h : ScopeRule.allOfSettings s = .ok rules) {rule other : ScopeRule} (hrule : rule ∈ rules)
    (hother : other ∈ rules) (hscope : rule.scope = other.scope) :
    rule.baseAssignment = other.baseAssignment := by
  obtain ⟨s₁, -, h₁⟩ := exists_ofSettings_of_mem h hrule
  obtain ⟨s₂, -, h₂⟩ := exists_ofSettings_of_mem h hother
  obtain ⟨hname₁, -, -, hread₁⟩ := fields_of_ofSettings h₁
  obtain ⟨hname₂, -, -, hread₂⟩ := fields_of_ofSettings h₂
  rw [← hname₁, hscope, hname₂, hread₂] at hread₁
  exact (Except.ok.inj hread₁).symm

/-! ## The type of a script under a rule -/

/-- Rules of one scope that read the same assignments give a script the same type iff they find the
same folder for it. -/
lemma targetUnder_eq_iff {rule other : ScopeRule} (hscope : rule.scope = other.scope)
    (hassignment : rule.baseAssignment = other.baseAssignment) {files : FileView} {p : ScriptPath}
    {typeName t : Text} {cache : FolderCache} :
    targetUnder rule files p typeName t cache = targetUnder other files p typeName t cache ↔
      detectFolder files rule p typeName cache = detectFolder files other p typeName cache := by
  constructor
  · intro h
    simp only [targetUnder, Prod.mk.injEq, Option.some.injEq, ScopeTarget.mk.injEq] at h
    exact Prod.ext h.1.2.2.2 h.2
  · intro h
    simp only [targetUnder, h, hscope, hassignment]

/-- The winner is one of the rules. -/
lemma rule_mem_of_bestCandidate? {p : ScriptPath} {rules : List ScopeRule} {best : Candidate}
    (h : bestCandidate? p rules = some best) : best.rule ∈ rules := by
  obtain ⟨rule, hrule, hcandidate⟩ := List.mem_filterMap.mp
    ((mem_of_foldl_better h).resolve_right (by simp))
  obtain ⟨stop, -, rfl⟩ := Option.map_eq_some_iff.mp hcandidate
  exact hrule

/-- The type of a script is worked out with the first rule of the scope that has won. -/
lemma resolveTarget_eq_targetUnder {ctx : Context} {p : ScriptPath} {best : Candidate}
    (hbest : bestCandidate? p ctx.rules = some best) {first : ScopeRule}
    (hfirst : ctx.rule? best.rule.scope = some first) (files : FileView) (t : Text)
    (cache : FolderCache) :
    resolveTarget ctx files p t cache =
      targetUnder first files p (typeNameAfter p best.stop) t cache := by
  have hscope : first.scope = best.rule.scope := by simpa using List.find?_some hfirst
  simp only [resolveTarget, classify, hbest, Option.map_some, hfirst, targetUnder, hscope]

/-! ## The fields of methods -/

/-- The fields of a tree are those of the methods of the first rule. -/
lemma treeFields_of_rule? {ctx : Context} {scope : Text} {first : ScopeRule}
    (hfirst : ctx.rule? scope = some first) (tree : ScriptTree) :
    treeFields ctx tree scope = first.initMethods.flatMap (fieldsInMethod ctx tree scope) := by
  rw [treeFields, Context.initMethods, hfirst, Option.map_some, Option.getD_some]

/-- A tree in which every method declares one field, and the method `method` another one than all
others. -/
def probeTree (method : Text) : ScriptTree where
  declaration? _ := none
  body? _ m := some (if m = method then 0 else 1)
  callsIn node _ :=
    [{ receiver := none
       arguments := if node = 0 then "'Int', 'Here'".toList else "'Int', 'There'".toList }]
  docs := []

/-- The field of a method in such a tree. -/
lemma fieldsInMethod_probeTree (ctx : Context) (scope method m : Text) :
    fieldsInMethod ctx (probeTree method) scope m =
      [.plain ['I', 'n', 't'] (if m = method then "Here".toList else "There".toList)] := by
  have hone : ∀ {arguments field}, NetworkField.ofArguments? arguments = some field →
      [{ receiver := none, arguments := arguments }].filterMap (TreeCall.field? scope) =
        [field] := by
    intro arguments field h
    have hfield : TreeCall.field? scope { receiver := none, arguments := arguments } = some field :=
      h
    rw [List.filterMap_cons, hfield, List.filterMap_nil]
  have hcalls : (probeTree method).callsOf scope m ctx.networkMethod =
      (probeTree method).callsIn (if m = method then 0 else 1) ctx.networkMethod := rfl
  by_cases hm : m = method
  · rw [fieldsInMethod, hcalls, if_pos hm, if_pos hm]
    exact hone (by decide +kernel)
  · rw [fieldsInMethod, hcalls, if_neg hm, if_neg hm]
    exact hone (by decide +kernel)

/-- **Trees tell methods apart**: two lists of methods declare the same fields in every tree only if
they are the same.

**Proof sketch.** Induction on the methods. In a tree in which each method has one field, and the
first method has one of another name, the first fields tell whether the first methods are the
same. -/
lemma flatMap_fieldsInMethod_eq_iff {ctx : Context} {scope : Text} {methods methods' : List Text} :
    (∀ tree, methods.flatMap (fieldsInMethod ctx tree scope) =
        methods'.flatMap (fieldsInMethod ctx tree scope)) ↔
      methods = methods' := by
  refine ⟨fun h => ?_, fun h tree => by rw [h]⟩
  induction methods generalizing methods' with
  | nil =>
    cases methods' with
    | nil => rfl
    | cons m' methods' =>
      have := h (probeTree [])
      simp [fieldsInMethod_probeTree] at this
  | cons m methods ih =>
    cases methods' with
    | nil =>
      have := h (probeTree [])
      simp [fieldsInMethod_probeTree] at this
    | cons m' methods' =>
      -- The tree that tells `m` from all others shows that the first methods agree.
      have hfirst := h (probeTree m)
      rw [List.flatMap_cons, List.flatMap_cons, fieldsInMethod_probeTree, fieldsInMethod_probeTree,
        if_pos rfl] at hfirst
      have hsame : m' = m := by
        by_contra hne
        rw [if_neg hne] at hfirst
        have hname := (NetworkField.plain.inj (List.cons.inj hfirst).1).2
        exact absurd hname (by decide)
      subst hsame
      refine congrArg (m' :: ·) (ih fun tree => ?_)
      exact List.append_cancel_left (h tree)

/-! ## The first rule and the winner -/

/-- **The first rule of a scope is used.** The type of a script is worked out with the first rule of
the scope that has won, and so are the fields of a tree, whose lines the pass over it attaches. Both
rules read the same assignments of a base; so the type is that under the winner iff both rules find
the same folder for the script, and the fields are those of the winner's methods in every tree iff
both rules have the same methods.

**Proof sketch.** Classifying a path hands on the scope of the winner only, and the rules are
searched for it from the front. Rules of one scope have their pattern for the assignment of a base
from one template, so only the folder can differ; and a tree in which one method declares another
field than all others tells lists of methods apart. -/
theorem resolveTarget_uses_first_rule {s : Settings} {ctx : Context} {p : ScriptPath}
    {best : Candidate} (hrules : ScopeRule.allOfSettings s = .ok ctx.rules)
    (hbest : bestCandidate? p ctx.rules = some best) :
    ∃ first, ctx.rules.find? (fun rule => rule.scope == best.rule.scope) = some first ∧
      (∀ t, declaredBase? first.baseAssignment t = declaredBase? best.rule.baseAssignment t) ∧
      (∀ files t cache,
        resolveTarget ctx files p t cache =
          targetUnder first files p (typeNameAfter p best.stop) t cache ∧
        (resolveTarget ctx files p t cache =
            targetUnder best.rule files p (typeNameAfter p best.stop) t cache ↔
          detectFolder files first p (typeNameAfter p best.stop) cache =
            detectFolder files best.rule p (typeNameAfter p best.stop) cache)) ∧
      (∀ tree target node, tree.declaration? target.scope = some node →
        bindTarget ctx tree target =
          ({ (Attacher.pass ctx tree target node).report with target := some target },
            (Attacher.pass ctx tree target node).tree)) ∧
      (∀ tree, treeFields ctx tree best.rule.scope =
        first.initMethods.flatMap (fieldsInMethod ctx tree best.rule.scope)) ∧
      ((∀ tree, treeFields ctx tree best.rule.scope =
          best.rule.initMethods.flatMap (fieldsInMethod ctx tree best.rule.scope)) ↔
        first.initMethods = best.rule.initMethods) := by
  have hwinner := rule_mem_of_bestCandidate? hbest
  obtain ⟨first, hfirst⟩ : ∃ first, ctx.rule? best.rule.scope = some first := by
    rw [← Option.isSome_iff_exists, Context.rule?, List.find?_isSome]
    exact ⟨best.rule, hwinner, by simp⟩
  have hscope : first.scope = best.rule.scope := by simpa using List.find?_some hfirst
  have hassignment : first.baseAssignment = best.rule.baseAssignment :=
    ScopeRule.baseAssignment_eq_of_scope_eq hrules (List.mem_of_find?_eq_some hfirst) hwinner hscope
  refine ⟨first, hfirst, fun t => by rw [hassignment], fun files t cache => ?_,
    fun _ _ _ => bindTarget_of_declaration ctx, treeFields_of_rule? hfirst, ?_⟩
  · rw [resolveTarget_eq_targetUnder hbest hfirst]
    exact ⟨rfl, targetUnder_eq_iff hscope hassignment⟩
  · simp only [treeFields_of_rule? hfirst]
    exact flatMap_fieldsInMethod_eq_iff

/-- Settings in which one scope has two folders, the second with hubs and initialisation methods of
its own. -/
def twoFolderSettings : Settings :=
  { scopes := [{ name := "ENT".toList, folder := "entities".toList },
      { name := "ENT".toList, folder := "npcs".toList, hubs := ["main.lua".toList],
        initMethods := ["SetupNpc".toList] }] }

/-- The hub that only the winning rule has does not count, and neither do its initialisation
methods. -/
theorem resolveTarget_misses_second_folder :
    ∃ ctx p best, Context.ofSettings twoFolderSettings = .ok ctx ∧
      ScriptPath.read "lua/npcs/zombie/sh_ai.lua".toList = .ok p ∧
      bestCandidate? p ctx.rules = some best ∧ best.rule.hubs = ["main.lua".toList] ∧
      resolveTarget ctx (FileMap.ofList [("lua/npcs/zombie/main.lua".toList,
          "ENT.Base = 'npc_base'".toList)]).view p [] [] ≠
        targetUnder best.rule (FileMap.ofList [("lua/npcs/zombie/main.lua".toList,
          "ENT.Base = 'npc_base'".toList)]).view p (typeNameAfter p best.stop) [] [] ∧
      ∃ tree, treeFields ctx tree best.rule.scope ≠
        best.rule.initMethods.flatMap (fieldsInMethod ctx tree best.rule.scope) := by
  have hcheck : ((Context.ofSettings twoFolderSettings).toOption.any fun ctx =>
      (ScriptPath.read "lua/npcs/zombie/sh_ai.lua".toList).toOption.any fun p =>
        (bestCandidate? p ctx.rules).any fun best =>
          (ctx.rules.find? fun rule => rule.scope == best.rule.scope).any fun first =>
            best.rule.hubs == ["main.lua".toList] &&
            first.initMethods != best.rule.initMethods &&
            detectFolder (FileMap.ofList [("lua/npcs/zombie/main.lua".toList,
                "ENT.Base = 'npc_base'".toList)]).view first p (typeNameAfter p best.stop) [] !=
              detectFolder (FileMap.ofList [("lua/npcs/zombie/main.lua".toList,
                "ENT.Base = 'npc_base'".toList)]).view best.rule p (typeNameAfter p best.stop) []) =
      true := by
    decide +kernel
  generalize hresult : Context.ofSettings twoFolderSettings = result at hcheck
  cases result with
  | error fault => simp [Except.toOption] at hcheck
  | ok ctx =>
    generalize hread : ScriptPath.read "lua/npcs/zombie/sh_ai.lua".toList = read at hcheck
    cases read with
    | error fault => simp [Except.toOption] at hcheck
    | ok p =>
      simp only [Except.toOption, Option.any_some, Option.any_eq_true, Bool.and_eq_true,
        beq_iff_eq, bne_iff_ne] at hcheck
      obtain ⟨best, hbest, first, hfirst, ⟨hhubs, hmethods⟩, hdetect⟩ := hcheck
      obtain ⟨first', hfirst', -, htarget, -, -, hfields⟩ :=
        resolveTarget_uses_first_rule (Context.fields_of_ofSettings hresult).1 hbest
      obtain rfl := Option.some.inj (hfirst.symm.trans hfirst')
      refine ⟨ctx, p, best, rfl, rfl, hbest, hhubs, ?_, ?_⟩
      · exact fun heq => hdetect ((htarget _ _ _).2.mp heq)
      · by_contra hall
        exact hmethods (hfields.mp (not_exists_not.mp hall))

end Gloss
