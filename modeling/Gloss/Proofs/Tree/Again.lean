import Gloss.Proofs.Tree.Attachment

/-!
# A second pass over a tree

After a pass over a tree the declaration of the scope's table declares the class and has the lines
of all fields, whatever it had before. So a second pass only counts, and leaves the tree as it is.

## Main definitions

* `Context.TypesTrimmed`: the types of networked fields are not empty and have no white space at
  their ends.

## Main results

* `Attacher.pass_again`: nothing is attached to a node that has been through a pass.
* `bindTree_again`: a second pass leaves the tree as it is.
-/

set_option relaxedAutoImplicit false
set_option autoImplicit false

namespace Gloss

open Text

/-- The types of networked fields are not empty and have no white space at their ends. -/
def Context.TypesTrimmed (ctx : Context) : Prop :=
  ∀ type ∈ ctx.untyped :: ctx.types.network.map Prod.snd, type ≠ [] ∧ trim type = type

/-- Whether the types are trimmed can be decided. -/
instance (ctx : Context) : Decidable ctx.TypesTrimmed :=
  inferInstanceAs (Decidable (∀ type ∈ ctx.untyped :: ctx.types.network.map Prod.snd, _))

/-- The types of the default settings have no white space at their ends. -/
lemma Context.typesTrimmed_of_default {ctx : Context}
    (h : Context.ofSettings Settings.default = .ok ctx) : ctx.TypesTrimmed := by
  have htypes : ∀ type ∈ Settings.default.untyped :: Settings.default.types.network.map Prod.snd,
      type ≠ [] ∧ trim type = type := by decide +kernel
  obtain ⟨-, hfields, huntyped⟩ := Context.fields_of_ofSettings h
  rwa [TypesTrimmed, hfields, huntyped]

section

variable {ctx : Context} (tree : ScriptTree) {target : ScopeTarget}

/-- The type of a networked field is one of the types of the context. -/
lemma Context.networkType_mem (ctx : Context) (tag : Text) :
    ctx.networkType tag ∈ ctx.untyped :: ctx.types.network.map Prod.snd := by
  unfold networkType
  cases h : ctx.types.network.lookup tag with
  | none => exact List.mem_cons_self
  | some type =>
    obtain ⟨before, after, hentries, -⟩ := List.lookup_eq_some_iff.mp h
    refine List.mem_cons_of_mem _ (List.mem_map.mpr ⟨(tag, type), ?_, rfl⟩)
    simp [hentries]

/-- The line of a setter has no white space at its ends. -/
lemma trim_setterLine (name owner value : Text) :
    trim (setterLine name owner value) = setterLine name owner value := by
  unfold setterLine
  refine trim_of_ends ?_ ?_
  · simp only [List.append_assoc]
    exact isBlank_head?_append (c := '-') (by decide) (by decide) _
  · intro c hc
    rw [List.getLast?_concat, Option.mem_some] at hc
    exact hc ▸ (by decide)

/-- The line of a getter has no white space at its ends if its type has none. -/
lemma trim_getterLine (name owner : Text) {value : Text} (hne : value ≠ [])
    (htrim : trim value = value) :
    trim (getterLine name owner value) = getterLine name owner value := by
  unfold getterLine
  refine trim_of_ends ?_ ?_
  · simp only [List.append_assoc]
    exact isBlank_head?_append (c := '-') (by decide) (by decide) _
  · rw [List.getLast?_append_of_ne_nil _ hne]
    exact isBlank_getLast?_of_trim htrim

/-- The lines of a networked field have no white space at their ends. -/
lemma NetworkField.trim_of_mem_lines (htypes : ctx.TypesTrimmed) (owner : Text)
    (field : NetworkField) : ∀ line ∈ field.lines ctx owner, trim line = line := by
  obtain ⟨hne, htrim⟩ := htypes _ (ctx.networkType_mem field.declared)
  have hlines : field.lines ctx owner =
      [setterLine field.name owner (ctx.networkType field.declared),
        getterLine field.name owner (ctx.networkType field.declared)] := rfl
  rw [hlines]
  exact List.forall_mem_cons.mpr ⟨trim_setterLine _ _ _,
    List.forall_mem_singleton.mpr (trim_getterLine _ _ hne htrim)⟩

/-- A node that has been through a pass declares the class, and has the lines of all fields. -/
lemma Attacher.has_pass (htypes : ctx.TypesTrimmed)
    (hname : ∀ c ∈ target.typeName, isBlank c = false)
    (hlast : target.typeName.getLast? ≠ some ':') (node : Node) :
    (∃ l ∈ (pass ctx tree target node).existing, declaresClass target.typeName l = true) ∧
      ∀ line ∈ (treeFields ctx tree target.scope).flatMap (NetworkField.lines ctx target.typeName),
        (pass ctx tree target node).Has line := by
  constructor
  · obtain ⟨l, hl, hdeclares⟩ := exists_declaresClass_attachClass (start tree node) hname hlast
    exact ⟨l, (existing_prefix_foldl_attach _ _).subset hl, hdeclares⟩
  · refine has_foldl_attach _ fun line hline => ?_
    obtain ⟨field, -, hline⟩ := List.mem_flatMap.mp hline
    exact field.trim_of_mem_lines htypes _ line hline

/-- A pass over a tree leaves the fields of the tree as they are. -/
lemma Attacher.InStep.treeFields_eq {a : Attacher} {node : Node} (h : InStep tree node a)
    (ctx : Context) (scope : Text) : treeFields ctx a.tree scope = treeFields ctx tree scope := by
  have hmethods : fieldsInMethod ctx a.tree scope = fieldsInMethod ctx tree scope := by
    funext method
    rw [fieldsInMethod, h.callsOf_eq, fieldsInMethod]
  rw [treeFields, hmethods, treeFields]

/-- **Nothing is attached to a node that has been through a pass**: the class and two lines for each
field are counted.

**Proof sketch.** After the first pass the copy is what the node has in the tree, so the second pass
starts with it. It declares the class and has the lines of all fields, and these are the fields of
the tree at first. -/
lemma Attacher.pass_again (htypes : ctx.TypesTrimmed)
    (hname : ∀ c ∈ target.typeName, isBlank c = false)
    (hlast : target.typeName.getLast? ≠ some ':') (node : Node) {again : ScopeTarget}
    (hsame : again.classification = target.classification) :
    pass ctx (pass ctx tree target node).tree again node =
      { start (pass ctx tree target node).tree node with
        report :=
          { declarationFound := true
            alreadyPresent := 1 + 2 * fieldCount ctx tree target.scope } } := by
  obtain ⟨⟨l, hl, hdeclares⟩, hlines⟩ := has_pass tree htypes hname hlast node
  have hstep := inStep_pass ctx tree target node
  generalize pass ctx tree target node = done at *
  simp only [ScopeTarget.classification, Classification.mk.injEq] at hsame
  obtain ⟨hscope, htype⟩ := hsame
  have hcopy : (start done.tree node).existing = done.existing := hstep.docsOf_eq
  have hclass : (start done.tree node).attachClass again = (start done.tree node).count := by
    rw [attachClass, htype, hcopy, if_pos (List.any_eq_true.mpr ⟨l, hl, hdeclares⟩)]
  have hhas : ∀ line ∈ (treeFields ctx tree target.scope).flatMap
      (NetworkField.lines ctx target.typeName), (start done.tree node).count.Has line := by
    intro line hline
    obtain ⟨l, hl, htrim⟩ := hlines line hline
    exact ⟨l, hcopy ▸ hl, htrim⟩
  rw [pass, hclass, hscope, htype, hstep.treeFields_eq, foldl_attach_of_has hhas,
    length_flatMap_lines, length_treeFields]
  rfl

/-- The report names the type. -/
lemma target_bindTarget : (bindTarget ctx tree target).1.target = some target := by
  unfold bindTarget
  split <;> rfl

/-- A second pass over a tree for a type of the same name and scope. -/
lemma bindTarget_again (htypes : ctx.TypesTrimmed)
    (hname : ∀ c ∈ target.typeName, isBlank c = false)
    (hlast : target.typeName.getLast? ≠ some ':') {again : ScopeTarget}
    (hsame : again.classification = target.classification) :
    bindTarget ctx (bindTarget ctx tree target).2 again =
      ({ target := some again
         declarationFound := (bindTarget ctx tree target).1.declarationFound
         attached := []
         alreadyPresent := if (bindTarget ctx tree target).1.declarationFound then
            1 + 2 * fieldCount ctx tree target.scope else 0 },
        (bindTarget ctx tree target).2) := by
  have hscope : again.scope = target.scope := congrArg Classification.scope hsame
  cases hnode : tree.declaration? target.scope with
  | none => simp [bindTarget, hscope, hnode]
  | some node =>
    have hagain := Attacher.pass_again tree htypes hname hlast node hsame
    have hstep := Attacher.inStep_pass ctx tree target node
    have hnode₂ : (Attacher.pass ctx tree target node).tree.declaration? again.scope =
        some node := by
      rw [hscope, hstep.declaration?_eq, hnode]
    rw [bindTarget_of_declaration ctx hnode, bindTarget_of_declaration ctx hnode₂, hagain]
    simp only [hstep.found, if_true]
    rfl

end

/-- **A second pass leaves the tree as it is.** After a pass that succeeds, a second pass for the
same script succeeds, attaches nothing and changes no documentation, whatever the tree held at first
and whatever has become of the files in between. Where the scope's table is declared, the class and
two lines for each call that declares a field are counted.

**Proof sketch.** The scope and the name of the type follow from the path alone, so both passes have
them in common. After the first pass the table has all lines of the second: those that were
attached, and those that it had. So the second pass counts each and attaches none. -/
theorem bindTree_again {ctx : Context} (htypes : ctx.TypesTrimmed) {files : FileView}
    {tree tree' : ScriptTree} {identifier t : Text} {cache cache' : FolderCache}
    {report : BindReport}
    (hbind : bindTree ctx files tree identifier t cache = (.ok report, tree', cache'))
    (hname : ∀ target ∈ report.target, (∀ c ∈ target.typeName, isBlank c = false) ∧
      target.typeName.getLast? ≠ some ':') (files₂ : FileView) (cache₂ : FolderCache) :
    ∃ again cache₃, bindTree ctx files₂ tree' identifier t cache₂ = (.ok again, tree', cache₃) ∧
      again.attached = [] ∧ again.declarationFound = report.declarationFound ∧
      ∀ target ∈ report.target, report.declarationFound = true →
        again.alreadyPresent = 1 + 2 * fieldCount ctx tree target.scope := by
  obtain ⟨p, hread⟩ := exists_read_of_bindTree (congrArg Prod.fst hbind)
  rw [bindTree_of_read ctx files tree hread t cache] at hbind
  simp only [Prod.mk.injEq, Except.ok.injEq] at hbind
  obtain ⟨rfl, rfl, -⟩ := hbind
  -- Both passes are for the type that the path names, so they find the same table and the same
  -- name.
  have hsame := (resolveTarget_map_eq ctx files₂ p t cache₂).trans
    (resolveTarget_map_eq ctx files p t cache).symm
  rw [bindTree_of_read ctx files₂ _ hread t cache₂]
  cases htarget : (resolveTarget ctx files p t cache).1 with
  | none =>
    rw [htarget, Option.map_none, Option.map_eq_none_iff] at hsame
    rw [hsame]
    exact ⟨_, _, rfl, rfl, rfl, by simp [bindResolved]⟩
  | some target =>
    rw [htarget, Option.map_some, Option.map_eq_some_iff] at hsame
    obtain ⟨again, hagain, hsame⟩ := hsame
    have hreport : (bindResolved ctx tree (some target)).1.target = some target :=
      target_bindTarget tree
    rw [htarget] at hname
    obtain ⟨hname, hlast⟩ := hname target hreport
    rw [hagain]
    simp only [bindResolved, bindTarget_again tree htypes hname hlast hsame]
    refine ⟨_, _, rfl, rfl, rfl, fun found hfound hdeclared => ?_⟩
    obtain rfl : target = found := Option.some.inj (hreport.symm.trans hfound)
    rw [if_pos hdeclared]

/-- Calls that declare the same field twice, once on the table and once without a receiver, and
calls that do not belong to the table or whose arguments are not understood. -/
def lampCalls : List TreeCall :=
  [⟨some "ENT".toList, "\"Int\", 0, \"Fuel\"".toList⟩, ⟨none, "\"Int\", \"Fuel\"".toList⟩,
    ⟨some "other".toList, "\"Int\", \"Power\"".toList⟩, ⟨some "self".toList, "name".toList⟩]

/-- A pass over a tree with a class line of another base and a field that is declared twice attaches
two lines, and a second pass counts all five. -/
theorem bindTree_again_repeated_field :
    ∃ ctx report tree' cache' again cache₃, Context.ofSettings Settings.default = .ok ctx ∧
      bindTree ctx (FileMap.view []) (tableTree ["  ---@class lamp: other".toList] lampCalls)
        "lua/entities/lamp.lua".toList [] [] = (.ok report, tree', cache') ∧
      report.attached = ["---@field SetFuel fun(self: lamp, value: integer)".toList,
        "---@field GetFuel fun(self: lamp): integer".toList] ∧
      bindTree ctx (FileMap.view []) tree' "lua/entities/lamp.lua".toList [] cache' =
        (.ok again, tree', cache₃) ∧
      again.attached = [] ∧ again.alreadyPresent = 5 := by
  obtain ⟨ctx, hctx⟩ := Context.exists_default
  have hread : ScriptPath.read "lua/entities/lamp.lua".toList = .ok lampScript := rfl
  have hbind := bindTree_of_read ctx (FileMap.view [])
    (tableTree ["  ---@class lamp: other".toList] lampCalls) hread [] []
  have hcheck := Context.check_of_default (fun ctx =>
    let report := (bindResolved ctx (tableTree ["  ---@class lamp: other".toList] lampCalls)
      (resolveTarget ctx (FileMap.view []) lampScript [] []).1).1
    report.attached == ["---@field SetFuel fun(self: lamp, value: integer)".toList,
        "---@field GetFuel fun(self: lamp): integer".toList] &&
      report.declarationFound &&
        report.target.any (fun target => target.typeName == "lamp".toList &&
        fieldCount ctx (tableTree ["  ---@class lamp: other".toList] lampCalls) target.scope == 2))
    hctx (by decide +kernel)
  simp only [Bool.and_eq_true, beq_iff_eq, Option.any_eq_true] at hcheck
  obtain ⟨⟨hattached, hfound⟩, target, htarget, hname, hcount⟩ := hcheck
  obtain ⟨again, cache₃, hagain, hnothing, -, hpresent⟩ := bindTree_again
    (Context.typesTrimmed_of_default hctx) hbind (fun found hfound => by
      obtain rfl := Option.some.inj (htarget.symm.trans hfound)
      rw [hname]
      exact ⟨isBlank_of_mem_lamp, by decide⟩)
    (FileMap.view []) (resolveTarget ctx (FileMap.view []) lampScript [] []).2
  refine ⟨ctx, _, _, _, again, cache₃, hctx, hbind, hattached, hagain, hnothing, ?_⟩
  rw [hpresent target htarget hfound, hcount]

end Gloss
