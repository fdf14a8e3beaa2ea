import Gloss.Proofs.Tree.Again

/-!
# What a pass over a tree changes

A pass over a tree changes the documentation of one node, the declaration of the scope's table, and
only adds lines at its end: those that it reports. The tree, the copy that the pass consults and the
report are in step at every point of the loops over methods and calls, and this is where the changes
are read off. Every line that the pass is asked to attach is reported or counted. A line is only
attached if the node does not have it, so none is attached twice.

## Main definitions

* `Attacher.Fresh`: the lines that have been attached are new.

## Main results

* `Attacher.length_foldl_attach`: every line of a run is attached or counted.
* `Attacher.Fresh.foldl_attach`: a run only attaches new lines.
* `bindTree_appends`: what a pass over a tree changes.
-/

set_option relaxedAutoImplicit false
set_option autoImplicit false

namespace Gloss

open Text

/-! ## Lines of a node -/

namespace Attacher

/-- Attaching a line either attaches or counts it. -/
lemma length_attach (a : Attacher) (line : Text) :
    (a.attach line).report.attached.length + (a.attach line).report.alreadyPresent =
      a.report.attached.length + a.report.alreadyPresent + 1 := by
  rcases a.attach_cases line with ⟨-, h⟩ | ⟨-, h⟩
  · simp only [h, count]
    omega
  · simp only [h, push, List.length_append, List.length_singleton]
    omega

/-- **Every line of a run is attached or counted.** -/
lemma length_foldl_attach (a : Attacher) (lines : List Text) :
    (lines.foldl attach a).report.attached.length + (lines.foldl attach a).report.alreadyPresent =
      a.report.attached.length + a.report.alreadyPresent + lines.length := by
  induction lines generalizing a with
  | nil => rfl
  | cons line lines ih =>
    rw [List.foldl_cons, ih, length_attach, List.length_cons]
    omega

/-- The line of the class is attached or counted. -/
lemma length_attachClass (a : Attacher) (target : ScopeTarget) :
    (a.attachClass target).report.attached.length + (a.attachClass target).report.alreadyPresent =
      a.report.attached.length + a.report.alreadyPresent + 1 := by
  rcases a.attachClass_cases target with ⟨-, h⟩ | h
  · simp only [h, count]
    omega
  · rw [h, length_attach]

/-- The lines that have been attached are new: none of them twice, and none that was there at first,
white space at its ends aside. -/
structure Fresh (tree : ScriptTree) (node : Node) (a : Attacher) : Prop
    extends InStep tree node a where
  /-- No line has been attached twice. -/
  nodup : a.report.attached.Nodup
  /-- No line that has been attached was there. -/
  not_old : ∀ line ∈ a.report.attached, ∀ l ∈ tree.docsOf node, trim l ≠ line

variable {tree : ScriptTree} {node : Node} {a : Attacher}

/-- Nothing has been attached at first. -/
lemma fresh_start (tree : ScriptTree) (node : Node) : Fresh tree node (start tree node) where
  toInStep := inStep_start tree node
  nodup := List.nodup_nil
  not_old := by simp [start]

/-- Counting a line attaches nothing. -/
lemma Fresh.count (h : Fresh tree node a) : Fresh tree node a.count :=
  ⟨h.toInStep.count, h.nodup, h.not_old⟩

/-- A line without white space at its ends is only attached if it is new. The first line needs no
such care. -/
lemma Fresh.attach {line : Text} (h : Fresh tree node a)
    (htrim : line ∈ a.report.attached → trim line = line) : Fresh tree node (a.attach line) := by
  rcases a.attach_cases line with ⟨-, hattach⟩ | ⟨hnot, hattach⟩
  · rw [hattach]
    exact h.count
  -- The copy is in step, so a line that it does not have is neither an old nor an attached one.
  · have hnew : line ∉ a.report.attached := fun hmem =>
      hnot ⟨line, h.existing_eq ▸ List.mem_append_right _ hmem, htrim hmem⟩
    have hattached : (a.push line).report.attached = a.report.attached ++ [line] := rfl
    rw [hattach]
    refine ⟨h.toInStep.push line, ?_, ?_⟩
    · rw [hattached, ← List.concat_eq_append]
      exact h.nodup.concat hnew
    · intro added hadded l hl heq
      rw [hattached] at hadded
      rcases List.mem_append.mp hadded with hold | hmem
      · exact h.not_old added hold l hl heq
      · obtain rfl := List.mem_singleton.mp hmem
        exact hnot ⟨l, h.existing_eq ▸ List.mem_append_left _ hl, heq⟩

/-- **A run only attaches new lines**, if they have no white space at their ends. -/
lemma Fresh.foldl_attach {lines : List Text} (h : Fresh tree node a)
    (htrim : ∀ line ∈ lines, trim line = line) :
    Fresh tree node (lines.foldl Attacher.attach a) := by
  induction lines generalizing a with
  | nil => exact h
  | cons line lines ih =>
    obtain ⟨hline, hlines⟩ := List.forall_mem_cons.mp htrim
    exact ih (h.attach fun _ => hline) hlines

/-- The line of the class is new, whatever its base is, since it is the first one. -/
lemma fresh_attachClass (tree : ScriptTree) (node : Node) (target : ScopeTarget) :
    Fresh tree node ((start tree node).attachClass target) := by
  rcases (start tree node).attachClass_cases target with ⟨-, h⟩ | h
  · rw [h]
    exact (fresh_start tree node).count
  · rw [h]
    exact (fresh_start tree node).attach fun hmem => absurd hmem List.not_mem_nil

/-! ## The pass over a tree -/

variable (tree) (target : ScopeTarget) (node)

/-- The class and two lines for each call that declares a field are attached or counted. -/
lemma length_pass (ctx : Context) :
    (pass ctx tree target node).report.attached.length +
        (pass ctx tree target node).report.alreadyPresent =
      1 + 2 * fieldCount ctx tree target.scope := by
  rw [pass, length_foldl_attach, length_attachClass, length_flatMap_lines, length_treeFields]
  rfl

/-- What a pass attaches is new. -/
lemma fresh_pass {ctx : Context} (htypes : ctx.TypesTrimmed) :
    Fresh tree node (pass ctx tree target node) := by
  refine (fresh_attachClass tree node target).foldl_attach fun line hline => ?_
  obtain ⟨field, -, hline⟩ := List.mem_flatMap.mp hline
  exact field.trim_of_mem_lines htypes _ line hline

end Attacher

/-- **What a pass over a tree changes.** If the identifier names no script, the script belongs to no
type, or the scope's table is not declared, the tree stays as it is and nothing is attached.
Otherwise tree, copy and report are in step at every point of the loops: after the class, any
methods, and any calls of the next method. At the end the lines of the report have been attached to
the declaration one after the other, behind those that were there, and no other node has changed;
the class and two lines for each call that declares a field are attached or counted. If the types of
networked fields are not empty and have no white space at their ends, no line is attached twice, and
none that was there, whatever the base of the type is.

**Proof sketch.** The early returns leave the tree. In the loops a line is counted, which changes
neither the tree nor the copy, or added to tree, copy and report at once; so the three are in step
by induction on the lines, the calls and the methods. What becomes of the documentation is read off
the tree at the end, and that a line is new off the copy at the time when it is attached. -/
theorem bindTree_appends {ctx : Context} {files : FileView} {tree tree' : ScriptTree}
    {identifier t : Text} {cache cache' : FolderCache} {result : Except AnnotateError BindReport}
    (hbind : bindTree ctx files tree identifier t cache = (result, tree', cache')) :
    (∀ error, result = .error error → tree' = tree) ∧
      ∀ report, result = .ok report →
        (∀ p, ScriptPath.read identifier = .ok p →
          report.target = (resolveTarget ctx files p t cache).1) ∧
        ((report.target.bind fun target => tree.declaration? target.scope) = none →
          tree' = tree ∧ report.declarationFound = false ∧ report.attached = [] ∧
            report.alreadyPresent = 0) ∧
        ∀ target node, report.target = some target → tree.declaration? target.scope = some node →
          report.declarationFound = true ∧
          (∀ (methods : List Text) (calls : List TreeCall), Attacher.InStep tree node
            (calls.foldl (Attacher.attachCall ctx target)
              (methods.foldl (Attacher.attachMethod ctx target)
                ((Attacher.start tree node).attachClass target)))) ∧
          tree' = report.attached.foldl (fun tree line => tree.attachDoc node line) tree ∧
          tree'.docsOf node = tree.docsOf node ++ report.attached ∧
          (∀ other, other ≠ node → tree'.docsOf other = tree.docsOf other) ∧
          report.attached.length + report.alreadyPresent =
            1 + 2 * fieldCount ctx tree target.scope ∧
          (ctx.TypesTrimmed → report.attached.Nodup ∧
            ∀ line ∈ report.attached, ∀ l ∈ tree.docsOf node, trim l ≠ line) := by
  cases hread : ScriptPath.read identifier with
  | error fault =>
    simp only [bindTree, readIdentifier, hread, Prod.mk.injEq] at hbind
    obtain ⟨rfl, rfl, -⟩ := hbind
    exact ⟨fun _ _ => rfl, by simp⟩
  | ok p =>
    rw [bindTree_of_read ctx files tree hread t cache] at hbind
    simp only [Prod.mk.injEq] at hbind
    obtain ⟨rfl, rfl, -⟩ := hbind
    refine ⟨by simp, fun report hreport => ?_⟩
    obtain rfl := Except.ok.inj hreport
    cases htarget : (resolveTarget ctx files p t cache).1 with
    | none =>
      refine ⟨fun q hq => ?_, fun _ => ⟨rfl, rfl, rfl, rfl⟩, by simp [bindResolved]⟩
      obtain rfl : p = q := Except.ok.inj hq
      rw [htarget]
      rfl
    | some target =>
      have hsame : (bindTarget ctx tree target).1.target = some target := target_bindTarget tree
      simp only [bindResolved]
      refine ⟨fun q hq => ?_, fun hnone => ?_, fun found node hfound hnode => ?_⟩
      · obtain rfl : p = q := Except.ok.inj hq
        rw [htarget, hsame]
      · rw [hsame, Option.bind_some] at hnone
        simp only [bindTarget, hnone]
        exact ⟨trivial, trivial, trivial, trivial⟩
      · obtain rfl : target = found := Option.some.inj (hsame.symm.trans hfound)
        have hstep := Attacher.inStep_pass ctx tree target node
        rw [bindTarget_of_declaration ctx hnode]
        refine ⟨hstep.found, Attacher.InStep.loops ctx target tree node, hstep.tree_eq, ?_,
          fun other hne => ?_, Attacher.length_pass tree node target ctx, fun htypes => ?_⟩
        · rw [hstep.docsOf_eq, hstep.existing_eq]
        · rw [hstep.tree_eq, ScriptTree.docsOf_foldl_attachDoc_of_ne tree hne]
        · have hfresh := Attacher.fresh_pass tree node target htypes
          exact ⟨hfresh.nodup, hfresh.not_old⟩

/-- A tree in which the body of a method has documentation too, and the declaration of the table has
the setter of a field in another indentation. -/
def lampTree : ScriptTree :=
  { tableTree [] lampCalls with
    docs := [(2, ["---@class other".toList]),
      (1, ["  ---@field SetFuel fun(self: lamp, value: integer)".toList])] }

/-- To a declaration that has the setter of a field which two calls declare, a pass attaches the
class and the getter, each once, and the documentation of the other node stays. -/
theorem bindTree_appends_known_setter :
    ∃ ctx report tree' cache', Context.ofSettings Settings.default = .ok ctx ∧ ctx.TypesTrimmed ∧
      bindTree ctx (FileMap.view []) lampTree "lua/entities/lamp.lua".toList [] [] =
        (.ok report, tree', cache') ∧
      report.attached = ["---@class lamp : ENT".toList,
        "---@field GetFuel fun(self: lamp): integer".toList] ∧
      report.attached.Nodup ∧ report.attached.length + report.alreadyPresent = 5 ∧
      tree'.docsOf 1 = lampTree.docsOf 1 ++ report.attached ∧
      tree'.docsOf 2 = lampTree.docsOf 2 := by
  obtain ⟨ctx, hctx⟩ := Context.exists_default
  have hread : ScriptPath.read "lua/entities/lamp.lua".toList = .ok lampScript := rfl
  have hbind := bindTree_of_read ctx (FileMap.view []) lampTree hread [] []
  have hcheck := Context.check_of_default (fun ctx =>
    let report := (bindResolved ctx lampTree
      (resolveTarget ctx (FileMap.view []) lampScript [] []).1).1
    report.attached == ["---@class lamp : ENT".toList,
        "---@field GetFuel fun(self: lamp): integer".toList] &&
      report.target.any fun target => target.scope == "ENT".toList &&
        fieldCount ctx lampTree target.scope == 2)
    hctx (by decide +kernel)
  simp only [Bool.and_eq_true, beq_iff_eq, Option.any_eq_true] at hcheck
  obtain ⟨hattached, target, htarget, hscope, hcount⟩ := hcheck
  have htypes := Context.typesTrimmed_of_default hctx
  have hnode : lampTree.declaration? target.scope = some 1 := by
    rw [hscope]
    rfl
  obtain ⟨-, -, hpass⟩ := (bindTree_appends hbind).2 _ rfl
  obtain ⟨-, -, -, hdocs, hothers, hlength, hfresh⟩ := hpass target 1 htarget hnode
  refine ⟨ctx, _, _, _, hctx, htypes, hbind, hattached, (hfresh htypes).1, ?_, hdocs,
    hothers 2 (by decide)⟩
  rw [hlength, hcount]

end Gloss
