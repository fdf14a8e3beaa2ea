import Gloss.Proofs.Annotate.Settled
import Gloss.Proofs.Entries
import Gloss.Proofs.Tree.ClassLine

/-!
# Attaching documentation

Lines are attached to a node one after the other, inside the loops over methods and their calls, and
each of them only if the node does not have it. The tree, the copy of the node's lines that the pass
consults, and the report change together. So the copy is what the node has at every point of the
loops, and the calls that the loops read are those of the tree at first.

## Main definitions

* `Attacher.Has`: the node has a line, white space at the ends aside.
* `Attacher.InStep`: tree, copy and report are in step.
* `initCalls`, `fieldCount`: the calls in the initialisation methods, and how many of them declare a
  field of the scope's table.
* `treeFields`: the fields that these calls declare.

## Main results

* `ScriptTree.docsOf_foldl_attachDoc`: attached lines go behind those that were there.
* `Attacher.attach_cases`: what attaching a line does.
* `Attacher.InStep.foldl_attach`: tree, copy and report stay in step along a run of lines.
* `Attacher.foldl_attachMethod`: the loops attach the lines of the fields in the tree at first.
* `Attacher.InStep.loops`: tree, copy and report are in step at every point of the loops.
* `Attacher.has_foldl_attach`: after a run of lines the node has all of them.
* `Attacher.foldl_attach_of_has`: a run of lines that the node has only counts them.
* `length_treeFields`: the fields of a tree are counted by its calls.
* `bindTree_of_read`: the pass over a tree, for a script whose path is known.
-/

set_option relaxedAutoImplicit false
set_option autoImplicit false

namespace Gloss

open Text

/-! ## Documentation of nodes -/

namespace ScriptTree

variable (tree : ScriptTree) {node other : Node}

/-- A line goes behind those that the node has. -/
lemma docsOf_attachDoc (line : Text) :
    (tree.attachDoc node line).docsOf node = tree.docsOf node ++ [line] := by
  rw [docsOf, attachDoc, lookup_setEntry, if_pos rfl, Option.getD_some]

/-- The other nodes keep their lines. -/
lemma docsOf_attachDoc_of_ne (hne : other ≠ node) (line : Text) :
    (tree.attachDoc node line).docsOf other = tree.docsOf other := by
  rw [docsOf, attachDoc, lookup_setEntry, if_neg hne, docsOf]

/-- **Attached lines go behind those that were there**, in their order. -/
lemma docsOf_foldl_attachDoc (lines : List Text) :
    (lines.foldl (fun tree line => tree.attachDoc node line) tree).docsOf node =
      tree.docsOf node ++ lines := by
  induction lines generalizing tree with
  | nil => exact (List.append_nil _).symm
  | cons line lines ih => rw [List.foldl_cons, ih, docsOf_attachDoc, List.append_assoc]; rfl

/-- **The other nodes keep their documentation.** -/
lemma docsOf_foldl_attachDoc_of_ne (hne : other ≠ node) (lines : List Text) :
    (lines.foldl (fun tree line => tree.attachDoc node line) tree).docsOf other =
      tree.docsOf other := by
  induction lines generalizing tree with
  | nil => rfl
  | cons line lines ih => rw [List.foldl_cons, ih, docsOf_attachDoc_of_ne tree hne]

/-- Attached lines change nothing but the documentation. -/
lemma exists_foldl_attachDoc_eq (node : Node) (lines : List Text) :
    ∃ docs, lines.foldl (fun tree line => tree.attachDoc node line) tree =
      { tree with docs := docs } := by
  induction lines generalizing tree with
  | nil => exact ⟨tree.docs, rfl⟩
  | cons line lines ih => exact ih (tree.attachDoc node line)

end ScriptTree

/-! ## Lines of a node -/

namespace Attacher

/-- The node has the line, white space at the ends aside. -/
def Has (a : Attacher) (line : Text) : Prop :=
  ∃ l ∈ a.existing, trim l = line

/-- **What attaching a line does**: it is counted if the node has it, and else it is added. -/
lemma attach_cases (a : Attacher) (line : Text) :
    (a.Has line ∧ a.attach line = a.count) ∨ (¬ a.Has line ∧ a.attach line = a.push line) := by
  have hany : (a.existing.any fun l => trim l == line) = true ↔ a.Has line := by
    simp only [List.any_eq_true, beq_iff_eq, Has]
  by_cases h : a.Has line
  · exact .inl ⟨h, by rw [attach, if_pos (hany.mpr h)]⟩
  · exact .inr ⟨h, by rw [attach, if_neg (mt hany.mp h)]⟩

/-- **What attaching the class does**: it is counted if the node declares it, and else its line is
attached. -/
lemma attachClass_cases (a : Attacher) (target : ScopeTarget) :
    ((∃ l ∈ a.existing, declaresClass target.typeName l = true) ∧
        a.attachClass target = a.count) ∨
      a.attachClass target = a.attach target.classLine := by
  unfold attachClass
  split
  · next h => exact .inl ⟨List.any_eq_true.mp h, rfl⟩
  · exact .inr rfl

/-! ### Tree, copy and report in step -/

/-- **Tree, copy and report are in step**: the tree is the one at first with the reported lines
attached to the node, and the copy is what the node had at first, followed by these lines. -/
structure InStep (tree : ScriptTree) (node : Node) (a : Attacher) : Prop where
  /-- The lines go to the node. -/
  node_eq : a.node = node
  /-- The report knows that the node has been found. -/
  found : a.report.declarationFound = true
  /-- The reported lines have been attached to the tree, and no others. -/
  tree_eq : a.tree = a.report.attached.foldl (fun tree line => tree.attachDoc node line) tree
  /-- The copy has the old lines and the reported ones. -/
  existing_eq : a.existing = tree.docsOf node ++ a.report.attached

/-- Tree, copy and report are in step before the first line. -/
lemma inStep_start (tree : ScriptTree) (node : Node) : InStep tree node (start tree node) where
  node_eq := rfl
  found := rfl
  tree_eq := rfl
  existing_eq := (List.append_nil _).symm

namespace InStep

variable {tree : ScriptTree} {node : Node} {a : Attacher}

/-- The copy is what the node has in the tree. -/
lemma docsOf_eq (h : InStep tree node a) : a.tree.docsOf node = a.existing := by
  rw [h.tree_eq, ScriptTree.docsOf_foldl_attachDoc, h.existing_eq]

/-- The calls of a method are those that the tree had at first. -/
lemma callsOf_eq (h : InStep tree node a) (table method callee : Text) :
    a.tree.callsOf table method callee = tree.callsOf table method callee := by
  obtain ⟨docs, hdocs⟩ := tree.exists_foldl_attachDoc_eq node a.report.attached
  rw [h.tree_eq, hdocs]
  rfl

/-- A table is declared where it was at first. -/
lemma declaration?_eq (h : InStep tree node a) (table : Text) :
    a.tree.declaration? table = tree.declaration? table := by
  obtain ⟨docs, hdocs⟩ := tree.exists_foldl_attachDoc_eq node a.report.attached
  rw [h.tree_eq, hdocs]

/-- Counting a line changes none of the three. -/
lemma count (h : InStep tree node a) : InStep tree node a.count :=
  ⟨h.node_eq, h.found, h.tree_eq, h.existing_eq⟩

/-- Adding a line changes all three alike. -/
lemma push (h : InStep tree node a) (line : Text) : InStep tree node (a.push line) where
  node_eq := h.node_eq
  found := h.found
  tree_eq := by
    have htree : (a.push line).tree = a.tree.attachDoc node line := by rw [← h.node_eq]; rfl
    have hreport : (a.push line).report.attached = a.report.attached ++ [line] := rfl
    rw [htree, h.tree_eq, hreport, List.foldl_concat]
  existing_eq := by
    have hexisting : (a.push line).existing = a.existing ++ [line] := rfl
    rw [hexisting, h.existing_eq]
    exact List.append_assoc _ _ _

/-- One line leaves tree, copy and report in step. -/
lemma attach (h : InStep tree node a) (line : Text) : InStep tree node (a.attach line) := by
  rcases a.attach_cases line with ⟨-, hattach⟩ | ⟨-, hattach⟩
  · rw [hattach]
    exact h.count
  · rw [hattach]
    exact h.push line

/-- The class leaves tree, copy and report in step. -/
lemma attachClass (h : InStep tree node a) (target : ScopeTarget) :
    InStep tree node (a.attachClass target) := by
  rcases a.attachClass_cases target with ⟨-, hclass⟩ | hclass
  · rw [hclass]
    exact h.count
  · rw [hclass]
    exact h.attach _

/-- **Tree, copy and report stay in step along a run of lines.** -/
lemma foldl_attach (h : InStep tree node a) (lines : List Text) :
    InStep tree node (lines.foldl Attacher.attach a) := by
  induction lines generalizing a with
  | nil => exact h
  | cons line lines ih => exact ih (h.attach line)

end InStep

end Attacher

/-! ## Fields of a tree -/

/-- The calls of the method for networked fields in the initialisation methods of a scope's
table. -/
def initCalls (ctx : Context) (tree : ScriptTree) (scope : Text) : List TreeCall :=
  (ctx.initMethods scope).flatMap fun method => tree.callsOf scope method ctx.networkMethod

/-- The number of calls in the initialisation methods that belong to the scope's table and whose
arguments declare a networked field. -/
def fieldCount (ctx : Context) (tree : ScriptTree) (scope : Text) : Nat :=
  (initCalls ctx tree scope).countP fun call =>
    call.belongsTo scope && (NetworkField.ofArguments? call.arguments).isSome

/-- The networked fields that the calls in a method of a table declare. -/
def fieldsInMethod (ctx : Context) (tree : ScriptTree) (scope method : Text) : List NetworkField :=
  (tree.callsOf scope method ctx.networkMethod).filterMap (TreeCall.field? scope)

/-- The networked fields that the calls in the initialisation methods of a scope's table declare. -/
def treeFields (ctx : Context) (tree : ScriptTree) (scope : Text) : List NetworkField :=
  (ctx.initMethods scope).flatMap (fieldsInMethod ctx tree scope)

/-- **The fields of a tree are counted by its calls**, one for each call that declares one. -/
lemma length_treeFields (ctx : Context) (tree : ScriptTree) (scope : Text) :
    (treeFields ctx tree scope).length = fieldCount ctx tree scope := by
  have hfields : treeFields ctx tree scope =
      (initCalls ctx tree scope).filterMap (TreeCall.field? scope) := by
    rw [initCalls, List.filterMap_flatMap]
    rfl
  rw [hfields, List.length_filterMap_eq_countP, fieldCount]
  refine List.countP_congr fun call _ => ?_
  cases hcall : call.belongsTo scope <;> simp [TreeCall.field?, hcall]

/-- Every field has two lines. -/
lemma length_flatMap_lines (ctx : Context) (owner : Text) (fields : List NetworkField) :
    (fields.flatMap (NetworkField.lines ctx owner)).length = 2 * fields.length := by
  induction fields with
  | nil => rfl
  | cons field fields ih =>
    have hlength : (field.lines ctx owner).length = 2 := rfl
    rw [List.flatMap_cons, List.length_append, hlength, ih, List.length_cons]
    omega

/-! ## The loops over methods and calls -/

namespace Attacher

variable {target : ScopeTarget} {tree : ScriptTree} {node : Node} {a : Attacher}

/-- The loop over calls attaches the lines of the fields that they declare. -/
lemma foldl_attachCall (ctx : Context) (target : ScopeTarget) (calls : List TreeCall)
    (a : Attacher) :
    calls.foldl (attachCall ctx target) a =
      ((calls.filterMap (TreeCall.field? target.scope)).flatMap
        (NetworkField.lines ctx target.typeName)).foldl attach a := by
  induction calls generalizing a with
  | nil => rfl
  | cons call calls ih =>
    rw [List.foldl_cons, ih, List.filterMap_cons, attachCall]
    cases call.field? target.scope with
    | none => rfl
    | some field => rw [List.flatMap_cons, List.foldl_append]

/-- **The loop over methods attaches the lines of the fields that the tree has at first.**

**Proof sketch.** By induction on the methods. The calls of the next method are read from the tree
as it is by then; it is in step with the tree at first, so that they are the calls which that tree
has. -/
lemma foldl_attachMethod (ctx : Context) (target : ScopeTarget) (h : InStep tree node a)
    (methods : List Text) :
    methods.foldl (attachMethod ctx target) a =
      ((methods.flatMap (fieldsInMethod ctx tree target.scope)).flatMap
        (NetworkField.lines ctx target.typeName)).foldl attach a := by
  induction methods generalizing a with
  | nil => rfl
  | cons method methods ih =>
    have hmethod : a.attachMethod ctx target method =
        ((fieldsInMethod ctx tree target.scope method).flatMap
          (NetworkField.lines ctx target.typeName)).foldl attach a := by
      rw [attachMethod, foldl_attachCall, h.callsOf_eq, fieldsInMethod]
    rw [List.foldl_cons, hmethod, ih (h.foldl_attach _), ← List.foldl_append, ← List.flatMap_append,
      ← List.flatMap_cons]

/-- **Tree, copy and report are in step at every point of the loops**: after the class, any methods,
and any calls of the next method. -/
lemma InStep.loops (ctx : Context) (target : ScopeTarget) (tree : ScriptTree) (node : Node)
    (methods : List Text) (calls : List TreeCall) :
    InStep tree node (calls.foldl (attachCall ctx target)
      (methods.foldl (attachMethod ctx target) ((start tree node).attachClass target))) := by
  have hclass := (inStep_start tree node).attachClass target
  rw [foldl_attachCall, foldl_attachMethod ctx target hclass]
  exact (hclass.foldl_attach _).foldl_attach _

/-! ### What a node has after a run -/

variable (a) {line : Text} {lines : List Text}

/-- The lines that the node has stay in front. -/
lemma existing_prefix_attach (line : Text) : a.existing <+: (a.attach line).existing := by
  rcases a.attach_cases line with ⟨-, h⟩ | ⟨-, h⟩
  · exact ⟨[], by rw [h, List.append_nil]; rfl⟩
  · exact ⟨[line], by rw [h]; rfl⟩

/-- The lines that the node has stay in front along a run. -/
lemma existing_prefix_foldl_attach (lines : List Text) :
    a.existing <+: (lines.foldl attach a).existing := by
  induction lines generalizing a with
  | nil => exact List.prefix_refl _
  | cons line lines ih => exact (a.existing_prefix_attach line).trans (ih (a.attach line))

/-- A line without white space at its ends is there after it has been attached. -/
lemma has_attach (htrim : trim line = line) : (a.attach line).Has line := by
  rcases a.attach_cases line with ⟨hhas, h⟩ | ⟨-, h⟩
  · rw [h]
    exact hhas
  · exact ⟨line, by rw [h]; simp [push], htrim⟩

variable {a}

/-- What a node has it keeps while its lines stay in front. -/
lemma Has.mono {b : Attacher} (h : a.Has line) (hexisting : a.existing <+: b.existing) :
    b.Has line := by
  obtain ⟨l, hl, htrim⟩ := h
  exact ⟨l, hexisting.subset hl, htrim⟩

/-- **After a run of lines the node has all of them**, if they have no white space at their ends. -/
lemma has_foldl_attach (a : Attacher) (htrim : ∀ line ∈ lines, trim line = line) :
    ∀ line ∈ lines, (lines.foldl attach a).Has line := by
  induction lines generalizing a with
  | nil => simp
  | cons first lines ih =>
    obtain ⟨hfirst, hlines⟩ := List.forall_mem_cons.mp htrim
    refine List.forall_mem_cons.mpr ⟨?_, ih (a.attach first) hlines⟩
    exact (a.has_attach hfirst).mono (existing_prefix_foldl_attach _ lines)

/-- **A run of lines that the node has only counts them.**

**Proof sketch.** Induction on the lines. Each is counted and changes nothing else, so the node
still has the others. -/
lemma foldl_attach_of_has (h : ∀ line ∈ lines, a.Has line) :
    lines.foldl attach a =
      { a with report :=
          { a.report with alreadyPresent := a.report.alreadyPresent + lines.length } } := by
  induction lines generalizing a with
  | nil => rfl
  | cons first lines ih =>
    obtain ⟨hfirst, hlines⟩ := List.forall_mem_cons.mp h
    rcases a.attach_cases first with ⟨-, hattach⟩ | ⟨hnot, -⟩
    · have hrest := @ih a.count hlines
      rw [List.foldl_cons, hattach, hrest, List.length_cons, Nat.add_comm lines.length,
        ← Nat.add_assoc]
      rfl
    · exact absurd hfirst hnot

/-- The node declares the class after its line has been attached. -/
lemma exists_declaresClass_attachClass (a : Attacher)
    (hname : ∀ c ∈ target.typeName, isBlank c = false)
    (hlast : target.typeName.getLast? ≠ some ':') :
    ∃ l ∈ (a.attachClass target).existing, declaresClass target.typeName l = true := by
  rcases a.attachClass_cases target with ⟨hdeclares, h⟩ | h
  · rw [h]
    exact hdeclares
  · have hclass : declaresClass target.typeName target.classLine = true :=
      declaresClass_classLine hname hlast _
    rw [h]
    rcases a.attach_cases target.classLine with ⟨⟨l, hl, htrim⟩, h⟩ | ⟨-, h⟩
    · rw [h]
      exact ⟨l, hl, by rw [← declaresClass_trim, htrim, hclass]⟩
    · exact ⟨target.classLine, by rw [h]; simp [push], hclass⟩

end Attacher

/-! ## The pass over a tree -/

/-- The node of a declaration after the class and the lines of all fields of the tree. -/
def Attacher.pass (ctx : Context) (tree : ScriptTree) (target : ScopeTarget) (node : Node) :
    Attacher :=
  ((treeFields ctx tree target.scope).flatMap (NetworkField.lines ctx target.typeName)).foldl
    attach ((start tree node).attachClass target)

/-- Tree, copy and report are in step after the pass. -/
lemma Attacher.inStep_pass (ctx : Context) (tree : ScriptTree) (target : ScopeTarget)
    (node : Node) : InStep tree node (pass ctx tree target node) :=
  ((inStep_start tree node).attachClass target).foldl_attach _

/-- **The pass for a table that is declared**: the class and the lines of all fields of the tree are
attached to the declaration. -/
lemma bindTarget_of_declaration (ctx : Context) {tree : ScriptTree} {target : ScopeTarget}
    {node : Node} (hnode : tree.declaration? target.scope = some node) :
    bindTarget ctx tree target =
      ({ (Attacher.pass ctx tree target node).report with target := some target },
        (Attacher.pass ctx tree target node).tree) := by
  have hloops := Attacher.foldl_attachMethod ctx target
    ((Attacher.inStep_start tree node).attachClass target) (ctx.initMethods target.scope)
  simp only [bindTarget, hnode, hloops]
  rfl

/-- The report and the tree for a script that may belong to a type. -/
def bindResolved (ctx : Context) (tree : ScriptTree) : Option ScopeTarget → BindReport × ScriptTree
  | none => ({}, tree)
  | some target => bindTarget ctx tree target

/-- **The pass over a tree**, for a script whose path is known. -/
lemma bindTree_of_read (ctx : Context) (files : FileView) (tree : ScriptTree) {identifier : Text}
    {p : ScriptPath} (hread : ScriptPath.read identifier = .ok p) (t : Text) (cache : FolderCache) :
    bindTree ctx files tree identifier t cache =
      (.ok (bindResolved ctx tree (resolveTarget ctx files p t cache).1).1,
        (bindResolved ctx tree (resolveTarget ctx files p t cache).1).2,
        (resolveTarget ctx files p t cache).2) := by
  simp only [bindTree, readIdentifier, hread]
  cases resolveTarget ctx files p t cache with
  | mk target cache => cases target <;> rfl

/-- The pass only succeeds for the path of a script. -/
lemma exists_read_of_bindTree {ctx : Context} {files : FileView} {tree : ScriptTree}
    {identifier t : Text} {cache : FolderCache} {report : BindReport}
    (h : (bindTree ctx files tree identifier t cache).1 = .ok report) :
    ∃ p, ScriptPath.read identifier = .ok p := by
  cases hread : ScriptPath.read identifier with
  | error fault => simp [bindTree, readIdentifier, hread] at h
  | ok p => exact ⟨p, rfl⟩

end Gloss
