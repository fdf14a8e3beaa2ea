import Gloss.Annotate
import Gloss.Entries

/-!
# The syntax tree of a host

After a host has read a script it can have documentation attached to the nodes of its syntax tree:
the class of the type to the declaration of the scope's table, and the networked fields that the
scope's initialisation methods declare.

## Main definitions

* `ScriptTree`: what is asked of a syntax tree.
* `ScriptTree.attachDoc`: adds a documentation line to a node.
* `BindReport`: what was done to a tree.
* `Attacher`: a tree while lines are attached, with what has been done so far.
* `bindTree`: the pass over a tree.
-/

namespace Gloss

/-- A node of a tree. -/
abbrev Node := Nat

/-- A call in a tree. -/
structure TreeCall where
  /-- The receiver, if there is one. -/
  receiver : Option Text
  /-- The text of the arguments. -/
  arguments : Text
  deriving Repr, DecidableEq

/-- A syntax tree: what is looked up in it, and the documentation of its nodes. -/
structure ScriptTree where
  /-- The declaration of a global table. -/
  declaration? : Text → Option Node
  /-- The body of a method of a table. -/
  body? : (table method : Text) → Option Node
  /-- The calls of a method inside a body. -/
  callsIn : Node → (method : Text) → List TreeCall
  /-- The nodes with documentation, and their lines. -/
  docs : List (Node × List Text)

namespace ScriptTree

/-- The documentation of a node. -/
def docsOf (tree : ScriptTree) (node : Node) : List Text :=
  (tree.docs.lookup node).getD []

/-- The tree with a line added at the end of the documentation of a node. -/
def attachDoc (tree : ScriptTree) (node : Node) (line : Text) : ScriptTree :=
  { tree with docs := setEntry node (tree.docsOf node ++ [line]) tree.docs }

/-- The calls of `callee` in the body of a method; none if the tree does not have the method. -/
def callsOf (tree : ScriptTree) (table method callee : Text) : List TreeCall :=
  match tree.body? table method with
  | some body => tree.callsIn body callee
  | none => []

end ScriptTree

/-- What was done to a tree. -/
structure BindReport where
  /-- The type of the script, if it is in a scope folder. -/
  target : Option ScopeTarget := none
  /-- The scope's table is declared in the tree. -/
  declarationFound : Bool := false
  /-- The lines that were attached. -/
  attached : List Text := []
  /-- The number of lines that were there already. -/
  alreadyPresent : Nat := 0
  deriving Repr, DecidableEq

/-- A documentation line declares the class `name`, whatever its base. -/
def declaresClass (name line : Text) : Bool :=
  match Text.after? classMark line.trim with
  | some rest =>
    match rest.words with
    | word :: _ => Text.dropEndWhile (· == ':') word == name
    | [] => false
  | none => false

/-- A call belongs to the scope's table: it is one of `self`, of the table, or without receiver. -/
def TreeCall.belongsTo (scope : Text) (call : TreeCall) : Bool :=
  match call.receiver with
  | none => true
  | some receiver => receiver == "self".toList || receiver == scope

/-- The networked field that a call declares, if it belongs to the scope's table. -/
def TreeCall.field? (scope : Text) (call : TreeCall) : Option NetworkField :=
  if call.belongsTo scope then NetworkField.ofArguments? call.arguments else none

/-- The initialisation methods of a scope: those of its first rule. -/
def Context.initMethods (ctx : Context) (scope : Text) : List Text :=
  ((ctx.rule? scope).map (·.initMethods)).getD []

/-- A tree while lines are attached to one of its nodes. -/
structure Attacher where
  /-- The tree. -/
  tree : ScriptTree
  /-- The node. -/
  node : Node
  /-- The lines that the node is taken to have. -/
  existing : List Text
  /-- What has been done so far. -/
  report : BindReport

namespace Attacher

/-- A node of a tree before the first line is attached to it. -/
def start (tree : ScriptTree) (node : Node) : Attacher :=
  { tree := tree
    node := node
    existing := tree.docsOf node
    report := { declarationFound := true } }

/-- Counts a line that the node has. -/
def count (a : Attacher) : Attacher :=
  { a with report := { a.report with alreadyPresent := a.report.alreadyPresent + 1 } }

/-- Adds a line to the node, and keeps account of it. -/
def push (a : Attacher) (line : Text) : Attacher :=
  { a with
    tree := a.tree.attachDoc a.node line
    existing := a.existing ++ [line]
    report := { a.report with attached := a.report.attached ++ [line] } }

/-- Attaches a line unless the node has it, white space at the ends aside. -/
def attach (a : Attacher) (line : Text) : Attacher :=
  if a.existing.any fun l => l.trim == line then a.count else a.push line

/-- Attaches the line of the class unless the node declares it. -/
def attachClass (target : ScopeTarget) (a : Attacher) : Attacher :=
  if a.existing.any (declaresClass target.typeName) then a.count else a.attach target.classLine

/-- Attaches the lines of the field that a call declares. -/
def attachCall (ctx : Context) (target : ScopeTarget) (a : Attacher) (call : TreeCall) : Attacher :=
  match call.field? target.scope with
  | some field => (field.lines ctx target.typeName).foldl attach a
  | none => a

/-- Attaches the lines of the fields that the calls in a method declare, which are those that the
tree has by then. -/
def attachMethod (ctx : Context) (target : ScopeTarget) (a : Attacher) (method : Text) : Attacher :=
  (a.tree.callsOf target.scope method ctx.networkMethod).foldl (attachCall ctx target) a

end Attacher

/-- The report and the tree for a script of a type. -/
def bindTarget (ctx : Context) (tree : ScriptTree) (target : ScopeTarget) :
    BindReport × ScriptTree :=
  match tree.declaration? target.scope with
  | none => ({ target := some target }, tree)
  | some node =>
    let done := (ctx.initMethods target.scope).foldl (Attacher.attachMethod ctx target)
      ((Attacher.start tree node).attachClass target)
    ({ done.report with target := some target }, done.tree)

/-- The pass over a tree: the report, the tree, and what is remembered about folders after it. -/
def bindTree (ctx : Context) (files : FileView) (tree : ScriptTree) (identifier t : Text)
    (cache : FolderCache) : Except AnnotateError BindReport × ScriptTree × FolderCache :=
  match readIdentifier identifier with
  | .error error => (.error error, tree, cache)
  | .ok p =>
    match resolveTarget ctx files p t cache with
    | (none, cache) => (.ok {}, tree, cache)
    | (some target, cache) =>
      let (report, tree) := bindTarget ctx tree target
      (.ok report, tree, cache)

end Gloss
