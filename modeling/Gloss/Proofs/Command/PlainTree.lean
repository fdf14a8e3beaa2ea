import Gloss.Proofs.Annotate.Default
import Gloss.Proofs.Command.DryRun
import Gloss.Proofs.Script.Path
import Mathlib.Data.List.Nodup

/-!
# Runs over a tree of files

The scripts below a directory are independent if the names of files and directories mean in the
paths of scripts what they mean on the disk. A backslash in a name separates segments in the path of
a script; then there must be names on both of its sides, since an empty segment or a dot would name
a folder that is there with another spelling.

## Main definitions

* `PlainTree`: the names below a root mean the same in paths of scripts.
* `PlainHubs`: the hub files of the rules are named in lower case and without slashes.
* `annotateBelow`: the run over the scripts below a root.

## Main results

* `nodup_scriptsUnder`: every script below a root is found once.
* `independent_of_ne`: the scripts of a plain tree are independent.
* `annotateBelow_agree`: a run that writes edits finds those that a run shows.
* `annotateBelow_disagree_backslash`: it need not find them if a name ends in a backslash.
-/

set_option relaxedAutoImplicit false
set_option autoImplicit false

namespace Gloss

open Text

/-! ## Scripts below a root -/

/-- Paths are left out and nothing else. -/
lemma dropRepeats_sublist (paths : List Text) : (dropRepeats paths).Sublist paths := by
  induction paths with
  | nil => exact List.Sublist.refl _
  | cons path rest ih =>
    rw [dropRepeats]
    cases hrest : dropRepeats rest with
    | nil => exact List.Sublist.cons_cons _ (List.nil_sublist _)
    | cons next later =>
      rw [hrest] at ih
      by_cases hsame : pathParts next = pathParts path
      · simp only [hsame, ↓reduceIte]
        exact List.Sublist.cons_cons _ ((List.sublist_cons_self next later).trans ih)
      · simp only [hsame, ↓reduceIte]
        exact List.Sublist.cons_cons _ ih

section

variable {disk : Disk} {cwd dir : List Text} {root path : Text}

/-- The scripts below a root are found at or below it. -/
lemma mem_scriptsAt_of_mem_scriptsUnder (h : path ∈ scriptsUnder disk cwd [root]) :
    path ∈ scriptsAt disk cwd root := by
  have hmem := (dropRepeats_sublist _).subset h
  rw [List.mem_mergeSort] at hmem
  simpa using hmem

/-- A script below a directory. -/
lemma exists_names_of_mem_scriptsAt (hfile : disk.isFile cwd root = false)
    (hroot : disk.locate? cwd root = some dir) (h : path ∈ scriptsAt disk cwd root) :
    ∃ names ∈ disk.filesBelow dir, path = names.foldl joinPath root := by
  simp only [scriptsAt, hfile, hroot, Bool.false_eq_true, ↓reduceIte] at h
  obtain ⟨names, hnames, hpath⟩ := List.mem_filterMap.mp h
  split at hpath
  · exact ⟨names, hnames, (Option.some.inj hpath).symm⟩
  · simp at hpath

/-- What is below a directory leads to the place of a file. -/
lemma mem_of_mem_filesBelow {names : List Text} (h : names ∈ disk.filesBelow dir) :
    dir ++ names ∈ disk.map Prod.fst ∧ names ≠ [] := by
  obtain ⟨e, he, hbelow⟩ := List.mem_filterMap.mp h
  split at hbelow
  · obtain ⟨hplace, hne⟩ := Disk.below?_eq_some_iff.mp hbelow
    exact ⟨hplace ▸ List.mem_map.mpr ⟨e, he, rfl⟩, hne⟩
  · simp at hbelow

/-- The files below a directory are different if all places of the disk are. -/
lemma nodup_filesBelow (hnodup : (disk.map Prod.fst).Nodup) (dir : List Text) :
    (disk.filesBelow dir).Nodup := by
  rw [Disk.filesBelow_eq]
  have hplaces : disk.shape.Pairwise fun a b => a.1 ≠ b.1 := by
    rw [Disk.shape, List.pairwise_map]
    exact List.pairwise_map.mp hnodup
  refine hplaces.filterMap _ fun a b hne names hnames names' hnames' heq => hne ?_
  rw [Option.ite_none_right_eq_some, Disk.below?_eq_some_iff] at hnames hnames'
  rw [hnames.2.1, hnames'.2.1, heq]

end

/-! ## Plain trees -/

/-- The hub files of the rules are named in lower case, without slashes of either kind. -/
def PlainHubs (ctx : Context) : Prop :=
  ∀ rule ∈ ctx.rules, ∀ hub ∈ rule.hubs, IsName hub ∧ '\\' ∉ hub ∧ hub.lower = hub

/-- Whether the names of hubs are plain can be decided. -/
instance (ctx : Context) : Decidable (PlainHubs ctx) :=
  inferInstanceAs (Decidable (∀ rule ∈ ctx.rules, ∀ hub ∈ rule.hubs, _))

/-- The hub files of the default settings have plain names. -/
lemma plainHubs_of_default {ctx : Context} (h : Context.ofSettings Settings.default = .ok ctx) :
    PlainHubs ctx := by
  have hrules : (ScopeRule.allOfSettings Settings.default).toOption.any (fun rules => decide
      (∀ rule ∈ rules, ∀ hub ∈ rule.hubs, IsName hub ∧ '\\' ∉ hub ∧ hub.lower = hub)) = true := by
    decide +kernel
  rw [(Context.fields_of_ofSettings h).1] at hrules
  exact of_decide_eq_true hrules

/-- The names below a root mean the same in the paths of scripts as on the disk: the root is no
address and has no backslash, and between the backslashes of the names below it there are names. -/
structure PlainTree (disk : Disk) (cwd : List Text) (root : Text) : Prop where
  /-- No two files or directories are at one place. -/
  nodup : (disk.map Prod.fst).Nodup
  /-- The root has no backslash. -/
  backslash_notMem : '\\' ∉ root
  /-- The root is no address. -/
  address : after? "file://".toList root = none
  /-- Between the backslashes of the names below the root there are names. -/
  isName : ∀ dir, disk.locate? cwd root = some dir → ∀ names ∈ disk.filesBelow dir,
    ∀ piece ∈ namePieces names, IsName piece

section

variable {disk : Disk} {cwd dir : List Text} {root : Text}

/-- Different names lead to different paths. -/
lemma foldl_joinPath_injective {names names' : List Text} (hroot : root ≠ [])
    (hnames : ∀ n ∈ names, IsName n) (hnames' : ∀ n ∈ names', IsName n)
    (h : names.foldl joinPath root = names'.foldl joinPath root) : names = names' := by
  have hparts := congrArg pathParts h
  rw [pathParts_foldl_joinPath hroot hnames, pathParts_foldl_joinPath hroot hnames'] at hparts
  exact List.map_injective_iff.mpr (fun _ _ => PathPart.name.inj) (List.append_cancel_left hparts)

/-- **Every script below a root is found once.**

**Proof sketch.** The files below the root are different lists of names, and joining names to a path
is injective. -/
lemma nodup_scriptsUnder (hfile : disk.isFile cwd root = false) (htree : PlainTree disk cwd root) :
    (scriptsUnder disk cwd [root]).Nodup := by
  refine (dropRepeats_sublist _).nodup ?_
  rw [(List.mergeSort_perm _ _).nodup_iff, List.flatMap_singleton, scriptsAt, hfile]
  cases hroot : disk.locate? cwd root with
  | none => simp
  | some dir =>
    have hne := (Disk.walk?_of_locate? hroot).1
    have hpaths := (nodup_filesBelow htree.nodup dir).imp_of_mem (fun {names names'} hm hm' hdiff =>
      mt (foldl_joinPath_injective hne (isName_of_namePieces (htree.isName dir hroot names hm))
        (isName_of_namePieces (htree.isName dir hroot names' hm'))) hdiff)
    refine hpaths.filterMap _ fun names names' hdiff path hpath path' hpath' heq => hdiff ?_
    rw [Option.ite_none_right_eq_some, Option.some.injEq] at hpath hpath'
    rw [hpath.2, hpath'.2, heq]

/-- Scripts in the same directories are classified by the same rule. -/
lemma classify_map_scope_eq {p q : ScriptPath} (h : p.loweredDirs = q.loweredDirs)
    (rules : List ScopeRule) :
    (classify p rules).map (·.scope) = (classify q rules).map (·.scope) := by
  simp only [classify, bestCandidate?, h, Option.map_map]
  rfl

/-- How the path of a script of a plain tree is read. -/
lemma PlainTree.exists_read (htree : PlainTree disk cwd root)
    (hroot : disk.locate? cwd root = some dir) {names dirs : List Text} {last : Text}
    (hnames : names ∈ disk.filesBelow dir) (hsplit : namePieces names = dirs ++ [last]) :
    ∃ p, ScriptPath.read (names.foldl joinPath root) = .ok p ∧ p.fileName = last ∧
      p.loweredDirs = (pathPieces (dirs.foldl joinPath root)).map Text.lower ∧
      p.parent? = some (folderOf (dirs.foldl joinPath root)) := by
  have hne := (Disk.walk?_of_locate? hroot).1
  have hpieces := htree.isName dir hroot names hnames
  have hlast : IsName last := hpieces last (by simp [hsplit])
  have hdirs : dirs.foldl joinPath root ≠ [] :=
    foldl_joinPath_ne_nil hne fun n hn => hpieces n (by simp [hsplit, hn])
  obtain ⟨p, hread, hpath⟩ :=
    ScriptPath.read_foldl_joinPath hne htree.backslash_notMem htree.address hpieces hsplit
  exact ⟨p, hread, ScriptPath.fileName_joinPath hdirs hlast hpath,
    ScriptPath.loweredDirs_joinPath hdirs hlast hpath,
      ScriptPath.parent?_joinPath hdirs hlast hpath⟩

/-- Scripts of a plain tree whose paths are read with the same directories are in one folder. -/
lemma PlainTree.inFolder_of_dirs {ctx : Context} (htree : PlainTree disk cwd root)
    (hroot : disk.locate? cwd root = some dir) {names names' dirs : List Text} {last last' : Text}
    (hnames : names ∈ disk.filesBelow dir) (hsplit : namePieces names = dirs ++ [last])
    (hnames' : names' ∈ disk.filesBelow dir) (hsplit' : namePieces names' = dirs ++ [last'])
    {folder name : Text} {rule : ScopeRule}
    (h : InFolder ctx (names'.foldl joinPath root) folder rule name) :
    folder = folderOf (dirs.foldl joinPath root) ∧
      InFolder ctx (names.foldl joinPath root) folder rule last := by
  obtain ⟨p, c, hread, hclass, hrule, hparent, -⟩ := h
  obtain ⟨p', hread', -, hdirs, hfolder⟩ := htree.exists_read hroot hnames' hsplit'
  obtain rfl := Except.ok.inj (hread.symm.trans hread')
  obtain ⟨q, hread_q, hname_q, hdirs_q, hfolder_q⟩ := htree.exists_read hroot hnames hsplit
  have hscope := classify_map_scope_eq (hdirs_q.trans hdirs.symm) ctx.rules
  rw [hclass, Option.map_some, Option.map_eq_some_iff] at hscope
  obtain ⟨c', hclass', hscope⟩ := hscope
  exact ⟨Option.some.inj (hparent.symm.trans hfolder), q, c', hread_q, hclass', hscope ▸ hrule,
    hfolder_q.trans (hfolder.symm.trans hparent), hname_q⟩

/-- **The scripts of a plain tree are independent.**

**Proof sketch.** A hub file of the folder of a script has the directories of the script in its
path, as far as they are read, and then the name of the hub. No backslash is left in these, so if
another script is there, its path is read as it is: it is in the same folder, and a hub. -/
lemma independent_of_ne {ctx : Context} (hhubs : PlainHubs ctx)
    (hroot : disk.locate? cwd root = some dir) (htree : PlainTree disk cwd root)
    {names names' : List Text} (hnames : names ∈ disk.filesBelow dir)
    (hnames' : names' ∈ disk.filesBelow dir)
    (hne : names.foldl joinPath root ≠ names'.foldl joinPath root) :
    Independent ctx disk cwd (names.foldl joinPath root) (names'.foldl joinPath root) := by
  have hroot_ne := (Disk.walk?_of_locate? hroot).1
  have hpieces' := htree.isName dir hroot names' hnames'
  have hplace : ∀ names ∈ disk.filesBelow dir, ∀ place,
      disk.locate? cwd (names.foldl joinPath root) = some place → place = dir ++ names :=
    fun names hnames place => Disk.eq_append_of_locate? hroot (pathParts_foldl_joinPath hroot_ne
      (isName_of_namePieces (htree.isName dir hroot names hnames)))
  constructor
  · intro place hq hp
    have hplaces := (hplace names hnames place hq).symm.trans (hplace names' hnames' place hp)
    exact hne (by rw [List.append_cancel_left hplaces])
  · intro folder rule name hfolder hub hhub place hlocate hq
    obtain ⟨dirs, last, hsplit'⟩ : ∃ dirs last, namePieces names' = dirs ++ [last] :=
      ⟨_, _, (List.dropLast_concat_getLast
        (namePieces_ne_nil (mem_of_mem_filesBelow hnames').2)).symm⟩
    have hdirs : ∀ n ∈ dirs, n ∈ namePieces names' := fun n hn => by simp [hsplit', hn]
    have hrule : rule ∈ ctx.rules := by
      obtain ⟨-, c, -, -, hrule, -⟩ := hfolder
      exact List.mem_of_find?_eq_some hrule
    obtain ⟨hhub_name, hhub_back, hhub_lower⟩ := hhubs rule hrule hub hhub
    -- The hub file of the folder is where the script `names` is.
    have hparts : pathParts (joinPath folder hub) =
        pathParts root ++ (dirs ++ [hub]).map .name := by
      rw [(htree.inFolder_of_dirs hroot hnames' hsplit' hnames' hsplit' hfolder).1,
        pathParts_joinPath (folderOf_ne_nil _) hhub_name,
        pathParts_folderOf (foldl_joinPath_ne_nil hroot_ne fun n hn => hpieces' n (hdirs n hn)),
        pathParts_foldl_joinPath hroot_ne fun n hn => hpieces' n (hdirs n hn)]
      simp
    have heq : names = dirs ++ [hub] := List.append_cancel_left
      ((hplace names hnames place hq).symm.trans (Disk.eq_append_of_locate? hroot hparts hlocate))
    have hsplit : namePieces names = dirs ++ [hub] := by
      rw [heq]
      refine namePieces_of_notMem fun n hn => ?_
      rcases List.mem_append.mp hn with hn | hn
      · exact backslash_notMem_of_mem_namePieces (hdirs n hn)
      · rwa [List.mem_singleton.mp hn]
    refine ⟨hub, (htree.inFolder_of_dirs hroot hnames hsplit hnames' hsplit' hfolder).2, ?_⟩
    rw [ScopeRule.isHub, hhub_lower]
    exact List.contains_iff_mem.mpr hhub

/-- The scripts below a root are independent if the tree is plain. -/
lemma pairwise_independent {ctx : Context} (hhubs : PlainHubs ctx)
    (htree : disk.isFile cwd root = false → PlainTree disk cwd root) :
    (scriptsUnder disk cwd [root]).Pairwise (Independent ctx disk cwd) := by
  cases hfile : disk.isFile cwd root with
  | true =>
    have hscripts : scriptsUnder disk cwd [root] = [root] := by
      simp [scriptsUnder, scriptsAt, hfile, dropRepeats]
    rw [hscripts]
    exact List.pairwise_singleton _ _
  | false =>
    have htree := htree hfile
    refine (nodup_scriptsUnder hfile htree).imp_of_mem fun {q p} hq hp hne => ?_
    have hq := mem_scriptsAt_of_mem_scriptsUnder hq
    have hp := mem_scriptsAt_of_mem_scriptsUnder hp
    cases hroot : disk.locate? cwd root with
    | none => simp [scriptsAt, hfile, hroot] at hq
    | some dir =>
      obtain ⟨names, hnames, rfl⟩ := exists_names_of_mem_scriptsAt hfile hroot hq
      obtain ⟨names', hnames', rfl⟩ := exists_names_of_mem_scriptsAt hfile hroot hp
      exact independent_of_ne hhubs hroot htree hnames hnames' hne

end

/-! ## Both runs over a tree -/

/-- The run over the scripts at or below a root, which shows edits or writes them. -/
def annotateBelow (ctx : Context) (w : Workspace) (root : Text) (apply : Bool) :
    Except (Disk × Text) AnnotateState :=
  (scriptsUnder w.disk w.cwd [root]).foldlM (annotateScript ctx w.cwd apply) { disk := w.disk }

/-- What a command leaves on the disk whose run succeeds. -/
lemma disk_runAnnotate {ctx : Context} {w : Workspace} {root : Text} {s : AnnotateState}
    (mode : AnnotateMode) (h : annotateBelow ctx w root (mode == .apply) = .ok s) (json : Bool) :
    (runAnnotate ctx w [root] mode json).disk = s.disk := by
  rw [annotateBelow] at h
  simp only [runAnnotate, h]
  rfl

/-- How a check ends whose run succeeds. -/
lemma exit_runAnnotate_check {ctx : Context} {w : Workspace} {root : Text} {s : AnnotateState}
    (h : annotateBelow ctx w root false = .ok s) (json : Bool) :
    (runAnnotate ctx w [root] .check json).exit = .pendingEdits ↔ s.results ≠ [] := by
  have hmode : (AnnotateMode.check == .apply) = false := rfl
  rw [annotateBelow] at h
  simp only [runAnnotate, hmode, h]
  cases s.results <;> simp [Outcome.ofText]

/-- **A run that writes edits finds those that a run shows.** Over the scripts of a plain tree, and
with the default settings, both runs succeed and find the same edits for every file. What the one
leaves on the disk is what writing the edits of the other to the files as they were gives, and a
check fails iff files have been rewritten.

**Proof sketch.** Scripts of a plain tree are pairwise independent: none is the hub of another
one unless its folder is remembered before it is rewritten. So both runs agree from script to
script, and the disk after the applying run has the edits of all scripts written to the files as
they were. -/
theorem annotateBelow_agree {ctx : Context} (hctx : Context.ofSettings Settings.default = .ok ctx)
    {w : Workspace} {root : Text}
    (htree : w.disk.isFile w.cwd root = false → PlainTree w.disk w.cwd root) (json : Bool) :
    ∃ dry applied, annotateBelow ctx w root false = .ok dry ∧
      annotateBelow ctx w root true = .ok applied ∧
      (applied.results.map fun f => (f.path, f.edits)) =
        dry.results.map (fun f => (f.path, f.edits)) ∧
      (∀ mode ≠ .apply, (runAnnotate ctx w [root] mode json).disk = w.disk) ∧
      writeEdits w.disk w.cwd dry.results = .ok (runAnnotate ctx w [root] .apply json).disk ∧
      ((runAnnotate ctx w [root] .check json).exit = .pendingEdits ↔
        ∃ f ∈ applied.results, f.applied = true) := by
  have hpairs := pairwise_independent (plainHubs_of_default hctx) htree
  obtain ⟨dry, applied, hdry, happlied, hagree⟩ := (Agree.start ctx w.disk w.cwd).run hpairs
  have hdry : annotateBelow ctx w root false = .ok dry := hdry
  have happlied : annotateBelow ctx w root true = .ok applied := happlied
  refine ⟨dry, applied, hdry, happlied, ?_, ?_, ?_, ?_⟩
  · rw [hagree.results_eq, List.map_map]
    rfl
  · intro mode hmode
    have hshow : (mode == .apply) = false := beq_eq_false_iff_ne.mpr hmode
    exact (disk_runAnnotate mode (by rw [hshow, hdry]) json).trans hagree.disk_eq
  · rw [hagree.written, disk_runAnnotate .apply happlied json]
  · rw [exit_runAnnotate_check hdry json, hagree.results_eq]
    cases dry.results <;> simp

/-! ## A hub file with a hidden base -/

/-- The edit that puts a line at the start of a text. -/
def startEdit (t line : Text) : Edit :=
  .insert (if t.head? = some byteOrderMark then byteOrderMark.utf8Size else 0) (line ++ ['\n'])

/-- A line at the start of a text is one edit. -/
lemma assemble_fileStart (t line : Text) :
    assemble t [.note [line] .fileStart] = .ok [startEdit t line] := by
  simp [assemble, Changes.ofFragments, Changes.add, Placement.position, Changes.ordered,
    Pending.movedPast, Pending.edit, startEdit, Fragment.render, bind, Except.bind,
      pure, Except.pure]

section

variable {ctx : Context} {cwd : List Text} {disk : Disk} {cache cache' : FolderCache}
  {results : List FileEdits} {path t line : Text} {p : ScriptPath}
  (hread : ScriptPath.read path = .ok p) (htext : disk.readText? cwd path = some t)
  (hfound : unregisteredFragments? ctx (disk.view cwd) p t cache =
    some ([.note [line] .fileStart], cache'))
include hread htext hfound

/-- A script that gets a line at its start, which is shown. -/
lemma annotateScript_fileStart :
    annotateScript ctx cwd false { disk := disk, cache := cache, results := results } path =
      .ok { disk := disk
            cache := cache'
            results := results ++
              [{ path := path, edits := [startEdit t line], applied := false }] } := by
  simp only [annotateScript, htext, annotateQuietly, annotate, readIdentifier, hread,
    fragmentsOf_of_unregistered hfound, assemble_fileStart]
  rfl

/-- A script that gets a line at its start, which is written. -/
lemma annotateScript_fileStart_apply {disk' : Disk}
    (happly : applyToFile disk cwd path t [startEdit t line] = .ok disk') :
    annotateScript ctx cwd true { disk := disk, cache := cache, results := results } path =
      .ok { disk := disk'
            cache := cache'
            results := results ++
              [{ path := path, edits := [startEdit t line], applied := true }] } := by
  simp only [annotateScript, htext, annotateQuietly, annotate, readIdentifier, hread,
    fragmentsOf_of_unregistered hfound, assemble_fileStart, happly]
  rfl

end

/-- A hub file whose text starts with a mark of the byte order, which hides its base. -/
def hiddenBase : Text :=
  byteOrderMark :: "ENT.Base = 'x'".toList

/-- The hub file with a line in front of its base. -/
def shownBase : Text :=
  byteOrderMark :: "---@class lamp : ENT\nENT.Base = 'x'".toList

/-- The hub file of the folder `lamp`, and a script in a directory. -/
def hubTree (hub dir script : Text) : Workspace where
  disk := [(["lua".toList, "entities".toList, "lamp".toList, "init.lua".toList], .file (some hub)),
    (["lua".toList, "entities".toList, dir, "z.lua".toList], .file (some script))]
  cwd := []
  environment := []

/-- The hub file. -/
def hubScript : ScriptPath :=
  ⟨"lua/entities/lamp/init.lua".toList, by decide +kernel⟩

/-- Two scripts that are found in their order. -/
lemma scriptsUnder_pair {disk : Disk} {cwd : List Text} {root a b : Text}
    (hat : scriptsAt disk cwd root = [a, b]) (hne : pathParts b ≠ pathParts a)
    (hle : pathOrder (pathParts a) (pathParts b) ≠ .gt) :
    scriptsUnder disk cwd [root] = [a, b] := by
  have hsorted : [a, b].Pairwise fun a b =>
      (pathOrder (pathParts a) (pathParts b) != .gt) = true := by
    simpa using hle
  rw [scriptsUnder, List.flatMap_singleton, hat, List.mergeSort_of_pairwise hsorted]
  simp [dropRepeats, hne]

/-- A run over two scripts. -/
lemma annotateBelow_pair {ctx : Context} {w : Workspace} {root a b : Text} {apply : Bool}
    {s s' : AnnotateState} (hscripts : scriptsUnder w.disk w.cwd [root] = [a, b])
    (ha : annotateScript ctx w.cwd apply { disk := w.disk } a = .ok s)
    (hb : annotateScript ctx w.cwd apply s b = .ok s') :
    annotateBelow ctx w root apply = .ok s' := by
  rw [annotateBelow, hscripts, List.foldlM_cons, ha]
  simp only [bind, Except.bind, List.foldlM_cons, hb, List.foldlM_nil]
  rfl

/-- What is remembered of the folder `lamp` while its base is hidden. -/
def lampCache : FolderCache :=
  [(("lua/entities/lamp".toList, "ENT".toList), .literal "ENT".toList)]

/-- A hub file is written that hides the base of its folder and shows it then. The next script in
the folder still gets the base that is remembered. -/
theorem annotateBelow_agree_hidden_base :
    ∃ ctx dry applied, Context.ofSettings Settings.default = .ok ctx ∧
      PlainTree (hubTree hiddenBase "lamp".toList []).disk [] "lua".toList ∧
      annotateBelow ctx (hubTree hiddenBase "lamp".toList []) "lua".toList false = .ok dry ∧
      annotateBelow ctx (hubTree hiddenBase "lamp".toList []) "lua".toList true = .ok applied ∧
      dry.results.map (·.edits) = [[startEdit hiddenBase "---@class lamp : ENT".toList],
        [startEdit [] "---@class lamp : ENT".toList]] ∧
      (applied.results.map fun f => (f.path, f.edits)) =
        dry.results.map (fun f => (f.path, f.edits)) ∧
      ∃ f ∈ applied.results, f.applied = true := by
  obtain ⟨ctx, hctx⟩ := Context.exists_default
  have htree : PlainTree (hubTree hiddenBase "lamp".toList []).disk [] "lua".toList := by
    refine ⟨by decide +kernel, by decide, by decide, fun dir hdir => ?_⟩
    obtain rfl : ["lua".toList] = dir := Option.some.inj (Eq.trans (by decide +kernel) hdir)
    decide +kernel
  have hcheck := Context.check_of_default (fun ctx =>
    let view := (hubTree hiddenBase "lamp".toList []).disk.view []
    let found := some ([.note ["---@class lamp : ENT".toList] .fileStart], lampCache)
    unregisteredFragments? ctx view hubScript hiddenBase [] == found &&
      unregisteredFragments? ctx view ⟨"lua/entities/lamp/z.lua".toList, by decide +kernel⟩ []
        lampCache == found) hctx (by decide +kernel)
  simp only [Bool.and_eq_true, beq_iff_eq] at hcheck
  have hscripts : scriptsUnder (hubTree hiddenBase "lamp".toList []).disk [] ["lua".toList] =
      ["lua/entities/lamp/init.lua".toList, "lua/entities/lamp/z.lua".toList] :=
    scriptsUnder_pair (by decide +kernel) (by decide +kernel) (by decide +kernel)
  have hdry := annotateBelow_pair hscripts (annotateScript_fileStart rfl rfl hcheck.1)
    (annotateScript_fileStart rfl rfl hcheck.2)
  obtain ⟨dry, applied, hdry', happlied, hedits, -, -, hexit⟩ := annotateBelow_agree hctx
    (fun _ => htree) false
  obtain rfl := Except.ok.inj (hdry.symm.trans hdry')
  refine ⟨ctx, _, applied, hctx, htree, hdry, happlied, rfl, hedits, hexit.mp ?_⟩
  rw [exit_runAnnotate_check hdry]
  simp

/-- In the directory `lamp\` the folder of a script is spelled `lamp/`, so the base of `lamp` is not
remembered for it: it is read again after the hub file has been written, and is not hidden then. -/
theorem annotateBelow_disagree_backslash :
    ∃ ctx dry applied, Context.ofSettings Settings.default = .ok ctx ∧
      annotateBelow ctx (hubTree hiddenBase "lamp\\".toList []) "lua".toList false = .ok dry ∧
      annotateBelow ctx (hubTree hiddenBase "lamp\\".toList []) "lua".toList true = .ok applied ∧
      dry.results.map (·.edits) = [[startEdit hiddenBase "---@class lamp : ENT".toList],
        [startEdit [] "---@class lamp : ENT".toList]] ∧
      applied.results.map (·.edits) = [[startEdit hiddenBase "---@class lamp : ENT".toList],
        [startEdit [] "---@class lamp : x".toList]] := by
  have hscripts : scriptsUnder (hubTree hiddenBase "lamp\\".toList []).disk [] ["lua".toList] =
      ["lua/entities/lamp/init.lua".toList, "lua/entities/lamp\\/z.lua".toList] :=
    scriptsUnder_pair (by decide +kernel) (by decide +kernel) (by decide +kernel)
  obtain ⟨ctx, hctx⟩ := Context.exists_default
  have hcheck := Context.check_of_default (fun ctx =>
    let view := (hubTree hiddenBase "lamp\\".toList []).disk.view []
    let view' := (hubTree shownBase "lamp\\".toList []).disk.view []
    let script : ScriptPath := ⟨"lua/entities/lamp//z.lua".toList, by decide +kernel⟩
    unregisteredFragments? ctx view hubScript hiddenBase [] ==
        some ([.note ["---@class lamp : ENT".toList] .fileStart], lampCache) &&
      unregisteredFragments? ctx view script [] lampCache ==
        some ([.note ["---@class lamp : ENT".toList] .fileStart], lampCache ++
          [(("lua/entities/lamp/".toList, "ENT".toList), .literal "ENT".toList)]) &&
      unregisteredFragments? ctx view' script [] lampCache ==
        some ([.note ["---@class lamp : x".toList] .fileStart], lampCache ++
          [(("lua/entities/lamp/".toList, "ENT".toList), .literal "x".toList)])) hctx
    (by decide +kernel)
  simp only [Bool.and_eq_true, beq_iff_eq] at hcheck
  obtain ⟨⟨hhub, hdry⟩, happlied⟩ := hcheck
  have happly : applyToFile (hubTree hiddenBase "lamp\\".toList []).disk []
      "lua/entities/lamp/init.lua".toList hiddenBase
      [startEdit hiddenBase "---@class lamp : ENT".toList] =
        .ok (hubTree shownBase "lamp\\".toList []).disk := rfl
  have happly' : applyToFile (hubTree shownBase "lamp\\".toList []).disk []
      "lua/entities/lamp\\/z.lua".toList [] [startEdit [] "---@class lamp : x".toList] =
        .ok (hubTree shownBase "lamp\\".toList "---@class lamp : x\n".toList).disk := rfl
  have hread : ScriptPath.read "lua/entities/lamp/init.lua".toList = .ok hubScript := rfl
  have hread' : ScriptPath.read "lua/entities/lamp\\/z.lua".toList =
      .ok ⟨"lua/entities/lamp//z.lua".toList, by decide +kernel⟩ := rfl
  have htext : (hubTree hiddenBase "lamp\\".toList []).disk.readText? []
      "lua/entities/lamp/init.lua".toList = some hiddenBase := by decide +kernel
  have htext' : (hubTree shownBase "lamp\\".toList []).disk.readText? []
      "lua/entities/lamp\\/z.lua".toList = some [] := by decide +kernel
  have hrun := annotateBelow_pair hscripts (annotateScript_fileStart hread htext hhub)
    (annotateScript_fileStart hread' rfl hdry)
  have hrun' := annotateBelow_pair hscripts (annotateScript_fileStart_apply hread htext hhub happly)
    (annotateScript_fileStart_apply hread' htext' happlied happly')
  exact ⟨ctx, _, _, hctx, hrun, hrun', rfl, rfl⟩

end Gloss
