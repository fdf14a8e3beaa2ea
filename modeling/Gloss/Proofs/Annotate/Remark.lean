import Gloss.Proofs.Annotate.Default
import Gloss.Proofs.Annotate.Total

/-!
# When annotation only adds remarks

Annotation copies texts of a script into annotation lines: the key of an accessor, the name and the
base of a registered control. All other parts of the lines are single lines: names of the script
language, types from the settings, the name of a type that a path gives, and what patterns read that
do not go over line feeds. So whether annotation only adds remarks is a question about those copied
texts, and only where they are documented.

## Main definitions

* `AccessorCall.Documented`: the calls whose lines are put into the script.
* `FolderCache.OneLine`: all bases that are remembered are single lines.

## Main results

* `resolveTarget_oneLine`: the type of a script and its base are single lines.
* `insertions_remarks_iff`: annotation only adds remarks iff the copied texts are harmless.
-/

set_option relaxedAutoImplicit false
set_option autoImplicit false

namespace Gloss

open Text

/-! ## The type of a script -/

/-- A base that a text declares is one line, if the groups of the pattern are. -/
lemma not_mem_of_declaredBase? {assignment : Pattern} {t : Text} {base : Base} {c : Char}
    (hgroups : ∀ index ∈ [1, 2, 3], assignment.expr.groupAvoids c index = true)
    (h : declaredBase? assignment t = some base) : c ∉ base.value := by
  obtain ⟨m, hm, h⟩ := Option.bind_eq_some_iff.mp h
  have hmatch := (Expr.find?_in hm).1
  split at h
  · next piece hpiece =>
    obtain rfl : _ = base := by simpa using h
    rcases Option.or_eq_some_iff.mp hpiece with h₁ | ⟨-, h₂⟩
    · exact Expr.matchAt?_group_avoids (hgroups 1 (by simp)) hmatch h₁
    · exact Expr.matchAt?_group_avoids (hgroups 2 (by simp)) hmatch h₂
  · obtain ⟨piece, hpiece, rfl⟩ := Option.map_eq_some_iff.mp h
    exact Expr.matchAt?_group_avoids (hgroups 3 (by simp)) hmatch hpiece

/-- All bases that are remembered are single lines. -/
def FolderCache.OneLine (cache : FolderCache) : Prop :=
  ∀ entry ∈ cache, '\n' ∉ entry.2.value

variable {ctx : Context} {files : FileView} {rule : ScopeRule} {cache : FolderCache} {t : Text}

/-- Looking up the base of a folder gives a single line, and what is remembered stays so. -/
lemma FolderCache.OneLine.getOrInsert (h : cache.OneLine) {base : Base} (hbase : '\n' ∉ base.value)
    (folder scope : Text) :
    '\n' ∉ (cache.getOrInsert folder scope base).1.value ∧
      FolderCache.OneLine (cache.getOrInsert folder scope base).2 := by
  simp only [FolderCache.getOrInsert]
  split
  · next known hknown =>
    obtain ⟨before, after, hcache, -⟩ := List.lookup_eq_some_iff.mp hknown
    refine ⟨h (FolderCache.key folder scope, known) ?_, h⟩
    rw [hcache]
    simp
  · refine ⟨hbase, fun entry hentry => ?_⟩
    rcases List.mem_append.mp hentry with hentry | hentry
    · exact h entry hentry
    · obtain rfl := List.mem_singleton.mp hentry
      exact hbase

/-- The base of a folder is one line. -/
lemma not_mem_folderBase (hctx : ctx.OneLine) (hrule : rule ∈ ctx.rules) (files : FileView)
    (dir : Text) : '\n' ∉ (folderBase files rule dir).value := by
  simp only [folderBase]
  cases h : (rule.hubs.filterMap fun hub => files.read? (joinPath dir hub)).findSome?
      (declaredBase? rule.baseAssignment) with
  | none => exact (hctx.bases rule hrule).1
  | some base =>
    obtain ⟨content, -, hbase⟩ := List.exists_of_findSome?_eq_some h
    exact not_mem_of_declaredBase? (hctx.bases rule hrule).2 hbase

/-- The base of the folder that is found for a script is a single line, and all bases that are
remembered stay single lines. -/
lemma detectFolder_oneLine (hctx : ctx.OneLine) (hrule : rule ∈ ctx.rules) (hcache : cache.OneLine)
    (files : FileView) (p : ScriptPath) (typeName : Text) :
    (∀ scope ∈ (detectFolder files rule p typeName cache).1, '\n' ∉ scope.base.value) ∧
      FolderCache.OneLine (detectFolder files rule p typeName cache).2 := by
  simp only [detectFolder]
  split
  · exact ⟨by simp, hcache⟩
  · next dir _ =>
    split
    · obtain ⟨hbase, hnext⟩ := hcache.getOrInsert (not_mem_folderBase hctx hrule files dir) dir
        rule.scope
      refine ⟨fun scope hscope => ?_, hnext⟩
      obtain rfl : _ = scope := by simpa using hscope
      exact hbase
    · exact ⟨by simp, hcache⟩

/-- The segments of a path are parts of it. -/
lemma ScriptPath.subset_of_mem_segments {p : ScriptPath} {segment : Text}
    (h : segment ∈ p.segments) :
    segment ⊆ p.path :=
  subset_of_mem_split (List.mem_of_mem_filter h)

/-- The stem of the file has no other characters than the path. -/
lemma ScriptPath.fileStem_subset (p : ScriptPath) : p.fileStem ⊆ p.path := by
  have hname : p.fileName ⊆ p.path := subset_of_mem_segments (List.getLast_mem p.segments_ne_nil)
  simp only [fileStem]
  split
  · next c d rest hdrop =>
    intro x hx
    have hmem : x ∈ p.fileName.reverse.drop (p.fileName.reverse.takeWhile (· != '.')).length := by
      rw [hdrop]
      exact List.mem_cons_of_mem _ (List.mem_reverse.mp hx)
    exact hname (List.mem_reverse.mp (List.mem_of_mem_drop hmem))
  · exact hname

/-- The name of a type is a part of the path. -/
lemma typeNameAfter_subset (p : ScriptPath) (stop : Nat) : typeNameAfter p stop ⊆ p.path := by
  rw [typeNameAfter]
  split
  · exact p.fileStem_subset
  · rw [List.getD_eq_getElem?_getD]
    cases h : p.segments[stop]? with
    | none => simp
    | some segment => exact ScriptPath.subset_of_mem_segments (List.mem_of_getElem? h)

/-- **The type of a script and its base are single lines**, if the path is one, and all bases that
are remembered stay single lines.

**Proof sketch.** The name of the type is a piece of the path. The base is assigned in the text, and
then its pattern gives a single line; or it is the base of a folder, which is remembered or read
with such a pattern; or it is that of the scope. -/
lemma resolveTarget_oneLine (hctx : ctx.OneLine) {p : ScriptPath} (hpath : '\n' ∉ p.path)
    (hcache : cache.OneLine) (files : FileView) (t : Text) :
    (∀ target ∈ (resolveTarget ctx files p t cache).1,
      '\n' ∉ target.typeName ∧ '\n' ∉ target.base.value) ∧
      FolderCache.OneLine (resolveTarget ctx files p t cache).2 := by
  simp only [resolveTarget]
  split
  · exact ⟨by simp, hcache⟩
  · next c hclass =>
    split
    · exact ⟨by simp, hcache⟩
    · next rule hfind =>
      have hrule : rule ∈ ctx.rules := List.mem_of_find?_eq_some hfind
      obtain ⟨hfolder, hnext⟩ := detectFolder_oneLine hctx hrule hcache files p c.typeName
      refine ⟨fun target htarget => ?_, hnext⟩
      obtain rfl : _ = target := by simpa [targetUnder] using htarget
      refine ⟨fun hmem => ?_, ?_⟩
      · obtain ⟨best, -, rfl⟩ := Option.map_eq_some_iff.mp hclass
        exact hpath (typeNameAfter_subset p best.stop hmem)
      · show '\n' ∉ (Option.getD _ _ : Base).value
        cases hdeclared : declaredBase? rule.baseAssignment t with
        | some base => exact not_mem_of_declaredBase? (hctx.bases rule hrule).2 hdeclared
        | none =>
          cases hdetected : (detectFolder files rule p c.typeName cache).1 with
          | none => exact (hctx.bases rule hrule).1
          | some scope => exact hfolder scope hdetected

/-- The type of a meta table is one line. -/
lemma not_mem_of_owner?_metaTable (hctx : ctx.OneLine) {receiver type : Text} {offset : Nat}
    (h : (Bindings.ofText ctx t).owner? receiver offset = some (.metaTable type)) :
    '\n' ∉ type := by
  simp only [Bindings.owner?] at h
  split at h
  · obtain ⟨name, -, h⟩ := Option.map_eq_some_iff.mp h
    split at h
    · next found hlast =>
      obtain rfl : found = type := by simpa using h
      obtain ⟨binding, hbinding, rfl⟩ := Option.map_eq_some_iff.mp hlast
      have hmem := List.mem_reverse.mp (List.mem_of_find?_eq_some hbinding)
      obtain ⟨m, hm, hb⟩ := List.mem_filterMap.mp hmem
      obtain ⟨variableName, -, hb⟩ := Option.bind_eq_some_iff.mp hb
      obtain ⟨piece, hpiece, rfl⟩ := Option.map_eq_some_iff.mp hb
      exact Expr.matchAt?_group_avoids hctx.metaTable (Expr.findAll_in m hm).1 hpiece
    · simp at h
  · simp at h

/-! ## The lines that are put into a script -/

/-- All lines of the fragment are remarks. -/
def Fragment.IsRemark (f : Fragment) : Prop :=
  ∀ line ∈ f.lines, Remarks line

/-- The name of accessors is one line. -/
lemma not_mem_name_of_mem_accessorCalls {call : AccessorCall} (h : call ∈ accessorCalls ctx t) :
    '\n' ∉ call.name := by
  obtain ⟨site, -, hcall⟩ := List.mem_filterMap.mp h
  exact not_mem_of_isIdentifier (AccessorCall.ofSite?_spec hcall).2

/-- The name of a networked field is an identifier. -/
lemma NetworkField.isIdentifier_name {arguments : List Text} {field : NetworkField}
    (h : NetworkField.ofList? arguments = some field) : isIdentifier field.name = true := by
  simp only [ofList?] at h
  split at h
  · obtain ⟨declared, -, h⟩ := Option.bind_eq_some_iff.mp h
    obtain ⟨name, hname, rfl⟩ := Option.map_eq_some_iff.mp h
    exact (Option.filter_eq_some_iff.mp hname).2
  · split at h
    · obtain ⟨declared, -, h⟩ := Option.bind_eq_some_iff.mp h
      obtain ⟨name, hname, rfl⟩ := Option.map_eq_some_iff.mp h
      exact (Option.filter_eq_some_iff.mp hname).2
    · simp at h
  · simp at h

/-- The name of a networked field is one line. -/
lemma not_mem_name_of_mem_networkCalls {call : NetworkCall} (h : call ∈ networkCalls ctx t) :
    '\n' ∉ call.field.name := by
  obtain ⟨site, -, hcall⟩ := List.mem_filterMap.mp h
  obtain ⟨field, hfield, rfl⟩ := Option.map_eq_some_iff.mp hcall
  exact not_mem_of_isIdentifier (NetworkField.isIdentifier_name hfield)

/-! ### Blocks for meta tables -/

/-- The block of one type is a remark iff the lines of that type are. -/
lemma InlineGroups.isRemark_fragment?_iff {g : InlineGroup} (hname : '\n' ∉ g.typeName)
    (hmark : ∀ line ∈ g.lines, remarkMark <+: line) (t : Text) :
    (∀ f ∈ fragment? t g, f.IsRemark) ↔ ∀ line ∈ g.lines, Remarks line := by
  have hclass : Remarks (classLine g.typeName none) := by
    refine remarks_of_not_mem ?_ (mark_prefix_classLine _ _)
    simp only [classLine, List.mem_append, List.mem_cons, not_or]
    exact ⟨by decide, by decide, hname⟩
  rw [← forall_missingLines_iff hmark t]
  simp only [fragment?]
  split
  · next hnil => simp [hnil]
  · simp [Fragment.IsRemark, Fragment.lines, hclass]

/-- **The blocks for calls on meta tables** are remarks iff the lines of the calls are.

**Proof sketch.** The lines of the groups after all calls are the lines of the calls, and the groups
have the names of their types. Both facts are about the fold, so what is left is one group: its
block is a remark iff its lines are, since the line of its class is one. -/
lemma InlineGroups.isRemark_foldl_iff {α : Type} {push : InlineGroups → α → InlineGroups}
    {typeOf : α → Option Text} {anchorOf : α → Nat} {linesOf : α → Text → List Text}
    (hpush : ∀ groups call, push groups call = (typeOf call).elim groups fun type =>
      groups.push type (anchorOf call) (linesOf call type))
    {calls : List α} (hname : ∀ call ∈ calls, ∀ type ∈ typeOf call, '\n' ∉ type)
    (hmark : ∀ call type, ∀ line ∈ linesOf call type, remarkMark <+: line) (t : Text) :
    (∀ f ∈ InlineGroups.fragments (calls.foldl push []) t, f.IsRemark) ↔
      ∀ call ∈ calls, ∀ type ∈ typeOf call, ∀ line ∈ linesOf call type, Remarks line := by
  have hlines : ∀ Q : Text → Prop, AllLines Q (calls.foldl push []) ↔
      ∀ call ∈ calls, ∀ type ∈ typeOf call, ∀ line ∈ linesOf call type, Q line := fun Q =>
    (allLines_foldl_iff hpush Q calls []).trans (and_iff_right (by simp [AllLines]))
  have htypes : ∀ g ∈ calls.foldl push [], '\n' ∉ g.typeName := by
    intro g hg
    obtain ⟨call, hcall, htype⟩ := exists_call_of_mem_foldl hpush hg
    exact hname call hcall g.typeName htype
  have hmarks := (hlines (remarkMark <+: ·)).mpr fun call _ type _ => hmark call type
  rw [← hlines]
  simp only [InlineGroups.fragments, AllLines, List.mem_filterMap, forall_exists_index, and_imp]
  constructor
  · intro h g hg
    exact (isRemark_fragment?_iff (htypes g hg) (hmarks g hg) t).mp fun f hf => h f g hg hf
  · intro h f g hg hf
    exact (isRemark_fragment?_iff (htypes g hg) (hmarks g hg) t).mpr (h g hg) f hf

/-- The blocks of accessors of meta tables are remarks iff the keys are harmless. -/
lemma isRemark_accessorFragments_iff (hctx : ctx.OneLine) (t : Text) :
    (∀ f ∈ accessorFragments ctx (Bindings.ofText ctx t) t, f.IsRemark) ↔
      ∀ call ∈ accessorCalls ctx t, ∀ type,
        (Bindings.ofText ctx t).owner? call.target call.site.start = some (.metaTable type) →
          ∀ key ∈ call.key, Harmless key := by
  have hname : ∀ call : AccessorCall, ∀ type ∈ (Bindings.ofText ctx t).metaType? call.target
      call.site.start, '\n' ∉ type := fun call type htype =>
    not_mem_of_owner?_metaTable hctx (Bindings.metaType?_eq_some_iff.mp htype)
  rw [accessorFragments,
    InlineGroups.isRemark_foldl_iff (pushAccessor_eq ctx _) (fun call _ => hname call)
    (fun call type => call.mark_prefix_lines ctx type)]
  refine forall_congr' fun call => imp_congr_right fun hcall => forall_congr' fun type => ?_
  rw [Option.mem_def, Bindings.metaType?_eq_some_iff]
  refine imp_congr_right fun htype => ?_
  rw [AccessorCall.remarks_lines_iff hctx (not_mem_name_of_mem_accessorCalls hcall)]
  exact and_iff_right (harmless_of_not_mem (not_mem_of_owner?_metaTable hctx htype))

/-- The blocks of networked fields of meta tables are remarks. -/
lemma isRemark_of_mem_networkFragments (hctx : ctx.OneLine) (t : Text) :
    ∀ f ∈ networkFragments ctx (Bindings.ofText ctx t) t, f.IsRemark := by
  have hname : ∀ call : NetworkCall, ∀ type ∈ (Bindings.ofText ctx t).metaType? call.receiver
      call.site.start, '\n' ∉ type := fun call type htype =>
    not_mem_of_owner?_metaTable hctx (Bindings.metaType?_eq_some_iff.mp htype)
  rw [networkFragments,
    InlineGroups.isRemark_foldl_iff (pushNetwork_eq ctx _) (fun call _ => hname call)
    (fun call type => call.field.mark_prefix_lines ctx type)]
  intro call hcall type htype
  rw [NetworkField.remarks_lines_iff hctx (not_mem_name_of_mem_networkCalls hcall)]
  exact harmless_of_not_mem (hname call type htype)

/-! ### Fields of tables -/

/-- The lines of calls that give fields start with the mark of a remark. -/
lemma FieldCalls.mark_prefix_lines (ctx : Context) (b : Bindings) (calls : FieldCalls)
    (table owner : Text) (start stop : Nat) :
    ∀ line ∈ calls.lines ctx b table owner start stop, remarkMark <+: line := by
  intro line hline
  rcases List.mem_append.mp hline with hline | hline
  · obtain ⟨call, -, hline⟩ := List.mem_flatMap.mp hline
    exact call.mark_prefix_lines ctx owner line hline
  · obtain ⟨call, -, hline⟩ := List.mem_flatMap.mp hline
    exact call.field.mark_prefix_lines ctx owner line hline

/-- The fields of a table are remarks iff the keys of its accessors are harmless, if the name of its
type is. -/
lemma FieldCalls.remarks_lines_iff (hctx : ctx.OneLine) (b : Bindings) (t : Text) {owner : Text}
    (howner : Harmless owner) (table : Text) (start stop : Nat) :
    (∀ line ∈ (FieldCalls.ofText ctx t).lines ctx b table owner start stop, Remarks line) ↔
      ∀ call ∈ accessorCalls ctx t, (start ≤ call.site.start ∧ call.site.start < stop) ∧
        b.ownedBy call.target call.site.start table = true → ∀ key ∈ call.key, Harmless key := by
  have hnetwork : ∀ line ∈ networkFields ctx b (networkCalls ctx t) table owner start stop,
      Remarks line := by
    intro line hline
    obtain ⟨call, hcall, hline⟩ := List.mem_flatMap.mp hline
    have hname := not_mem_name_of_mem_networkCalls (List.mem_of_mem_filter hcall)
    exact (NetworkField.remarks_lines_iff hctx hname owner).mpr howner line hline
  simp only [FieldCalls.lines, FieldCalls.ofText, List.forall_mem_append, and_iff_left hnetwork,
    accessorFields, List.mem_flatMap, List.mem_filter, Bool.and_eq_true, decide_eq_true_eq]
  constructor
  · intro h call hcall hspan
    have hname := not_mem_name_of_mem_accessorCalls hcall
    exact ((AccessorCall.remarks_lines_iff hctx hname owner).mp fun line hline =>
      h line ⟨call, ⟨hcall, hspan⟩, hline⟩).2
  · rintro h line ⟨call, ⟨hcall, hspan⟩, hline⟩
    have hname := not_mem_name_of_mem_accessorCalls hcall
    exact (AccessorCall.remarks_lines_iff hctx hname owner).mpr ⟨howner, h call hcall hspan⟩ line
      hline

/-- The block for the type of a script is a remark iff the keys of the accessors of its table are
harmless. -/
lemma isRemark_scopedFragment?_iff (hctx : ctx.OneLine) (b : Bindings) (t : Text)
    {target : ScopeTarget} (htype : '\n' ∉ target.typeName) (hbase : '\n' ∉ target.base.value) :
    (∀ f ∈ scopedFragment? ctx b t target, f.IsRemark) ↔
      ∀ call ∈ accessorCalls ctx t, b.ownedBy call.target call.site.start target.scope = true →
        ∀ key ∈ call.key, Harmless key := by
  have hclass : Remarks target.classLine := (remarks_classLine_iff _ _).mpr
    ⟨harmless_of_not_mem htype, harmlessAtEnd_of_not_mem hbase⟩
  have hfields : (∀ line ∈ missingLines t (scopedFields ctx b t target), Remarks line) ↔
      ∀ call ∈ accessorCalls ctx t, b.ownedBy call.target call.site.start target.scope = true →
        ∀ key ∈ call.key, Harmless key := by
    rw [scopedFields, forall_missingLines_iff (FieldCalls.mark_prefix_lines _ _ _ _ _ _ _),
      FieldCalls.remarks_lines_iff hctx b t (harmless_of_not_mem htype)]
    refine forall_congr' fun call => imp_congr_right fun hcall => ?_
    have hspans := spans_of_mem_accessorCalls hcall
    have hstart : call.site.start < t.size :=
      Nat.lt_of_lt_of_le hspans.start_lt_close (le_size_of_isBoundary hspans.isBoundary_close)
    simp [hstart]
  rw [← hfields]
  simp only [scopedFragment?]
  split
  · split
    · next hempty =>
      have hnil := List.isEmpty_iff.mp hempty
      simp [hnil]
    · simp [Fragment.IsRemark, Fragment.lines]
  · simp [Fragment.IsRemark, Fragment.lines, hclass]

/-- The default base of a registered control is one line. -/
lemma not_mem_defaultBase (hctx : ctx.OneLine) {r : Registration} (h : r ∈ registrations ctx t) :
    '\n' ∉ r.defaultBase := by
  obtain ⟨rule, hrule, hr⟩ := List.mem_flatMap.mp ((List.mergeSort_perm _ _).mem_iff.mp h)
  obtain ⟨site, -, hr⟩ := List.mem_filterMap.mp hr
  obtain ⟨shape, -, rfl⟩ := Option.map_eq_some_iff.mp hr
  exact hctx.defaultBases rule hrule

/-- The block of a registered control is a remark iff its name, its base and the keys of its
accessors are harmless. -/
lemma isRemark_registrationFragment?_iff (hctx : ctx.OneLine) (b : Bindings) {r : Registration}
    (hr : r ∈ registrations ctx t) {assignment : Nat}
    (hassignment : assignmentBefore? ctx t r.shape.table r.site.start = some assignment)
    {f : Fragment} (hf : registrationFragment? ctx b (.ofText ctx t) t r = some f) :
    f.IsRemark ↔ (Harmless r.shape.name ∧ ∀ base ∈ r.shape.base, HarmlessAtEnd base) ∧
      ∀ call ∈ accessorCalls ctx t,
        (assignment ≤ call.site.start ∧ call.site.start < r.site.start) ∧
        b.ownedBy call.target call.site.start r.shape.table = true →
          ∀ key ∈ call.key, Harmless key := by
  obtain ⟨-, assignment', hassignment', rfl⟩ := registrationFragment?_eq_some_iff.mp hf
  obtain rfl := Option.some.inj (hassignment.symm.trans hassignment')
  have hbase : HarmlessAtEnd r.base ↔ ∀ base ∈ r.shape.base, HarmlessAtEnd base := by
    rw [Registration.base]
    cases r.shape.base with
    | none => simpa using harmlessAtEnd_of_not_mem (not_mem_defaultBase hctx hr)
    | some base => simp
  simp only [Fragment.IsRemark, Fragment.lines, List.forall_mem_cons, remarks_classLine_iff, hbase]
  refine and_congr_right fun hname => ?_
  rw [registrationFields, forall_missingLines_iff (FieldCalls.mark_prefix_lines _ _ _ _ _ _ _),
    FieldCalls.remarks_lines_iff hctx b t hname.1]

/-! ## What annotation adds -/

/-- The lines of the call are put into the script: it is a call on a meta table, on the table of the
scope, or on the table of a registered control, between its assignment and its registration. -/
def AccessorCall.Documented (ctx : Context) (target : Option ScopeTarget) (t : Text)
    (call : AccessorCall) : Prop :=
  call ∈ accessorCalls ctx t ∧
    ((∃ type, (Bindings.ofText ctx t).owner? call.target call.site.start =
        some (.metaTable type)) ∨
      (∃ owner ∈ target,
        (Bindings.ofText ctx t).ownedBy call.target call.site.start owner.scope = true) ∨
      ∃ r : Registration, r.Documented ctx t ∧
        ∃ assignment, assignmentBefore? ctx t r.shape.table r.site.start = some assignment ∧
          (assignment ≤ call.site.start ∧ call.site.start < r.site.start) ∧
          (Bindings.ofText ctx t).ownedBy call.target call.site.start r.shape.table = true)

/-- The texts that annotation copies into a script are harmless. -/
def CopiesHarmless (ctx : Context) (target : Option ScopeTarget) (t : Text) : Prop :=
  (∀ call : AccessorCall, call.Documented ctx target t → ∀ key ∈ call.key, Harmless key) ∧
    ∀ r : Registration, r.Documented ctx t →
      Harmless r.shape.name ∧ ∀ base ∈ r.shape.base, HarmlessAtEnd base

/-- The blocks of registered controls are remarks iff what is copied into them is harmless. -/
lemma isRemark_registrationFragments_iff (hctx : ctx.OneLine) (b : Bindings) (t : Text) :
    (∀ f ∈ registrationFragments ctx b t, f.IsRemark) ↔
      ∀ r : Registration, r.Documented ctx t →
        (Harmless r.shape.name ∧ ∀ base ∈ r.shape.base, HarmlessAtEnd base) ∧
          ∀ assignment, assignmentBefore? ctx t r.shape.table r.site.start = some assignment →
            ∀ call ∈ accessorCalls ctx t,
              (assignment ≤ call.site.start ∧ call.site.start < r.site.start) ∧
                b.ownedBy call.target call.site.start r.shape.table = true →
                  ∀ key ∈ call.key, Harmless key := by
  constructor
  · intro h r hr
    obtain ⟨f, hf⟩ : ∃ f, registrationFragment? ctx b (.ofText ctx t) t r = some f :=
      exists_registrationFragment?_iff.mpr hr.wanted
    obtain ⟨-, assignment, hassignment, -⟩ := registrationFragment?_eq_some_iff.mp hf
    have hone := (isRemark_registrationFragment?_iff hctx b hr.mem hassignment hf).mp
      (h f (mem_registrationFragments_iff.mpr ⟨r, hr, hf⟩))
    refine ⟨hone.1, fun assignment' hassignment' => ?_⟩
    obtain rfl := Option.some.inj (hassignment.symm.trans hassignment')
    exact hone.2
  · intro h f hf
    obtain ⟨r, hr, hf⟩ := mem_registrationFragments_iff.mp hf
    obtain ⟨-, assignment, hassignment, -⟩ := registrationFragment?_eq_some_iff.mp hf
    exact (isRemark_registrationFragment?_iff hctx b hr.mem hassignment hf).mpr
      ⟨(h r hr).1, (h r hr).2 assignment hassignment⟩

/-- **All fragments of a script are remarks** iff the copied texts are harmless.

**Proof sketch.** Replacements have no lines, and networked fields of meta tables copy nothing. What
is left are the three ways in which a call that makes accessors is documented, and the names and
bases of registered controls. -/
lemma isRemark_fragmentsFor_iff (hctx : ctx.OneLine) {target : Option ScopeTarget}
    (htarget : ∀ owner ∈ target, '\n' ∉ owner.typeName ∧ '\n' ∉ owner.base.value) (t : Text) :
    (∀ f ∈ fragmentsFor ctx target t, f.IsRemark) ↔ CopiesHarmless ctx target t := by
  have hbase : ∀ f ∈ baseCallFragments ctx t, f.IsRemark := by
    intro f hf
    obtain ⟨site, -, rfl⟩ := List.mem_map.mp hf
    simp [Fragment.IsRemark, Fragment.lines]
  have hscoped : (∀ f ∈ (target.bind (scopedFragment? ctx (Bindings.ofText ctx t) t)).toList,
      f.IsRemark) ↔ ∀ owner ∈ target, ∀ call ∈ accessorCalls ctx t,
        (Bindings.ofText ctx t).ownedBy call.target call.site.start owner.scope = true →
          ∀ key ∈ call.key, Harmless key := by
    cases target with
    | none => simp
    | some owner =>
      obtain ⟨htype, hbase⟩ := htarget owner rfl
      simpa using isRemark_scopedFragment?_iff hctx (Bindings.ofText ctx t) t htype hbase
  have hnetwork := isRemark_of_mem_networkFragments hctx t
  simp only [fragmentsFor, List.forall_mem_append, and_iff_right hbase, and_iff_left hnetwork,
    hscoped, isRemark_registrationFragments_iff hctx, isRemark_accessorFragments_iff hctx]
  constructor
  · rintro ⟨⟨hscope, hregistration⟩, hmeta⟩
    refine ⟨?_, fun r hr => (hregistration r hr).1⟩
    rintro call ⟨hcall, ⟨type, htype⟩ | ⟨owner, howner, howned⟩ |
      ⟨r, hr, assignment, hassignment, hspan, howned⟩⟩
    · exact hmeta call hcall type htype
    · exact hscope owner howner call hcall howned
    · exact (hregistration r hr).2 assignment hassignment call hcall ⟨hspan, howned⟩
  · rintro ⟨hcalls, hregistrations⟩
    refine ⟨⟨fun owner howner call hcall howned => ?_, fun r hr => ⟨hregistrations r hr, ?_⟩⟩, ?_⟩
    · exact hcalls call ⟨hcall, .inr (.inl ⟨owner, howner, howned⟩)⟩
    · intro assignment hassignment call hcall hspan
      exact hcalls call
        ⟨hcall, .inr (.inr ⟨r, hr, assignment, hassignment, hspan.1, hspan.2⟩)⟩
    · intro call hcall type htype
      exact hcalls call ⟨hcall, .inl ⟨type, htype⟩⟩

/-- The blocks of fragments that fit are remarks iff the fragments are. -/
lemma remarks_placedBlocks_iff {fragments : List Fragment} (h : ∀ f ∈ fragments, f.Fits t) :
    (∀ b ∈ placedBlocks t fragments, Remarks b.text) ↔ ∀ f ∈ fragments, f.IsRemark := by
  simp only [placedBlocks, List.forall_mem_map, List.mem_filterMap, forall_exists_index, and_imp]
  constructor
  · intro hblocks f hf line hline
    obtain ⟨b, hb⟩ := (h f hf).exists_block? hline
    exact (remarks_block?_iff hb).mp (hblocks b f hf hb) line hline
  · intro hfragments b f hf hb
    exact (remarks_block?_iff hb).mpr (hfragments f hf)

/-- The insertions among the edits of a script are its blocks. -/
lemma mem_insertions_iff {target : Option ScopeTarget} {edits : List Edit}
    (h : assemble t (fragmentsFor ctx target t) = .ok edits) {e : Edit} :
    e ∈ edits ∧ e.isInsertion = true ↔
      ∃ b ∈ placedBlocks t (fragmentsFor ctx target t), b.edit = e := by
  have hperm := assemble_perm (fun f hf => (fits_of_mem_fragmentsFor f hf).proper) h
  rw [keptReplacements_fragmentsFor] at hperm
  rw [hperm.mem_iff, List.mem_append, List.mem_map, List.mem_map]
  constructor
  · rintro ⟨⟨r, hr, rfl⟩ | hb, hins⟩
    · obtain ⟨site, hsite, rfl⟩ := List.mem_map.mp hr
      have hlt := (ctx.baseCall.calls_spans t site hsite).start_lt_stop
      have hle : site.stop < site.start + 1 := of_decide_eq_true hins
      omega
    · exact hb
  · rintro ⟨b, hb, rfl⟩
    exact ⟨.inr ⟨b, hb, rfl⟩, by simp [Edit.isInsertion, Block.edit, Edit.insert]⟩

/-- **Annotation only adds remarks iff the copied texts are harmless.** With the default settings, a
path without line feeds and remembered bases that are single lines, all lines of all insertions are
blank or annotations exactly if the keys, names and bases that are copied are harmless; and the
bases that are remembered stay single lines.

**Proof sketch.** The insertions among the edits are the placed blocks. Each of them is made of
lines that begin with the mark of a remark, and into these the texts are copied; so a block has a
line of another kind iff one of the copied texts brings it along. -/
theorem insertions_remarks_iff {ctx : Context}
    (hctx : Context.ofSettings Settings.default = .ok ctx) (files : FileView) {identifier : Text}
    {p : ScriptPath} (hread : ScriptPath.read identifier = .ok p) (hpath : '\n' ∉ p.path) (t : Text)
    {cache : FolderCache} (hcache : cache.OneLine) :
    FolderCache.OneLine (annotate ctx files identifier t cache).2 ∧
      ∃ edits, (annotate ctx files identifier t cache).1 = .ok edits ∧
        ((∀ e ∈ edits, e.isInsertion = true → Remarks e.text) ↔
          CopiesHarmless ctx (resolveTarget ctx files p t cache).1 t) := by
  have hone := Context.oneLine_of_default hctx
  obtain ⟨htarget, hnext⟩ := resolveTarget_oneLine hone hpath hcache files t
  obtain ⟨edits, hedits, hannotate⟩ := annotate_of_read ctx files hread t cache
  rw [hannotate]
  refine ⟨hnext, edits, rfl, ?_⟩
  rw [← isRemark_fragmentsFor_iff hone htarget t,
    ← remarks_placedBlocks_iff fits_of_mem_fragmentsFor]
  constructor
  · intro h b hb
    obtain ⟨hmem, hins⟩ := (mem_insertions_iff hedits).mpr ⟨b, hb, rfl⟩
    exact h b.edit hmem hins
  · intro h e hmem hins
    obtain ⟨b, hb, rfl⟩ := (mem_insertions_iff hedits).mp ⟨hmem, hins⟩
    exact h b hb

/-- The key of an accessor that goes over two lines becomes a line of its own that is no remark. -/
theorem insertions_not_remarks_two_line_key :
    ∃ ctx edits, Context.ofSettings Settings.default = .ok ctx ∧
      (annotate ctx (FileMap.view []) "lua/entities/lamp.lua".toList
        "AccessorFunc(ENT, \"a\\\nb\", \"N\")".toList []).1 = .ok edits ∧
      ¬ ∀ e ∈ edits, e.isInsertion = true → Remarks e.text := by
  obtain ⟨ctx, hctx⟩ := Context.exists_default
  have hread : ScriptPath.read "lua/entities/lamp.lua".toList = .ok lampScript := rfl
  have hcache : FolderCache.OneLine [] := by simp [FolderCache.OneLine]
  obtain ⟨-, edits, hedits, hiff⟩ := insertions_remarks_iff hctx (FileMap.view []) hread (by decide)
    "AccessorFunc(ENT, \"a\\\nb\", \"N\")".toList hcache
  refine ⟨ctx, edits, hctx, hedits, fun hremarks => ?_⟩
  have hcheck := Context.check_of_default (fun ctx =>
    (resolveTarget ctx (FileMap.view []) lampScript
      "AccessorFunc(ENT, \"a\\\nb\", \"N\")".toList []).1.any fun owner =>
        (accessorCalls ctx "AccessorFunc(ENT, \"a\\\nb\", \"N\")".toList).any fun call =>
          (Bindings.ofText ctx "AccessorFunc(ENT, \"a\\\nb\", \"N\")".toList).ownedBy call.target
            call.site.start owner.scope && call.key == some "a\\\nb".toList) hctx
              (by decide +kernel)
  simp only [Option.any_eq_true, List.any_eq_true, Bool.and_eq_true, beq_iff_eq] at hcheck
  obtain ⟨owner, howner, call, hcall, howned, hkey⟩ := hcheck
  have hharmless := (hiff.mp hremarks).1 call ⟨hcall, .inr (.inl ⟨owner, howner, howned⟩)⟩ _ hkey
  have hmark := hharmless.2 "b".toList (by decide)
  exact absurd hmark (by decide)

end Gloss
