import Gloss.Proofs.Annotate.Total
import Gloss.Proofs.Note.ClassLine

/-!
# Scripts that need no annotation

A script is settled if there is nothing to annotate: it has no calls for the base class, it declares
every class that is asked for, under a name that is not too long to be searched for, and it has
every line that its calls ask for. This is the normal form of annotation: a script is settled iff
annotation leaves it alone. It does not depend on the files around the script or on what is
remembered about folders.

## Main definitions

* `NeedsClass`: a script asks for the declaration of a class.
* `NeedsLine`: a script asks for an annotation line.
* `Settled`: everything that a script asks for is there.
* `ScopeTarget.classification`: what the path says of the type of a script.

## Main results

* `resolveTarget_map_eq`: the type of a script is the one that its path names.
* `exists_classLine_of_needsClass`, `exists_line_of_needsLine`: what a script asks for is there, or
  is in a block.
* `annotate_eq_nil_iff`: annotation leaves a script alone iff it is settled.
-/

set_option relaxedAutoImplicit false
set_option autoImplicit false

namespace Gloss

open Text

/-! ## What a script asks for -/

/-- The type whose fields the calls on an owner are: the type of a meta table, or the type of the
script for calls on the table of its scope. -/
def Owner.typeIn? (ctx : Context) (p : ScriptPath) : Owner → Option Text
  | .metaTable type => some type
  | .table name =>
    ((classify p ctx.rules).filter fun c => c.scope == name).map fun c => c.typeName

/-- The type whose fields the calls on a receiver are. -/
def fieldType? (ctx : Context) (p : ScriptPath) (t receiver : Text) (offset : Nat) : Option Text :=
  ((Bindings.ofText ctx t).owner? receiver offset).bind (Owner.typeIn? ctx p)

/-- The script asks for the declaration of a class: that of the type that its path names, or that of
a registered control whose table is assigned before. -/
def NeedsClass (ctx : Context) (p : ScriptPath) (t name : Text) : Prop :=
  (∃ c ∈ classify p ctx.rules, c.typeName = name) ∨
    ∃ r ∈ registrations ctx t,
      (assignmentBefore? ctx t r.shape.table r.site.start).isSome = true ∧ r.shape.name = name

/-- The script asks for an annotation line: one of a call that gives fields to its type or to the
type of a meta table. -/
def NeedsLine (ctx : Context) (p : ScriptPath) (t line : Text) : Prop :=
  (∃ call ∈ accessorCalls ctx t, ∃ type ∈ fieldType? ctx p t call.target call.site.start,
      line ∈ call.lines ctx type) ∨
    ∃ call ∈ networkCalls ctx t, ∃ type ∈ fieldType? ctx p t call.receiver call.site.start,
      line ∈ call.field.lines ctx type

/-- Everything that the script asks for is there. -/
structure Settled (ctx : Context) (p : ScriptPath) (t : Text) : Prop where
  /-- There are no calls for the base class. -/
  baseCalls : ctx.baseCall.calls t = []
  /-- All classes are declared, and no name is too long for its class to be found. -/
  classes : ∀ name, NeedsClass ctx p t name → size name ≤ classNameLimit ∧ DeclaresClass t name
  /-- All lines are there. -/
  lines : ∀ line, NeedsLine ctx p t line → line ∈ t.trimmedLines

/-! ## The type of a script -/

/-- What the path says of the type of a script. -/
def ScopeTarget.classification (owner : ScopeTarget) : Classification :=
  { scope := owner.scope, typeName := owner.typeName }

variable {ctx : Context} {p : ScriptPath} {t : Text} {target : Option ScopeTarget}

/-- The winner is one of the candidates. -/
lemma mem_of_foldl_better {candidates : List Candidate} {best : Option Candidate} {c : Candidate}
    (h : candidates.foldl Candidate.better best = some c) : c ∈ candidates ∨ best = some c := by
  induction candidates generalizing best with
  | nil => exact .inr h
  | cons first candidates ih =>
    rcases ih h with hmem | hbest
    · exact .inl (List.mem_cons_of_mem _ hmem)
    · simp only [Candidate.better] at hbest
      split at hbest
      · obtain rfl : first = c := by simpa using hbest
        exact .inl List.mem_cons_self
      · split at hbest
        · obtain rfl : first = c := by simpa using hbest
          exact .inl List.mem_cons_self
        · exact .inr hbest

/-- The scope of a script has a rule. -/
lemma exists_rule_of_classify {c : Classification} (h : classify p ctx.rules = some c) :
    ∃ rule, ctx.rule? c.scope = some rule := by
  obtain ⟨best, hbest, rfl⟩ := Option.map_eq_some_iff.mp h
  have hmem : best ∈ ctx.rules.filterMap (candidate? p.loweredDirs) :=
    (mem_of_foldl_better hbest).resolve_right (by simp)
  obtain ⟨rule, hrule, hcandidate⟩ := List.mem_filterMap.mp hmem
  obtain ⟨stop, -, rfl⟩ := Option.map_eq_some_iff.mp hcandidate
  rw [← Option.isSome_iff_exists, Context.rule?, List.find?_isSome]
  exact ⟨rule, hrule, by simp⟩

/-- The type of a script is the one that its path names, whatever the files and the text say about
its base. -/
lemma resolveTarget_map_eq (ctx : Context) (files : FileView) (p : ScriptPath) (t : Text)
    (cache : FolderCache) :
    (resolveTarget ctx files p t cache).1.map ScopeTarget.classification =
      classify p ctx.rules := by
  simp only [resolveTarget]
  cases hclass : classify p ctx.rules with
  | none => rfl
  | some c =>
    obtain ⟨rule, hrule⟩ := exists_rule_of_classify hclass
    have hscope : rule.scope = c.scope := by simpa using List.find?_some hrule
    simp only [hrule, targetUnder, Option.map_some, ScopeTarget.classification, hscope]

/-! ## The fields of a script -/

/-- A line of a table's fields is one of a call on that table. -/
lemma mem_scopedFields_iff {b : Bindings} {owner : ScopeTarget} {line : Text} :
    line ∈ scopedFields ctx b t owner ↔
      (∃ call ∈ accessorCalls ctx t,
        b.owner? call.target call.site.start = some (.table owner.scope) ∧
          line ∈ call.lines ctx owner.typeName) ∨
        ∃ call ∈ networkCalls ctx t,
          b.owner? call.receiver call.site.start = some (.table owner.scope) ∧
            line ∈ call.field.lines ctx owner.typeName := by
  have hinside : ∀ {site : CallSite}, site.Spans t → site.start < t.size := fun hspans =>
    Nat.lt_of_lt_of_le hspans.start_lt_close (le_size_of_isBoundary hspans.isBoundary_close)
  simp only [scopedFields, FieldCalls.lines, FieldCalls.ofText, accessorFields, networkFields,
    List.mem_append, List.mem_flatMap, List.mem_filter, Bool.and_eq_true, decide_eq_true_eq,
    Bindings.ownedBy, beq_iff_eq, Nat.zero_le, true_and]
  refine or_congr (exists_congr fun call => ?_) (exists_congr fun call => ?_)
  · constructor
    · rintro ⟨⟨hcall, -, howner⟩, hline⟩
      exact ⟨hcall, howner, hline⟩
    · rintro ⟨hcall, howner, hline⟩
      exact ⟨⟨hcall, hinside (spans_of_mem_accessorCalls hcall), howner⟩, hline⟩
  · constructor
    · rintro ⟨⟨hcall, -, howner⟩, hline⟩
      exact ⟨hcall, howner, hline⟩
    · rintro ⟨hcall, howner, hline⟩
      exact ⟨⟨hcall, hinside (spans_of_mem_networkCalls hcall), howner⟩, hline⟩

/-- The type whose fields the calls on a receiver are: that of a meta table, or that of the
script. -/
lemma fieldType?_eq_some_iff {receiver type : Text} {offset : Nat} :
    fieldType? ctx p t receiver offset = some type ↔
      (Bindings.ofText ctx t).metaType? receiver offset = some type ∨
        ∃ c ∈ classify p ctx.rules,
          (Bindings.ofText ctx t).owner? receiver offset = some (.table c.scope) ∧
            c.typeName = type := by
  rw [fieldType?, Bindings.metaType?]
  cases (Bindings.ofText ctx t).owner? receiver offset with
  | none => simp
  | some owner =>
    cases owner with
    | metaTable found => simp [Owner.typeIn?, Owner.metaType?]
    | table name =>
      simp only [Owner.typeIn?, Owner.metaType?, Option.bind_some, Option.map_eq_some_iff,
        Option.filter_eq_some_iff, beq_iff_eq, Option.some.injEq, Owner.table.injEq, reduceCtorEq,
        false_or, Option.mem_def, and_assoc]
      exact exists_congr fun c => and_congr_right fun _ => and_congr_left' eq_comm

/-! ## What a script asks for is in a block -/

/-- The line of a class that is not declared, and the fields that the text lacks, are in the block
for the type of the script. -/
lemma exists_scopedFragment? {b : Bindings} {owner : ScopeTarget} {line : Text}
    (h : line = owner.classLine ∧ findClassLine? t owner.typeName = none ∨
      line ∈ missingLines t (scopedFields ctx b t owner)) :
    ∃ f, scopedFragment? ctx b t owner = some f ∧ line ∈ f.lines := by
  simp only [scopedFragment?]
  cases hclass : findClassLine? t owner.typeName with
  | none =>
    refine ⟨_, rfl, ?_⟩
    rcases h with ⟨rfl, -⟩ | h
    · exact List.mem_cons_self
    · exact List.mem_cons_of_mem _ h
  | some place =>
    have hmissing := h.resolve_left fun h => absurd (hclass.symm.trans h.2) (by simp)
    have hne : (missingLines t (scopedFields ctx b t owner)).isEmpty = false :=
      List.isEmpty_eq_false_iff.mpr (List.ne_nil_of_mem hmissing)
    simp only [hne]
    exact ⟨_, rfl, hmissing⟩

/-- A line of a call on a meta table that the text lacks is in a block. -/
lemma InlineGroups.exists_mem_fragments_foldl {α : Type} {push : InlineGroups → α → InlineGroups}
    {typeOf : α → Option Text} {anchorOf : α → Nat} {linesOf : α → Text → List Text}
    (hpush : ∀ groups call, push groups call = (typeOf call).elim groups fun type =>
      groups.push type (anchorOf call) (linesOf call type)) {calls : List α} {call : α}
    (hcall : call ∈ calls) {type line : Text} (htype : typeOf call = some type)
    (hline : line ∈ linesOf call type) (hmissing : line ∉ t.trimmedLines) :
    ∃ f ∈ InlineGroups.fragments (calls.foldl push []) t, line ∈ f.lines := by
  have hnot : ¬ AllLines (· ≠ line) (calls.foldl push []) := by
    rw [allLines_foldl_iff hpush]
    exact fun hall => hall.2 call hcall type htype line hline rfl
  simp only [AllLines, not_forall, not_not] at hnot
  obtain ⟨g, hg, _, hmem, rfl⟩ := hnot
  have hmem := mem_missingLines_iff.mpr ⟨hmem, hmissing⟩
  exact ⟨_, mem_fragments_iff.mpr ⟨g, hg, List.ne_nil_of_mem hmem, rfl⟩,
    List.mem_cons_of_mem _ hmem⟩

/-- **A class that a script asks for is found, or its line is in a block.**

**Proof sketch.** Unless the class is found, the type of the script has a block with the line of its
class. For a control the first registration of its name that can have a block has one. -/
lemma exists_classLine_of_needsClass
    (htarget : target.map ScopeTarget.classification = classify p ctx.rules) {name : Text}
    (h : NeedsClass ctx p t name) :
    (size name ≤ classNameLimit ∧ DeclaresClass t name) ∨
      ∃ f ∈ notesFor ctx target t, ∃ base, classLine name base ∈ f.lines := by
  by_cases hfound : size name ≤ classNameLimit ∧ DeclaresClass t name
  · exact .inl hfound
  · have hnone : findClassLine? t name = none := findClassLine?_eq_none_iff.mpr hfound
    right
    rcases h with ⟨c, hc, rfl⟩ | ⟨r, hr, hassigned, rfl⟩
    · rw [← htarget] at hc
      obtain ⟨owner, rfl, rfl⟩ := Option.map_eq_some_iff.mp hc
      obtain ⟨f, hf, hline⟩ : ∃ f, scopedFragment? ctx (Bindings.ofText ctx t) t owner = some f ∧
        owner.classLine ∈ f.lines := exists_scopedFragment? (.inl ⟨rfl, hnone⟩)
      refine ⟨f, ?_, _, hline⟩
      simp [notesFor, hf]
    · have hwanted : r.Wanted ctx t := ⟨hnone, hassigned⟩
      obtain ⟨first, hfirst, hname⟩ := hwanted.exists_documented hr
      obtain ⟨f, hf⟩ : ∃ f, registrationFragment? ctx (Bindings.ofText ctx t) (.ofText ctx t) t
        first = some f := exists_registrationFragment?_iff.mpr hfirst.wanted
      have hmem := mem_registrationFragments_iff.mpr ⟨first, hfirst, hf⟩
      obtain ⟨-, assignment, -, hnote⟩ := registrationFragment?_eq_some_iff.mp hf
      refine ⟨f, by simp [notesFor, hmem], some first.base, ?_⟩
      rw [hnote, ← hname]
      exact List.mem_cons_self

/-- **A line that a script asks for is there, or is in a block.**

**Proof sketch.** Unless the line is there, it is missing. A call on a meta table puts its lines
into the group of the type; a call on the table of the script gives them to the fields of its
block. -/
lemma exists_line_of_needsLine
    (htarget : target.map ScopeTarget.classification = classify p ctx.rules) {line : Text}
    (h : NeedsLine ctx p t line) :
    line ∈ t.trimmedLines ∨ ∃ f ∈ notesFor ctx target t, line ∈ f.lines := by
  by_cases hpresent : line ∈ t.trimmedLines
  · exact .inl hpresent
  · right
    -- A call on the table of the script gives a field to its block.
    have hscoped : ∀ c ∈ classify p ctx.rules, (∀ owner : ScopeTarget, owner.scope = c.scope →
        owner.typeName = c.typeName → line ∈ scopedFields ctx (Bindings.ofText ctx t) t owner) →
        ∃ f ∈ notesFor ctx target t, line ∈ f.lines := by
      intro c hc hfields
      rw [← htarget] at hc
      obtain ⟨owner, rfl, rfl⟩ := Option.map_eq_some_iff.mp hc
      obtain ⟨f, hf, hline⟩ := exists_scopedFragment?
        (.inr (mem_missingLines_iff.mpr ⟨hfields owner rfl rfl, hpresent⟩))
      exact ⟨f, by simp [notesFor, hf], hline⟩
    rcases h with ⟨call, hcall, type, htype, hline⟩ | ⟨call, hcall, type, htype, hline⟩
    · rcases fieldType?_eq_some_iff.mp htype with hmeta | ⟨c, hc, hreceiver, rfl⟩
      · obtain ⟨f, hf, hmem⟩ :=
          InlineGroups.exists_mem_fragments_foldl (pushAccessor_eq ctx _) hcall
          hmeta hline hpresent
        refine ⟨f, ?_, hmem⟩
        simp only [notesFor, accessorFragments, List.mem_append, hf, true_or, or_true]
      · refine hscoped c hc fun owner hscope hname => mem_scopedFields_iff.mpr (.inl ?_)
        rw [hscope, hname]
        exact ⟨call, hcall, hreceiver, hline⟩
    · rcases fieldType?_eq_some_iff.mp htype with hmeta | ⟨c, hc, hreceiver, rfl⟩
      · obtain ⟨f, hf, hmem⟩ := InlineGroups.exists_mem_fragments_foldl (pushNetwork_eq ctx _) hcall
          hmeta hline hpresent
        refine ⟨f, ?_, hmem⟩
        simp only [notesFor, networkFragments, List.mem_append, hf, or_true]
      · refine hscoped c hc fun owner hscope hname => mem_scopedFields_iff.mpr (.inr ?_)
        rw [hscope, hname]
        exact ⟨call, hcall, hreceiver, hline⟩

/-! ## Blocks that there are not -/

/-- No line is missing iff all of them are in the text, white space at the ends aside. -/
lemma missingLines_eq_nil_iff {lines : List Text} :
    missingLines t lines = [] ↔ ∀ line ∈ lines, line ∈ t.trimmedLines := by
  rw [List.eq_nil_iff_forall_not_mem]
  refine forall_congr' fun line => ?_
  rw [mem_missingLines_iff, not_and, not_not]

/-- There is no block for meta tables iff all lines of calls are there. -/
lemma InlineGroups.fragments_foldl_eq_nil_iff {α : Type} {push : InlineGroups → α → InlineGroups}
    {typeOf : α → Option Text} {anchorOf : α → Nat} {linesOf : α → Text → List Text}
    (hpush : ∀ groups call, push groups call = (typeOf call).elim groups fun type =>
      groups.push type (anchorOf call) (linesOf call type)) (calls : List α) (t : Text) :
    InlineGroups.fragments (calls.foldl push []) t = [] ↔
      ∀ call ∈ calls, ∀ type ∈ typeOf call, ∀ line ∈ linesOf call type, line ∈ t.trimmedLines := by
  rw [← (allLines_foldl_iff hpush (· ∈ t.trimmedLines) calls []).trans
    (and_iff_right (by simp [AllLines])), fragments_eq, List.map_eq_nil_iff, List.filter_eq_nil_iff]
  refine forall₂_congr fun g _ => ?_
  rw [← missingLines_eq_nil_iff]
  simp

/-- There is no block of a registered control iff none can have one. -/
lemma registrationFragments_eq_nil_iff {b : Bindings} :
    registrationFragments ctx b t = [] ↔ ∀ r ∈ registrations ctx t, ¬ r.Wanted ctx t := by
  have hnone : ∀ rs : List Registration,
      registrationFragmentsExcept ctx b (.ofText ctx t) t [] rs = [] ↔
        ∀ r ∈ rs, registrationFragment? ctx b (.ofText ctx t) t r = none := by
    intro rs
    induction rs with
    | nil => simp [registrationFragmentsExcept]
    | cons r rs ih =>
      simp only [registrationFragmentsExcept, List.contains_nil, Bool.false_eq_true, ↓reduceIte,
        List.forall_mem_cons]
      split
      · next hr => simp [hr, ih]
      · next f hf => simp [hf]
  rw [registrationFragments, hnone]
  refine forall_congr' fun r => imp_congr_right fun _ => ?_
  have hwanted : (registrationFragment? ctx b (.ofText ctx t) t r).isSome = true ↔
      r.Wanted ctx t := Option.isSome_iff_exists.trans exists_registrationFragment?_iff
  rw [← hwanted, Option.not_isSome_iff_eq_none]

/-- There is no block for the type of a script iff the class is found and all fields are there. -/
lemma scopedFragment?_eq_none_iff {b : Bindings} {owner : ScopeTarget} :
    scopedFragment? ctx b t owner = none ↔
      (size owner.typeName ≤ classNameLimit ∧ DeclaresClass t owner.typeName) ∧
        ∀ line ∈ scopedFields ctx b t owner, line ∈ t.trimmedLines := by
  rw [← missingLines_eq_nil_iff, ← findClassLine?_isSome_iff]
  simp only [scopedFragment?]
  cases findClassLine? t owner.typeName with
  | none => simp
  | some line => simp

/-- **There are no blocks iff all classes are found and all lines are there.**

**Proof sketch.** A class or a line that is asked for and not there gives a block. Conversely all
four kinds of blocks are empty: each of them would need a class that is not found or a line that is
missing, and names the call that asks for it. -/
lemma notesFor_eq_nil_iff (htarget : target.map ScopeTarget.classification = classify p ctx.rules) :
    notesFor ctx target t = [] ↔
      (∀ name, NeedsClass ctx p t name → size name ≤ classNameLimit ∧ DeclaresClass t name) ∧
        ∀ line, NeedsLine ctx p t line → line ∈ t.trimmedLines := by
  constructor
  · intro hnil
    constructor
    · intro name hneeds
      rcases exists_classLine_of_needsClass htarget hneeds with hfound | ⟨f, hf, -⟩
      · exact hfound
      · simp [hnil] at hf
    · intro line hneeds
      rcases exists_line_of_needsLine htarget hneeds with hpresent | ⟨f, hf, -⟩
      · exact hpresent
      · simp [hnil] at hf
  · rintro ⟨hclasses, hlines⟩
    have hscoped : target.bind (scopedFragment? ctx (Bindings.ofText ctx t) t) = none := by
      refine Option.bind_eq_none_iff.mpr fun owner howner => ?_
      have hc : owner.classification ∈ classify p ctx.rules := by
        rw [← htarget, howner]
        rfl
      refine scopedFragment?_eq_none_iff.mpr ⟨hclasses _ (.inl ⟨_, hc, rfl⟩), fun line hline => ?_⟩
      refine hlines line ?_
      rcases mem_scopedFields_iff.mp hline with ⟨call, hcall, howned, hline⟩ |
        ⟨call, hcall, howned, hline⟩
      · exact .inl ⟨call, hcall, _, fieldType?_eq_some_iff.mpr (.inr ⟨_, hc, howned, rfl⟩), hline⟩
      · exact .inr ⟨call, hcall, _, fieldType?_eq_some_iff.mpr (.inr ⟨_, hc, howned, rfl⟩), hline⟩
    have hregistered : registrationFragments ctx (Bindings.ofText ctx t) t = [] := by
      refine registrationFragments_eq_nil_iff.mpr fun r hr hwanted => ?_
      exact findClassLine?_eq_none_iff.mp hwanted.1 (hclasses _ (.inr ⟨r, hr, hwanted.2, rfl⟩))
    have haccessor : accessorFragments ctx (Bindings.ofText ctx t) t = [] := by
      refine (InlineGroups.fragments_foldl_eq_nil_iff (pushAccessor_eq ctx _) _ t).mpr ?_
      intro call hcall type htype line hline
      exact hlines line (.inl ⟨call, hcall, type, fieldType?_eq_some_iff.mpr (.inl htype), hline⟩)
    have hnetwork : networkFragments ctx (Bindings.ofText ctx t) t = [] := by
      refine (InlineGroups.fragments_foldl_eq_nil_iff (pushNetwork_eq ctx _) _ t).mpr ?_
      intro call hcall type htype line hline
      exact hlines line (.inr ⟨call, hcall, type, fieldType?_eq_some_iff.mpr (.inl htype), hline⟩)
    simp [notesFor, hscoped, hregistered, haccessor, hnetwork]

/-! ## Annotation leaves settled scripts alone -/

/-- No block is without lines. -/
lemma lines_ne_nil_of_mem_notesFor {f : Fragment}
    (h : f ∈ notesFor ctx target t) : f.lines ≠ [] := by
  have hinline : ∀ groups : InlineGroups, f ∈ groups.fragments t → f.lines ≠ [] := by
    intro groups hf
    obtain ⟨g, -, -, rfl⟩ := InlineGroups.mem_fragments_iff.mp hf
    simp [Fragment.lines]
  simp only [notesFor, List.mem_append, Option.mem_toList] at h
  rcases h with ((h | h) | h) | h
  · obtain ⟨owner, -, h⟩ := Option.bind_eq_some_iff.mp h
    simp only [scopedFragment?] at h
    split at h
    · split at h
      · simp at h
      · next hne =>
        obtain rfl : _ = f := by simpa using h
        simpa [Fragment.lines] using hne
    · obtain rfl : _ = f := by simpa using h
      simp [Fragment.lines]
  · obtain ⟨r, -, hf⟩ := mem_registrationFragments_iff.mp h
    obtain ⟨-, assignment, -, rfl⟩ := registrationFragment?_eq_some_iff.mp hf
    simp [Fragment.lines]
  · exact hinline _ h
  · exact hinline _ h

/-- There are no edits iff there are no fragments. -/
lemma assemble_fragmentsFor_eq_nil_iff {edits : List Edit}
    (h : assemble t (fragmentsFor ctx target t) = .ok edits) :
    edits = [] ↔ ctx.baseCall.calls t = [] ∧ notesFor ctx target t = [] := by
  have hperm := assemble_perm (fun f hf => (fits_of_mem_fragmentsFor f hf).proper) h
  rw [keptReplacements_fragmentsFor] at hperm
  constructor
  · rintro rfl
    obtain ⟨hbase, hblocks⟩ := List.append_eq_nil_iff.mp hperm.nil_eq.symm
    rw [List.map_eq_nil_iff, baseReplacements, List.map_eq_nil_iff] at hbase
    refine ⟨hbase, List.eq_nil_iff_forall_not_mem.mpr fun f hf => ?_⟩
    have hmem := mem_fragmentsFor_of_mem_notesFor hf
    obtain ⟨line, hline⟩ := List.exists_mem_of_ne_nil _ (lines_ne_nil_of_mem_notesFor hf)
    obtain ⟨b, hb⟩ := (fits_of_mem_fragmentsFor f hmem).exists_block? hline
    rw [List.map_eq_nil_iff, placedBlocks, List.map_eq_nil_iff,
      List.filterMap_eq_nil_iff] at hblocks
    simp [hblocks f hmem] at hb
  · rintro ⟨hbase, hnotes⟩
    have hnone : fragmentsFor ctx target t = [] := by
      rw [fragmentsFor_eq, hnotes, baseCallFragments, hbase]
      rfl
    rw [hnone, baseReplacements, hbase] at hperm
    exact hperm.eq_nil

/-- **Annotation leaves a script alone iff it is settled**, whatever files there are and whatever is
remembered about folders. -/
lemma annotate_eq_nil_iff (ctx : Context) (files : FileView) {identifier : Text}
    (hread : ScriptPath.read identifier = .ok p) (t : Text) (cache : FolderCache) :
    (annotate ctx files identifier t cache).1 = .ok [] ↔ Settled ctx p t := by
  obtain ⟨edits, hedits, hannotate⟩ := annotate_of_read ctx files hread t cache
  have hnil := assemble_fragmentsFor_eq_nil_iff hedits
  rw [notesFor_eq_nil_iff (resolveTarget_map_eq ctx files p t cache)] at hnil
  rw [hannotate]
  constructor
  · intro h
    obtain ⟨hbase, hclasses, hlines⟩ := hnil.mp (by simpa using h)
    exact ⟨hbase, hclasses, hlines⟩
  · intro h
    rw [hnil.mpr ⟨h.baseCalls, h.classes, h.lines⟩]

end Gloss
