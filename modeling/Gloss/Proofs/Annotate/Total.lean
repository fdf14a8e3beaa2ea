import Gloss.Annotate
import Gloss.Proofs.Call.Span
import Gloss.Proofs.Edit.Assemble
import Gloss.Proofs.Note.Blocks

/-!
# Annotation never fails on a text

Every offset that a fragment of a script names is a place of the text: the ends of a call, the
parenthesis that closes it, the start of a line. So the fragments can be assembled and the edits can
be applied, whatever the text is. Since calls for the base class share no byte, every one of them is
replaced; all other edits put blocks into the text.

## Main definitions

* `Fragment.Fits`: the offsets of a fragment are boundaries of a text.
* `baseReplacements`: the replacements of the calls for the base class.

## Main results

* `exists_assemble`: fragments that fit can be assembled.
* `fits_of_mem_fragmentsFor`: the fragments of a script fit its text.
* `annotate_replaces_base_calls`: the edits of a script.
-/

set_option relaxedAutoImplicit false
set_option autoImplicit false

namespace Gloss

open Text

/-! ## Fragments that fit -/

/-- The offsets of the fragment are boundaries of the text, and it replaces no empty piece. -/
def Fragment.Fits (t : Text) : Fragment → Prop
  | .note _ placement => ∀ offset ∈ placement.offset?, t.isBoundary offset = true
  | .replacement start stop _ =>
    start < stop ∧ t.isBoundary start = true ∧ t.isBoundary stop = true

/-- A fragment that fits replaces no empty piece. -/
lemma Fragment.Fits.proper {t : Text} {f : Fragment} (h : f.Fits t) : f.Proper := by
  cases f with
  | note lines placement => trivial
  | replacement start stop text => exact h.1

/-- A fragment with lines that fits the text has a block. -/
lemma Fragment.Fits.exists_block? {t : Text} {f : Fragment} (h : f.Fits t) {line : Text}
    (hline : line ∈ f.lines) : ∃ b, f.block? t = some b := by
  cases f with
  | replacement start stop text => simp [Fragment.lines] at hline
  | note lines placement =>
    obtain ⟨⟨offset, needsLineFeed⟩, hposition⟩ := Placement.position_isOk_iff.mpr h
    have hne : lines.isEmpty = false := by
      rw [List.isEmpty_eq_false_iff]
      exact List.ne_nil_of_mem hline
    simp [Fragment.block?, hne, hposition]

/-- A fragment that fits can be added to changes. -/
lemma Changes.exists_add {t : Text} {f : Fragment} (h : f.Fits t) (changes : Changes) (n : Nat) :
    ∃ changes', Changes.add t changes (f, n) = .ok changes' := by
  cases f with
  | note lines placement =>
    obtain ⟨⟨offset, needsLineFeed⟩, hposition⟩ := Placement.position_isOk_iff.mpr h
    simp only [add]
    split
    · exact ⟨changes, rfl⟩
    · rw [hposition]
      exact ⟨_, rfl⟩
  | replacement start stop text =>
    obtain ⟨hlt, hstart, hstop⟩ := h
    have hcheck := checkRange_eq_ok_iff.mpr ⟨Nat.le_of_lt hlt, hstart, hstop⟩
    simp only [add, hcheck, bind, Except.bind]
    split
    · exact ⟨_, rfl⟩
    · exact ⟨_, rfl⟩

/-- All of them can. -/
lemma Changes.exists_foldlM {t : Text} {fragments : List Fragment} (h : ∀ f ∈ fragments, f.Fits t)
    (changes : Changes) (n : Nat) :
    ∃ changes', (fragments.zipIdx n).foldlM (Changes.add t) changes = .ok changes' := by
  induction fragments generalizing changes n with
  | nil => exact ⟨changes, rfl⟩
  | cons f fragments ih =>
    obtain ⟨next, hnext⟩ := Changes.exists_add (h f List.mem_cons_self) changes n
    rw [List.zipIdx_cons, List.foldlM_cons, hnext]
    exact ih (fun g hg => h g (List.mem_cons_of_mem _ hg)) next (n + 1)

/-- Fragments that fit can be assembled. -/
lemma exists_assemble {t : Text} {fragments : List Fragment} (h : ∀ f ∈ fragments, f.Fits t) :
    ∃ edits, assemble t fragments = .ok edits := by
  obtain ⟨changes, hchanges⟩ := Changes.exists_foldlM h { replacements := [], insertions := [] } 0
  exact ⟨_, assemble_eq_ok_iff.mpr ⟨changes, hchanges, rfl⟩⟩

/-! ## The replacements that are kept -/

/-- The fragment that asks for a replacement. -/
def Replacement.fragment (r : Replacement) : Fragment :=
  .replacement r.start r.stop r.text

/-- The fragment is a block of lines. -/
def Fragment.IsNote (f : Fragment) : Prop :=
  ∃ lines placement, f = .note lines placement

/-- Blocks of lines replace nothing. -/
lemma keptAfter_notes {notes : List Fragment} (h : ∀ f ∈ notes, f.IsNote)
    (kept : List Replacement) : keptAfter kept notes = kept := by
  induction notes with
  | nil => rfl
  | cons f notes ih =>
    obtain ⟨lines, placement, rfl⟩ := h f List.mem_cons_self
    rw [keptAfter]
    exact ih fun g hg => h g (List.mem_cons_of_mem _ hg)

/-- Replacements of which each one ends before the next one starts are all kept. -/
lemma keptAfter_replacements {rs kept : List Replacement}
    (hrs : rs.Pairwise fun r s => r.stop ≤ s.start)
    (hkept : ∀ k ∈ kept, ∀ r ∈ rs, k.stop ≤ r.start) :
    keptAfter kept (rs.map Replacement.fragment) = kept ++ rs := by
  induction rs generalizing kept with
  | nil => simp [keptAfter]
  | cons r rs ih =>
    obtain ⟨hfirst, hrs⟩ := List.pairwise_cons.mp hrs
    have hfree : ¬ (kept.any fun k => k.overlaps r.start r.stop) = true := by
      intro hany
      obtain ⟨k, hk, hover⟩ := List.any_eq_true.mp hany
      have := hkept k hk r List.mem_cons_self
      simp only [Replacement.overlaps, Bool.and_eq_true, decide_eq_true_eq] at hover
      omega
    have hnext : ∀ k ∈ kept ++ [r], ∀ s ∈ rs, k.stop ≤ s.start := by
      intro k hk s hs
      rcases List.mem_append.mp hk with hk | hk
      · exact hkept k hk s (List.mem_cons_of_mem _ hs)
      · obtain rfl := List.mem_singleton.mp hk
        exact hfirst s hs
    rw [List.map_cons, Replacement.fragment, keptAfter, if_neg hfree, ih hrs hnext,
      List.append_assoc, List.singleton_append]

/-! ## The fragments of a script -/

/-- The replacements of the calls for the base class. -/
def baseReplacements (ctx : Context) (t : Text) : List Replacement :=
  (ctx.baseCall.calls t).map fun site =>
    { start := site.start, stop := site.stop, text := ctx.baseCallReplacement site.arguments }

/-- The fragments of the calls for the base class are their replacements. -/
lemma baseCallFragments_eq (ctx : Context) (t : Text) :
    baseCallFragments ctx t = (baseReplacements ctx t).map Replacement.fragment := by
  rw [baseReplacements, List.map_map]
  rfl

/-- The replacements of the calls for the base class fit the text. -/
lemma fits_baseCallFragments (ctx : Context) (t : Text) :
    ∀ f ∈ baseCallFragments ctx t, f.Fits t := by
  intro f hf
  obtain ⟨site, hsite, rfl⟩ := List.mem_map.mp hf
  have hspans := ctx.baseCall.calls_spans t site hsite
  exact ⟨hspans.start_lt_stop, hspans.isBoundary_start, hspans.isBoundary_stop⟩

/-- They share no byte. -/
lemma baseReplacements_pairwise (ctx : Context) (t : Text) :
    (baseReplacements ctx t).Pairwise fun r s => r.stop ≤ s.start :=
  List.pairwise_map.mpr (ctx.baseCall.calls_pairwise t)

/-- The fragment is a block of lines whose placement fits the text. -/
def Fragment.IsPlaced (t : Text) (f : Fragment) : Prop :=
  f.IsNote ∧ f.Fits t

/-- A line that declares a class starts at a boundary. -/
lemma isBoundary_of_findClassLine? {t name : Text} {line : Nat}
    (h : findClassLine? t name = some line) : t.isBoundary line = true := by
  obtain ⟨pattern, -, hfound⟩ := Option.bind_eq_some_iff.mp h
  obtain ⟨m, hm, rfl⟩ := Option.map_eq_some_iff.mp hfound
  exact (lineStart_isLineStart (Expr.find?_in hm).2.isBoundary).1.isBoundary

/-- The last match before an offset starts at a boundary. -/
lemma isBoundary_of_lastMatchBefore? {p : Pattern} {t : Text} {offset start : Nat}
    (h : lastMatchBefore? p t offset = some start) : t.isBoundary start = true := by
  have hmem := (List.takeWhile_sublist _).subset (List.mem_of_getLast? h)
  obtain ⟨m, hm, rfl⟩ := List.mem_map.mp hmem
  exact (Expr.findAll_in m hm).2.isBoundary

/-- The line of an assignment starts at a boundary. -/
lemma isBoundary_of_assignmentBefore? {ctx : Context} {t name : Text} {offset line : Nat}
    (h : assignmentBefore? ctx t name offset = some line) : t.isBoundary line = true := by
  obtain ⟨start, hstart, rfl⟩ := Option.map_eq_some_iff.mp h
  obtain ⟨p, -, hp⟩ := List.mem_filterMap.mp (List.max?_mem hstart)
  obtain ⟨p, -, hlast⟩ := Option.bind_eq_some_iff.mp hp
  exact (lineStart_isLineStart (isBoundary_of_lastMatchBefore? hlast)).1.isBoundary

/-- The block for the type of a script goes to a boundary. -/
lemma isPlaced_of_scopedFragment? {ctx : Context} {b : Bindings} {t : Text} {target : ScopeTarget}
    {f : Fragment} (h : scopedFragment? ctx b t target = some f) : f.IsPlaced t := by
  simp only [scopedFragment?] at h
  split at h
  · next line hline =>
    split at h
    · simp at h
    · obtain rfl : _ = f := by simpa using h
      refine ⟨⟨_, _, rfl⟩, fun offset hoffset => ?_⟩
      obtain rfl : line = offset := by simpa [Placement.offset?] using hoffset
      exact isBoundary_of_findClassLine? hline
  · obtain rfl : _ = f := by simpa using h
    exact ⟨⟨_, _, rfl⟩, by simp [Fragment.Fits, Placement.offset?]⟩

/-- The block of a registered control goes to a boundary. -/
lemma isPlaced_of_registrationFragment? {ctx : Context} {b : Bindings} {calls : FieldCalls}
    {t : Text} {r : Registration} {f : Fragment}
    (h : registrationFragment? ctx b calls t r = some f) : f.IsPlaced t := by
  obtain ⟨-, assignment, hassignment, rfl⟩ := registrationFragment?_eq_some_iff.mp h
  refine ⟨⟨_, _, rfl⟩, fun offset hoffset => ?_⟩
  obtain rfl : assignment = offset := by simpa [Placement.offset?] using hoffset
  exact isBoundary_of_assignmentBefore? hassignment

/-! ### Blocks for meta tables -/

/-- All blocks are to go below boundaries. -/
def InlineGroups.Anchored (t : Text) (groups : InlineGroups) : Prop :=
  ∀ g ∈ groups, t.isBoundary g.anchor = true

/-- The later of two boundaries is one. -/
lemma InlineGroups.Anchored.push {t : Text} {groups : InlineGroups} (h : Anchored t groups)
    {anchor : Nat} (hanchor : t.isBoundary anchor = true) (typeName : Text) (lines : List Text) :
    Anchored t (groups.push typeName anchor lines) := by
  intro g hg
  rcases mem_push_cases hg with hg | ⟨-, ⟨old, hold, hmax, -⟩ | ⟨hnew, -⟩⟩
  · exact h g hg
  · rw [hmax]
    rcases Nat.le_total old.anchor anchor with hle | hle
    · rw [Nat.max_eq_right hle]
      exact hanchor
    · rw [Nat.max_eq_left hle]
      exact h old hold
  · rw [hnew]
    exact hanchor

/-- The blocks of groups that are anchored go to boundaries. -/
lemma InlineGroups.isPlaced_of_mem_fragments {t : Text} {groups : InlineGroups}
    (h : Anchored t groups) : ∀ f ∈ groups.fragments t, f.IsPlaced t := by
  intro f hf
  obtain ⟨g, hg, -, rfl⟩ := mem_fragments_iff.mp hf
  refine ⟨⟨_, _, rfl⟩, fun offset hoffset => ?_⟩
  obtain rfl : g.anchor = offset := by simpa [Placement.offset?] using hoffset
  exact h g hg

/-- What the arguments of a call that makes accessors have to be. -/
lemma AccessorCall.ofSite?_spec {site : CallSite} {call : AccessorCall}
    (h : AccessorCall.ofSite? site = some call) :
    call.site = site ∧ isIdentifier call.name = true := by
  have hone : ∀ {target key name force}, AccessorCall.ofArguments? site target key name force =
      some call → call.site = site ∧ isIdentifier call.name = true := by
    intro target key name force h
    simp only [AccessorCall.ofArguments?] at h
    split at h
    · obtain ⟨name, hname, rfl⟩ := Option.map_eq_some_iff.mp h
      exact ⟨rfl, (Option.filter_eq_some_iff.mp hname).2⟩
    · simp at h
  simp only [AccessorCall.ofSite?] at h
  split at h
  · exact hone h
  · exact hone h
  · simp at h

/-- A call that makes accessors is a call of the text. -/
lemma spans_of_mem_accessorCalls {ctx : Context} {t : Text} {call : AccessorCall}
    (h : call ∈ accessorCalls ctx t) : call.site.Spans t := by
  obtain ⟨site, hsite, hcall⟩ := List.mem_filterMap.mp h
  rw [(AccessorCall.ofSite?_spec hcall).1]
  exact ctx.accessor.calls_spans t site hsite

/-- A call that declares a networked field is a call of the text. -/
lemma spans_of_mem_networkCalls {ctx : Context} {t : Text} {call : NetworkCall}
    (h : call ∈ networkCalls ctx t) : call.site.Spans t := by
  obtain ⟨site, hsite, hcall⟩ := List.mem_filterMap.mp h
  obtain ⟨field, -, rfl⟩ := Option.map_eq_some_iff.mp hcall
  exact ctx.network.calls_spans t site hsite

/-- **The blocks of calls that are collected by type are placed**, if what they are put below are
boundaries. -/
lemma InlineGroups.isPlaced_of_mem_fragments_foldl {α : Type} {t : Text}
    {push : InlineGroups → α → InlineGroups} {typeOf : α → Option Text} {anchorOf : α → Nat}
    {linesOf : α → Text → List Text}
    (hpush : ∀ groups call, push groups call = (typeOf call).elim groups fun type =>
      groups.push type (anchorOf call) (linesOf call type)) {calls : List α}
    (hanchor : ∀ call ∈ calls, t.isBoundary (anchorOf call) = true) :
    ∀ f ∈ InlineGroups.fragments (calls.foldl push []) t, f.IsPlaced t := by
  refine isPlaced_of_mem_fragments
    (List.foldlRecOn _ _ (by simp [Anchored]) fun groups hgroups call hcall => ?_)
  rw [hpush]
  cases typeOf call with
  | none => exact hgroups
  | some type => exact hgroups.push (hanchor call hcall) _ _

/-- The blocks of calls that make accessors are placed. -/
lemma isPlaced_of_mem_accessorFragments {ctx : Context} {b : Bindings} {t : Text} :
    ∀ f ∈ accessorFragments ctx b t, f.IsPlaced t :=
  InlineGroups.isPlaced_of_mem_fragments_foldl (pushAccessor_eq ctx b) fun _ hcall =>
    (spans_of_mem_accessorCalls hcall).isBoundary_close

/-- The blocks of calls that declare networked fields are placed. -/
lemma isPlaced_of_mem_networkFragments {ctx : Context} {b : Bindings} {t : Text} :
    ∀ f ∈ networkFragments ctx b t, f.IsPlaced t :=
  InlineGroups.isPlaced_of_mem_fragments_foldl (pushNetwork_eq ctx b) fun _ hcall =>
    (spans_of_mem_networkCalls hcall).isBoundary_close

/-! ### All of them -/

/-- The blocks of lines of a script whose type is known. -/
def notesFor (ctx : Context) (target : Option ScopeTarget) (t : Text) : List Fragment :=
  let b := Bindings.ofText ctx t
  (target.bind (scopedFragment? ctx b t)).toList ++ registrationFragments ctx b t ++
    accessorFragments ctx b t ++ networkFragments ctx b t

/-- The fragments of a script are the replacements of calls for the base class, and the blocks. -/
lemma fragmentsFor_eq (ctx : Context) (target : Option ScopeTarget) (t : Text) :
    fragmentsFor ctx target t = baseCallFragments ctx t ++ notesFor ctx target t := by
  simp only [fragmentsFor, notesFor, List.append_assoc]

/-- The blocks of a script are fragments of it. -/
lemma mem_fragmentsFor_of_mem_notesFor {ctx : Context} {target : Option ScopeTarget} {t : Text}
    {f : Fragment} (hf : f ∈ notesFor ctx target t) : f ∈ fragmentsFor ctx target t := by
  rw [fragmentsFor_eq]
  exact List.mem_append_right _ hf

/-- All blocks of a script go to boundaries. -/
lemma isPlaced_of_mem_notesFor {ctx : Context} {target : Option ScopeTarget} {t : Text} :
    ∀ f ∈ notesFor ctx target t, f.IsPlaced t := by
  intro f hf
  simp only [notesFor, List.mem_append, Option.mem_toList] at hf
  rcases hf with ((hf | hf) | hf) | hf
  · obtain ⟨target, -, hf⟩ := Option.bind_eq_some_iff.mp hf
    exact isPlaced_of_scopedFragment? hf
  · obtain ⟨r, -, hr⟩ := mem_registrationFragments_iff.mp hf
    exact isPlaced_of_registrationFragment? hr
  · exact isPlaced_of_mem_accessorFragments f hf
  · exact isPlaced_of_mem_networkFragments f hf

/-- The fragments of a script fit its text. -/
lemma fits_of_mem_fragmentsFor {ctx : Context} {target : Option ScopeTarget} {t : Text} :
    ∀ f ∈ fragmentsFor ctx target t, f.Fits t := by
  intro f hf
  rw [fragmentsFor_eq] at hf
  rcases List.mem_append.mp hf with hf | hf
  · exact fits_baseCallFragments ctx t f hf
  · exact (isPlaced_of_mem_notesFor f hf).2

/-- Every call for the base class is replaced, and nothing else is. -/
lemma keptReplacements_fragmentsFor (ctx : Context) (target : Option ScopeTarget) (t : Text) :
    keptReplacements (fragmentsFor ctx target t) = baseReplacements ctx t := by
  rw [keptReplacements, fragmentsFor_eq, keptAfter_append, baseCallFragments_eq,
    keptAfter_replacements (baseReplacements_pairwise ctx t) (by simp), List.nil_append,
    keptAfter_notes fun f hf => (isPlaced_of_mem_notesFor f hf).1]

/-- Nothing is replaced in a text without calls for the base class. -/
lemma keptReplacements_fragmentsFor_eq_nil {ctx : Context} {target : Option ScopeTarget} {t : Text}
    (h : ctx.baseCall.calls t = []) : keptReplacements (fragmentsFor ctx target t) = [] := by
  rw [keptReplacements_fragmentsFor, baseReplacements, h]
  rfl

/-! ## The edits of a script -/

/-- The edits of a script are those of its fragments, which can always be assembled. -/
lemma annotate_of_read (ctx : Context) (files : FileView) {identifier : Text} {p : ScriptPath}
    (h : ScriptPath.read identifier = .ok p) (t : Text) (cache : FolderCache) :
    ∃ edits, assemble t (fragmentsOf ctx files p t cache).1 = .ok edits ∧
      annotate ctx files identifier t cache = (.ok edits, (fragmentsOf ctx files p t cache).2) := by
  obtain ⟨edits, hedits⟩ : ∃ edits, assemble t (fragmentsOf ctx files p t cache).1 = .ok edits :=
    exists_assemble fits_of_mem_fragmentsFor
  refine ⟨edits, hedits, ?_⟩
  simp only [annotate, readIdentifier, h, hedits]

/-- Applying the edits of a script makes the changes of its fragments. -/
lemma applyEdits_of_annotate {ctx : Context} {files : FileView} {identifier : Text} {p : ScriptPath}
    (hread : ScriptPath.read identifier = .ok p) {t : Text} {cache : FolderCache}
    {edits : List Edit} (h : (annotate ctx files identifier t cache).1 = .ok edits) :
    applyEdits t edits = .ok (substituted t (fragmentsOf ctx files p t cache).1) := by
  obtain ⟨edits', hedits, hannotate⟩ := annotate_of_read ctx files hread t cache
  rw [hannotate] at h
  obtain rfl := Except.ok.inj h
  exact applyEdits_of_assemble (fun f hf => (fits_of_mem_fragmentsFor f hf).proper) hedits

/-- **Annotation never fails on a text and loses nothing of it.** It fails only on an identifier
that names no script. Otherwise it replaces each call for the base class, from its head to the
closing parenthesis, and puts blocks into the text; all edits together can be applied, and every
other character of the text is kept.

**Proof sketch.** All fragments of a script fit its text: calls lie in it, one behind the other, and
blocks go to boundaries. So the fragments can be assembled and the edits applied. The replacements
are those of the calls for the base class, and as calls do not overlap all of them count. -/
theorem annotate_replaces_base_calls (ctx : Context) (files : FileView) (identifier t : Text)
    (cache : FolderCache) :
    match ScriptPath.read identifier with
    | .error fault =>
      (annotate ctx files identifier t cache).1 = .error (.badPath identifier fault)
    | .ok _ =>
      (∀ site ∈ ctx.baseCall.calls t, site.Spans t) ∧
      ∃ edits blocks, (annotate ctx files identifier t cache).1 = .ok edits ∧
        edits.Perm ((ctx.baseCall.calls t).map (fun site =>
            Edit.replace site.start site.stop (ctx.baseCallReplacement site.arguments)) ++
          blocks.map Block.edit) ∧
        applyEdits t edits = .ok (substituteFrom (baseReplacements ctx t) blocks 0 t) := by
  cases hread : ScriptPath.read identifier with
  | error fault => simp [annotate, readIdentifier, hread]
  | ok p =>
    obtain ⟨edits, hedits, hannotate⟩ := annotate_of_read ctx files hread t cache
    have hproper : ∀ f ∈ (fragmentsOf ctx files p t cache).1, f.Proper := fun f hf =>
      (fits_of_mem_fragmentsFor f hf).proper
    have hkept : keptReplacements (fragmentsOf ctx files p t cache).1 = baseReplacements ctx t :=
      keptReplacements_fragmentsFor ctx _ t
    have hperm := assemble_perm hproper hedits
    have happly := applyEdits_of_annotate hread (congrArg Prod.fst hannotate)
    rw [substituted, hkept] at happly
    rw [hkept, baseReplacements, List.map_map] at hperm
    exact ⟨ctx.baseCall.calls_spans t, edits, placedBlocks t (fragmentsOf ctx files p t cache).1,
      by rw [hannotate], hperm, happly⟩

end Gloss
