import Mathlib.Data.List.Basic
import Gloss.Note.Registration

/-!
# Which blocks there are

Calls on meta tables are collected into groups, one for each type, and every registered control
whose class is not declared gets one block, for the first registration that can have one. This
module says what the groups hold and which registrations have a block, without the order in which
they are collected.

## Main definitions

* `InlineGroups.AllLines`: a property of all lines that were collected.
* `Registration.Wanted`, `Registration.Documented`: the registrations that can have a block, and
  those that have one.
* `IsFirstBlock`: the block of the first registration of a control that can have one.

## Main results

* `mem_missingLines_iff`: the lines that a text does not have yet.
* `pairwise_idxOf_linesOutside`: lines are kept where they come first.
* `InlineGroups.push_cases`: what adding lines for a type does.
* `InlineGroups.fragments_eq`: the blocks of groups.
* `InlineGroups.allLines_foldl_iff`: what is collected from calls is the lines of the calls.
* `mem_registrationFragments_iff`: the blocks of registered controls.
-/

set_option relaxedAutoImplicit false
set_option autoImplicit false

namespace Gloss

/-! ## Lines that are missing -/

/-- Of the lines, those that are not present are left. -/
lemma mem_linesOutside_iff {present lines : List Text} {line : Text} :
    line ∈ linesOutside present lines ↔ line ∈ lines ∧ line ∉ present := by
  induction lines generalizing present with
  | nil => simp [linesOutside]
  | cons first lines ih =>
    simp only [linesOutside]
    split
    · next hmem =>
      have hmem : first ∈ present := by simpa using hmem
      rw [ih, List.mem_cons]
      constructor
      · rintro ⟨hline, hnot⟩
        exact ⟨.inr hline, hnot⟩
      · rintro ⟨rfl | hline, hnot⟩
        · exact absurd hmem hnot
        · exact ⟨hline, hnot⟩
    · next hnot =>
      have hnot : first ∉ present := by simpa using hnot
      rw [List.mem_cons, List.mem_cons, ih, List.mem_cons, not_or]
      constructor
      · rintro (rfl | ⟨hline, -, hout⟩)
        · exact ⟨.inl rfl, hnot⟩
        · exact ⟨.inr hline, hout⟩
      · rintro ⟨rfl | hline, hout⟩
        · exact .inl rfl
        · by_cases heq : line = first
          · exact .inl heq
          · exact .inr ⟨hline, heq, hout⟩

/-- A line is missing iff it is asked for and not in the text. -/
lemma mem_missingLines_iff {t : Text} {lines : List Text} {line : Text} :
    line ∈ missingLines t lines ↔ line ∈ lines ∧ line ∉ t.trimmedLines :=
  mem_linesOutside_iff

/-- Of lines that are repeated, the first one is kept. -/
lemma pairwise_idxOf_linesOutside (present lines : List Text) :
    (linesOutside present lines).Pairwise fun x y => lines.idxOf x < lines.idxOf y := by
  induction lines generalizing present with
  | nil => exact List.Pairwise.nil
  | cons line rest ih =>
    -- A later line that is kept is another one, so it comes one place later than in the rest.
    have hlater : ∀ {present : List Text}, line ∈ present → ∀ x ∈ linesOutside present rest,
        (line :: rest).idxOf x = rest.idxOf x + 1 := by
      intro present hline x hx
      refine List.idxOf_cons_ne rest ?_
      rintro rfl
      exact (mem_linesOutside_iff.mp hx).2 hline
    have hmoved : ∀ {present : List Text}, line ∈ present →
        (linesOutside present rest).Pairwise fun x y =>
          (line :: rest).idxOf x < (line :: rest).idxOf y := by
      intro present hline
      refine (ih present).imp_of_mem fun {x y} hx hy hlt => ?_
      rw [hlater hline x hx, hlater hline y hy]
      exact Nat.succ_lt_succ hlt
    rw [linesOutside]
    split
    · next hpresent => exact hmoved (List.contains_iff_mem.mp hpresent)
    · refine List.pairwise_cons.mpr ⟨fun x hx => ?_, hmoved List.mem_cons_self⟩
      rw [hlater List.mem_cons_self x hx, List.idxOf_cons_self]
      exact Nat.succ_pos _

/-! ## Calls on meta tables -/

/-- The type whose meta table the owner is. -/
def Owner.metaType? : Owner → Option Text
  | .table _ => none
  | .metaTable type => some type

/-- The type whose meta table the receiver of a call stands for. -/
def Bindings.metaType? (b : Bindings) (receiver : Text) (offset : Nat) : Option Text :=
  (b.owner? receiver offset).bind Owner.metaType?

/-- A receiver has the type of a meta table iff that table is its owner. -/
lemma Bindings.metaType?_eq_some_iff {b : Bindings} {receiver type : Text} {offset : Nat} :
    b.metaType? receiver offset = some type ↔
      b.owner? receiver offset = some (.metaTable type) := by
  rw [metaType?]
  cases b.owner? receiver offset with
  | none => simp
  | some owner => cases owner <;> simp [Owner.metaType?]

/-- How a call that makes accessors is collected. -/
lemma pushAccessor_eq (ctx : Context) (b : Bindings) (groups : InlineGroups) (call : AccessorCall) :
    pushAccessor ctx b groups call =
      (b.metaType? call.target call.site.start).elim groups fun type =>
        groups.push type call.site.close (call.lines ctx type) := by
  rw [pushAccessor, Bindings.metaType?]
  cases b.owner? call.target call.site.start with
  | none => rfl
  | some owner => cases owner <;> rfl

/-- How a call that declares a networked field is collected. -/
lemma pushNetwork_eq (ctx : Context) (b : Bindings) (groups : InlineGroups) (call : NetworkCall) :
    pushNetwork ctx b groups call =
      (b.metaType? call.receiver call.site.start).elim groups fun type =>
        groups.push type call.site.close (call.field.lines ctx type) := by
  rw [pushNetwork, Bindings.metaType?]
  cases b.owner? call.receiver call.site.start with
  | none => rfl
  | some owner => cases owner <;> rfl

namespace InlineGroups

/-! ## Groups of lines -/

variable {typeName : Text} {anchor : Nat} {lines : List Text} {groups : InlineGroups}

/-- **Adding lines for a type** puts them behind those of its group, or makes a new group at the
end.

**Proof sketch.** Induction on the groups. The first group of the type takes the lines, and groups
of other types are passed over. -/
lemma push_cases (typeName : Text) (anchor : Nat) (lines : List Text) (groups : InlineGroups) :
    ((∀ g ∈ groups, g.typeName ≠ typeName) ∧
        groups.push typeName anchor lines =
          groups ++ [{ typeName := typeName, anchor := anchor, lines := lines }]) ∨
      ∃ before g after, groups = before ++ g :: after ∧ g.typeName = typeName ∧
        groups.push typeName anchor lines =
          before ++
            { g with anchor := max g.anchor anchor, lines := g.lines ++ lines } :: after := by
  induction groups with
  | nil => exact .inl ⟨by simp, rfl⟩
  | cons first groups ih =>
    by_cases htype : first.typeName = typeName
    · exact .inr ⟨[], first, groups, rfl, htype, by simp [push, htype]⟩
    · have hpush : push typeName anchor lines (first :: groups) =
          first :: push typeName anchor lines groups := if_neg htype
      rw [hpush]
      rcases ih with ⟨hnew, heq⟩ | ⟨before, g, after, rfl, hg, heq⟩
      · exact .inl ⟨List.forall_mem_cons.mpr ⟨htype, hnew⟩, by rw [heq]; rfl⟩
      · exact .inr ⟨first :: before, g, after, rfl, hg, by rw [heq]; rfl⟩

/-- A group after a call was there before, or it is the group of the type of the call: with more
lines, or new. -/
lemma mem_push_cases {g : InlineGroup} (h : g ∈ groups.push typeName anchor lines) :
    g ∈ groups ∨ g.typeName = typeName ∧
      ((∃ old ∈ groups, g.anchor = max old.anchor anchor ∧ g.lines = old.lines ++ lines) ∨
        (g.anchor = anchor ∧ g.lines = lines)) := by
  rcases push_cases typeName anchor lines groups with
      ⟨-, heq⟩ | ⟨before, old, after, rfl, hold, heq⟩
  · rw [heq, List.mem_append, List.mem_singleton] at h
    rcases h with h | rfl
    · exact .inl h
    · exact .inr ⟨rfl, .inr ⟨rfl, rfl⟩⟩
  · rw [heq, List.mem_append, List.mem_cons] at h
    rcases h with h | rfl | h
    · exact .inl (List.mem_append_left _ h)
    · exact .inr ⟨hold, .inl ⟨old, by simp, rfl, rfl⟩⟩
    · exact .inl (List.mem_append_right _ (List.mem_cons_of_mem _ h))

/-- All lines that were collected have a property. -/
def AllLines (Q : Text → Prop) (groups : InlineGroups) : Prop :=
  ∀ g ∈ groups, ∀ line ∈ g.lines, Q line

/-- A call adds its lines. -/
lemma allLines_push_iff {Q : Text → Prop} :
    AllLines Q (groups.push typeName anchor lines) ↔
      AllLines Q groups ∧ ∀ line ∈ lines, Q line := by
  rcases push_cases typeName anchor lines groups with ⟨-, heq⟩ | ⟨before, g, after, rfl, -, heq⟩
  · simp [AllLines, heq, or_imp, forall_and]
  · simp only [AllLines, heq, List.forall_mem_append, List.forall_mem_cons]
    rw [and_right_comm]
    exact and_assoc.symm

/-- **The blocks** are those of the groups with a line that the text lacks. -/
lemma fragments_eq (groups : InlineGroups) (t : Text) :
    groups.fragments t = (groups.filter fun g => !(missingLines t g.lines).isEmpty).map fun g =>
      .note (classLine g.typeName none :: missingLines t g.lines) (.below g.anchor) := by
  induction groups with
  | nil => rfl
  | cons g groups ih =>
    have hcons : fragments (g :: groups) t = (fragment? t g).toList ++ fragments groups t := by
      rw [fragments, List.filterMap_cons]
      cases fragment? t g <;> rfl
    rw [hcons, ih, fragment?]
    cases hlines : missingLines t g.lines <;> simp [hlines]

/-- The fragments of groups are the blocks of those that have missing lines. -/
lemma mem_fragments_iff {t : Text} {f : Fragment} :
    f ∈ groups.fragments t ↔ ∃ g ∈ groups, missingLines t g.lines ≠ [] ∧
      f = .note (classLine g.typeName none :: missingLines t g.lines) (.below g.anchor) := by
  rw [fragments_eq, List.mem_map]
  constructor
  · rintro ⟨g, hg, rfl⟩
    obtain ⟨hg, hlacks⟩ := List.mem_filter.mp hg
    exact ⟨g, hg, by simpa using hlacks, rfl⟩
  · rintro ⟨g, hg, hlacks, rfl⟩
    exact ⟨g, List.mem_filter.mpr ⟨hg, by simpa using hlacks⟩, rfl⟩

section Collect

variable {α : Type} {push : InlineGroups → α → InlineGroups} {typeOf : α → Option Text}
  {anchorOf : α → Nat} {linesOf : α → Text → List Text}
  (hpush : ∀ groups call, push groups call = (typeOf call).elim groups fun type =>
    groups.push type (anchorOf call) (linesOf call type))

include hpush

/-- **What is collected from calls** is the lines of those calls that have a type. -/
lemma allLines_foldl_iff (Q : Text → Prop) (calls : List α) (groups : InlineGroups) :
    AllLines Q (calls.foldl push groups) ↔ AllLines Q groups ∧
      ∀ call ∈ calls, ∀ type ∈ typeOf call, ∀ line ∈ linesOf call type, Q line := by
  induction calls generalizing groups with
  | nil => simp
  | cons call calls ih =>
    have hstep : AllLines Q (push groups call) ↔
        AllLines Q groups ∧ ∀ type ∈ typeOf call, ∀ line ∈ linesOf call type, Q line := by
      rw [hpush]
      cases typeOf call with
      | none => simp
      | some type => simp [allLines_push_iff]
    rw [List.foldl_cons, ih, hstep, List.forall_mem_cons, and_assoc]

/-- The types of the groups are types of calls. -/
lemma exists_call_of_mem_foldl {calls : List α} {g : InlineGroup}
    (hg : g ∈ calls.foldl push []) : ∃ call ∈ calls, typeOf call = some g.typeName := by
  refine List.foldlRecOn calls push
    (motive := fun groups => ∀ g ∈ groups, ∃ call ∈ calls, typeOf call = some g.typeName)
    (fun g hg => absurd hg List.not_mem_nil) (fun groups hgroups call hcall g hg => ?_) g hg
  rw [hpush] at hg
  cases htype : typeOf call with
  | none =>
    rw [htype] at hg
    exact hgroups g hg
  | some type =>
    rw [htype] at hg
    rcases mem_push_cases hg with hg | ⟨heq, -⟩
    · exact hgroups g hg
    · exact ⟨call, hcall, htype.trans (congrArg some heq.symm)⟩

end Collect

end InlineGroups

/-! ## Registered controls -/

/-- The registration can have a block: the class of the control is not declared, and its table is
assigned before. -/
def Registration.Wanted (ctx : Context) (t : Text) (r : Registration) : Prop :=
  findClassLine? t r.shape.name = none ∧
    (assignmentBefore? ctx t r.shape.table r.site.start).isSome = true

/-- The registration has a block: it is the first one of its control that can have one. -/
def Registration.Documented (ctx : Context) (t : Text) (r : Registration) : Prop :=
  ∃ before after, registrations ctx t = before ++ r :: after ∧ r.Wanted ctx t ∧
    ∀ other ∈ before, other.Wanted ctx t → other.shape.name ≠ r.shape.name

variable {ctx : Context} {b : Bindings} {calls : FieldCalls} {t : Text} {r : Registration}
  {f : Fragment}

/-- A registration that has a block is one of the text. -/
lemma Registration.Documented.mem (h : r.Documented ctx t) : r ∈ registrations ctx t := by
  obtain ⟨before, after, heq, -⟩ := h
  rw [heq]
  exact List.mem_append_right _ List.mem_cons_self

/-- A registration that has a block can have one. -/
lemma Registration.Documented.wanted (h : r.Documented ctx t) : r.Wanted ctx t := by
  obtain ⟨before, after, -, hwanted, -⟩ := h
  exact hwanted

/-- If a registration can have a block, some registration of the same control has one. -/
lemma Registration.Wanted.exists_documented (h : r.Wanted ctx t) (hr : r ∈ registrations ctx t) :
    ∃ first : Registration, first.Documented ctx t ∧ first.shape.name = r.shape.name := by
  classical
  let suits : Registration → Bool := fun other =>
    decide (other.Wanted ctx t ∧ other.shape.name = r.shape.name)
  have hsome : ((registrations ctx t).find? suits).isSome = true :=
    List.find?_isSome.mpr ⟨r, hr, by simp [suits, h]⟩
  obtain ⟨first, hfirst⟩ := Option.isSome_iff_exists.mp hsome
  obtain ⟨hsuits, before, after, heq, hbefore⟩ := List.find?_eq_some_iff_append.mp hfirst
  obtain ⟨hwanted, hname⟩ := of_decide_eq_true hsuits
  refine ⟨first, ⟨before, after, heq, hwanted, fun other hother hothers hsame => ?_⟩, hname⟩
  have hnot := hbefore other hother
  simp [suits, hothers, hsame, hname] at hnot

/-- The block of a registration. -/
lemma registrationFragment?_eq_some_iff :
    registrationFragment? ctx b calls t r = some f ↔
      findClassLine? t r.shape.name = none ∧
        ∃ assignment, assignmentBefore? ctx t r.shape.table r.site.start = some assignment ∧
          f = .note (classLine r.shape.name (some r.base) ::
            registrationFields ctx b calls t r assignment) (.above assignment) := by
  simp only [registrationFragment?]
  split
  · next hsome =>
    obtain ⟨line, hline⟩ := Option.isSome_iff_exists.mp hsome
    simp [hline]
  · next hnone =>
    rw [Option.not_isSome_iff_eq_none] at hnone
    simp only [hnone, Option.map_eq_some_iff, true_and]
    exact exists_congr fun assignment => and_congr_right fun _ => eq_comm

/-- A registration gives a fragment iff it can have a block. -/
lemma exists_registrationFragment?_iff :
    (∃ f, registrationFragment? ctx b calls t r = some f) ↔ r.Wanted ctx t := by
  simp only [registrationFragment?_eq_some_iff, Registration.Wanted, Option.isSome_iff_exists]
  constructor
  · rintro ⟨-, hclass, assignment, hassignment, -⟩
    exact ⟨hclass, assignment, hassignment⟩
  · rintro ⟨hclass, assignment, hassignment⟩
    exact ⟨_, hclass, assignment, hassignment, rfl⟩

/-- The fragment is the block of a registration whose control is not done, and of which no earlier
registration can have a block. -/
def IsFirstBlock (ctx : Context) (b : Bindings) (calls : FieldCalls) (t : Text) (done : List Text)
    (rs : List Registration) (f : Fragment) : Prop :=
  ∃ before r after, rs = before ++ r :: after ∧ r.shape.name ∉ done ∧
    (∀ other ∈ before, other.Wanted ctx t → other.shape.name ≠ r.shape.name) ∧
    registrationFragment? ctx b calls t r = some f

/-- Such a block is that of the first registration, or of one behind it whose control it does not
take. -/
lemma isFirstBlock_cons_iff {done : List Text} {first : Registration} {rs : List Registration} :
    IsFirstBlock ctx b calls t done (first :: rs) f ↔
      (first.shape.name ∉ done ∧ registrationFragment? ctx b calls t first = some f) ∨
        ∃ before r after, rs = before ++ r :: after ∧ r.shape.name ∉ done ∧
          (first.Wanted ctx t → first.shape.name ≠ r.shape.name) ∧
          (∀ other ∈ before, other.Wanted ctx t → other.shape.name ≠ r.shape.name) ∧
          registrationFragment? ctx b calls t r = some f := by
  constructor
  · rintro ⟨before, r, after, heq, hdone, hfirst, hf⟩
    cases before with
    | nil =>
      obtain ⟨rfl, -⟩ := List.cons.inj heq
      exact .inl ⟨hdone, hf⟩
    | cons other before =>
      obtain ⟨rfl, hrest⟩ := List.cons.inj heq
      obtain ⟨hhead, hfirst⟩ := List.forall_mem_cons.mp hfirst
      exact .inr ⟨before, r, after, hrest, hdone, hhead, hfirst, hf⟩
  · rintro (⟨hdone, hf⟩ | ⟨before, r, after, rfl, hdone, hhead, hfirst, hf⟩)
    · exact ⟨[], first, rs, rfl, hdone, by simp, hf⟩
    · exact ⟨first :: before, r, after, rfl, hdone, List.forall_mem_cons.mpr ⟨hhead, hfirst⟩, hf⟩

/-- A registration that gives no block is passed over. -/
lemma isFirstBlock_cons_of_skip {done : List Text} {first : Registration} {rs : List Registration}
    (hskip : first.shape.name ∈ done ∨ registrationFragment? ctx b calls t first = none) :
    IsFirstBlock ctx b calls t done (first :: rs) f ↔ IsFirstBlock ctx b calls t done rs f := by
  rw [isFirstBlock_cons_iff]
  constructor
  · rintro (⟨hdone, hf⟩ | ⟨before, r, after, heq, hdone, -, hfirst, hf⟩)
    · rcases hskip with hmem | hnone
      · exact absurd hmem hdone
      · simp [hnone] at hf
    · exact ⟨before, r, after, heq, hdone, hfirst, hf⟩
  · rintro ⟨before, r, after, heq, hdone, hfirst, hf⟩
    refine .inr ⟨before, r, after, heq, hdone, fun hwanted hname => ?_, hfirst, hf⟩
    rcases hskip with hmem | hnone
    · exact hdone (hname ▸ hmem)
    · obtain ⟨g, hg⟩ : ∃ g, registrationFragment? ctx b calls t first = some g :=
        exists_registrationFragment?_iff.mpr hwanted
      simp [hnone] at hg

/-- **The blocks of registrations**, some controls being done: those of the first registration of
each control that can have a block.

**Proof sketch.** Induction on the registrations. One that has no block, because its control is done
or because it cannot have one, stands before no registration of the same control that has one. One
that has a block takes its control. -/
lemma mem_registrationFragmentsExcept_iff {done : List Text} {rs : List Registration} :
    f ∈ registrationFragmentsExcept ctx b calls t done rs ↔
      IsFirstBlock ctx b calls t done rs f := by
  induction rs generalizing done with
  | nil => simp [registrationFragmentsExcept, IsFirstBlock]
  | cons first rs ih =>
    rw [registrationFragmentsExcept]
    split
    · next hcontains => rw [ih, isFirstBlock_cons_of_skip (.inl (by simpa using hcontains))]
    · next hcontains =>
      have hmem : first.shape.name ∉ done := by simpa using hcontains
      split
      · next hnone => rw [ih, isFirstBlock_cons_of_skip (.inr hnone)]
      · next g hg =>
        have hwanted : first.Wanted ctx t := exists_registrationFragment?_iff.mp ⟨g, hg⟩
        rw [List.mem_cons, ih, isFirstBlock_cons_iff]
        constructor
        · rintro (rfl | ⟨before, r, after, heq, hdone, hfirst, hf⟩)
          · exact .inl ⟨hmem, hg⟩
          · rw [List.mem_cons, not_or] at hdone
            exact .inr ⟨before, r, after, heq, hdone.2, fun _ => Ne.symm hdone.1, hfirst, hf⟩
        · rintro (⟨-, hf⟩ | ⟨before, r, after, heq, hdone, hhead, hfirst, hf⟩)
          · exact .inl (Option.some.inj (hf.symm.trans hg))
          · refine .inr ⟨before, r, after, heq, ?_, hfirst, hf⟩
            exact List.not_mem_cons_of_ne_of_not_mem (Ne.symm (hhead hwanted)) hdone

/-- The blocks of registered controls. -/
lemma mem_registrationFragments_iff :
    f ∈ registrationFragments ctx b t ↔
      ∃ r, r.Documented ctx t ∧ registrationFragment? ctx b (.ofText ctx t) t r = some f := by
  rw [registrationFragments, mem_registrationFragmentsExcept_iff]
  constructor
  · rintro ⟨before, r, after, heq, -, hfirst, hf⟩
    exact ⟨r, ⟨before, after, heq, exists_registrationFragment?_iff.mp ⟨f, hf⟩, hfirst⟩, hf⟩
  · rintro ⟨r, ⟨before, after, heq, -, hfirst⟩, hf⟩
    exact ⟨before, r, after, heq, by simp, hfirst, hf⟩

end Gloss
