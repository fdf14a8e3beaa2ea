import Mathlib.Order.CompletePartialOrder
import Mathlib.Order.Interval.Set.Disjoint
import Gloss.Proofs.Note.RegistrationFields

/-!
# Controls that share a table

The same variable may be assigned anew for the next control. The fields of a control are collected
from the line of the last assignment before its registration, so two controls whose last assignments
differ are fed by different calls, provided that the line of the later assignment does not start
before the earlier registration. With the default templates it never does, since assignments start
where lines do.

## Main results

* `Registration.AssignedLastAt.site_le`: a table is registered before it is assigned anew.
* `registrationSpans_disjoint_iff`: when the spans of two controls on one table have no offset in
  common.
-/

set_option relaxedAutoImplicit false
set_option autoImplicit false

namespace Gloss

open Text

variable {ctx : Context} {t : Text} {r r₁ r₂ : Registration} {start s₁ s₂ : Nat}

/-- Assignments are found at boundaries. -/
lemma Context.AssignsAt.isBoundary {name : Text} (h : ctx.AssignsAt t name start) :
    t.isBoundary start = true := by
  obtain ⟨isLocal, pattern, -, m, hm, rfl⟩ := h
  exact (Expr.findAll_in m hm).2.isBoundary

namespace Registration

/-- The table of a registration is an identifier. -/
lemma isIdentifier_table (h : r ∈ registrations ctx t) : isIdentifier r.shape.table = true := by
  have hparts : ∀ {name table : Text} {description : Option Text} {rest : List Text}
      {shape : RegistrationShape},
        RegistrationShape.ofParts? name description table rest = some shape →
        isIdentifier shape.table = true := by
    intro name table description rest shape hshape
    rw [RegistrationShape.ofParts?, Option.ite_none_right_eq_some] at hshape
    obtain ⟨name, -, hname⟩ := Option.bind_eq_some_iff.mp hshape.2
    rw [Option.ite_none_right_eq_some] at hname
    obtain ⟨htable, hshape⟩ := hname
    obtain rfl := Option.some.inj hshape
    exact (Bool.and_eq_true_iff.mp htable).2
  obtain ⟨rule, -, site, -, shape, hshape, rfl⟩ := mem_registrations_iff.mp h
  simp only [RegistrationShape.ofArguments?] at hshape
  split at hshape
  · exact hparts hshape
  · exact hparts hshape
  · simp at hshape

/-- **A table is registered before it is assigned anew**: of two registrations of one table, the one
whose last assignment is the earlier one stands before the other assignment. -/
lemma AssignedLastAt.site_le (h₁ : r₁.AssignedLastAt ctx t s₁) (h₂ : r₂.AssignedLastAt ctx t s₂)
    (htable : r₁.shape.table = r₂.shape.table) (hlt : s₁ < s₂) : r₁.site.start ≤ s₂ := by
  by_contra hgt
  have hle : s₂ ≤ s₁ := h₁.2 ⟨Nat.lt_of_not_le hgt, htable ▸ h₂.1.2⟩
  omega

/-- The line of the last assignment starts before the registration. -/
lemma AssignedLastAt.lineStart_lt (h : r.AssignedLastAt ctx t start) :
    t.lineStart start < r.site.start :=
  Nat.lt_of_le_of_lt (lineStart_isLineStart h.1.2.isBoundary).2 h.1.1

/-- The spans of two registrations have no offset in common iff the first one stands before the line
of the later assignment. -/
lemma span_disjoint_iff (h₁ : r₁.AssignedLastAt ctx t s₁) (h₂ : r₂.AssignedLastAt ctx t s₂)
    (hlt : s₁ < s₂) : Disjoint (r₁.span t s₁) (r₂.span t s₂) ↔ r₁.site.start ≤ t.lineStart s₂ := by
  have hle := lineStart_mono h₁.1.2.isBoundary h₂.1.2.isBoundary (Nat.le_of_lt hlt)
  have hlt₁ := h₁.lineStart_lt
  have hlt₂ := h₂.lineStart_lt
  rw [span, span, Set.Ico_disjoint_Ico]
  omega

/-- With the default templates the last assignment starts where its line does. -/
lemma AssignedLastAt.lineStart_eq (h : r.AssignedLastAt ctx t start)
    (hctx : ctx.HasDefaultTemplates) (hr : r ∈ registrations ctx t) :
    t.lineStart start = start := by
  obtain ⟨isLocal, pattern, hpattern, hfound⟩ := h.1.2
  have hname := not_mem_of_isIdentifier (isIdentifier_table hr)
  obtain ⟨value, hvalue⟩ :=
    (Context.exists_mem_findAll_iff_of_default hctx hname hpattern).mp hfound
  exact hvalue.lineStart_eq

end Registration

/-- **Controls that share a table**, when they are registered after different assignments of it.
What lies between each assignment and its registration never overlaps. The spans from which fields
are collected start where the lines of the assignments do; they have no offset in common, so that no
call gives fields to both controls, iff the line of the later assignment does not start before the
earlier registration. With the default templates this is always so.

**Proof sketch.** The earlier registration does not come behind the later assignment, as this would
be its last one. So the spans can only meet where the line of the later assignment starts before the
earlier registration. With the default templates an assignment starts its line. -/
theorem registrationSpans_disjoint_iff {ctx : Context} {b : Bindings} {t : Text} {f₁ f₂ : Fragment}
    {r₁ r₂ : Registration} {s₁ s₂ : Nat} (h₁ : IsBlockOf ctx b t f₁ r₁ s₁)
    (h₂ : IsBlockOf ctx b t f₂ r₂ s₂) (htable : r₁.shape.table = r₂.shape.table) (hne : s₁ ≠ s₂) :
    Disjoint (Set.Ico s₁ r₁.site.start) (Set.Ico s₂ r₂.site.start) ∧
    (Disjoint (r₁.span t s₁) (r₂.span t s₂) ↔
      (s₁ < s₂ → r₁.site.start ≤ t.lineStart s₂) ∧ (s₂ < s₁ → r₂.site.start ≤ t.lineStart s₁)) ∧
    (Disjoint (r₁.span t s₁) (r₂.span t s₂) → ∀ receiver site,
      ¬ (r₁.Feeds b t s₁ receiver site ∧ r₂.Feeds b t s₂ receiver site)) ∧
    (ctx.HasDefaultTemplates → Disjoint (r₁.span t s₁) (r₂.span t s₂)) := by
  have hiff : Disjoint (r₁.span t s₁) (r₂.span t s₂) ↔
      (s₁ < s₂ → r₁.site.start ≤ t.lineStart s₂) ∧ (s₂ < s₁ → r₂.site.start ≤ t.lineStart s₁) := by
    rcases Nat.lt_or_gt_of_ne hne with hlt | hgt
    · rw [Registration.span_disjoint_iff h₁.assigned h₂.assigned hlt]
      omega
    · rw [disjoint_comm, Registration.span_disjoint_iff h₂.assigned h₁.assigned hgt]
      omega
  refine ⟨?_, hiff, ?_, fun hctx => hiff.mpr ⟨fun hlt => ?_, fun hgt => ?_⟩⟩
  · have hlt₁ := h₁.assigned.1.1
    have hlt₂ := h₂.assigned.1.1
    rw [Set.Ico_disjoint_Ico]
    rcases Nat.lt_or_gt_of_ne hne with hlt | hgt
    · have hle := h₁.assigned.site_le h₂.assigned htable hlt
      omega
    · have hle := h₂.assigned.site_le h₁.assigned htable.symm hgt
      omega
  · rintro hdisjoint receiver site ⟨hfeeds₁, hfeeds₂⟩
    exact Set.disjoint_left.mp hdisjoint hfeeds₁.1 hfeeds₂.1
  · rw [h₂.assigned.lineStart_eq hctx h₂.documented.mem]
    exact h₁.assigned.site_le h₂.assigned htable hlt
  · rw [h₁.assigned.lineStart_eq hctx h₁.documented.mem]
    exact h₂.assigned.site_le h₁.assigned htable.symm hgt

/-- The offsets at which assignments of a variable are found. -/
def Context.assignmentStarts (ctx : Context) (t name : Text) : List Nat :=
  [true, false].flatMap fun isLocal =>
    (ctx.assignment? isLocal name).toList.flatMap fun p =>
      (p.expr.findAll t).map fun m => m.start.offset

/-- The table is assigned at an offset iff a match of one of the patterns starts there. -/
lemma Context.assignsAt_iff_mem {name : Text} :
    ctx.AssignsAt t name start ↔ start ∈ ctx.assignmentStarts t name := by
  simp only [AssignsAt, assignmentStarts, List.mem_flatMap, Option.mem_toList, List.mem_map]
  constructor
  · rintro ⟨isLocal, pattern, hpattern, hfound⟩
    exact ⟨isLocal, by cases isLocal <;> simp, pattern, hpattern, hfound⟩
  · rintro ⟨isLocal, -, pattern, hpattern, hfound⟩
    exact ⟨isLocal, pattern, hpattern, hfound⟩

/-- The last assignment of a registered table can be read off the list of them. -/
lemma Registration.assignedLastAt_iff :
    r.AssignedLastAt ctx t start ↔
      (start < r.site.start ∧ start ∈ ctx.assignmentStarts t r.shape.table) ∧
        ∀ x ∈ ctx.assignmentStarts t r.shape.table, x < r.site.start → x ≤ start := by
  simp only [AssignedLastAt, Context.assignsAt_iff_mem]
  exact and_congr_right fun _ => ⟨fun h x hx hlt => h ⟨hlt, hx⟩, fun h x hx => h x hx.2 hx.1⟩

/-- Settings with a template that finds assignments in the middle of a line. -/
def looseSettings : Settings :=
  { patterns := { localAssignment := "local \x7bname\x7d =".toList } }

/-- Two controls on one table, which is assigned anew on the line of the first registration. -/
def sharedTableScript : Text :=
  ("local P = \x7b\x7d\nAccessorFunc(P, nil, \"X\") vgui.Register(\"A\", P) local P = \x7b\x7d\n" ++
    "vgui.Register(\"B\", P)\n").toList

/-- With a template that finds assignments in the middle of a line, one call can give fields to two
controls. -/
theorem registrationSpans_not_disjoint_loose :
    ∃ ctx, Context.ofSettings looseSettings = .ok ctx ∧ ∃ f₁ f₂ r₁ r₂,
      IsBlockOf ctx (Bindings.ofText ctx sharedTableScript) sharedTableScript f₁ r₁ 0 ∧
      IsBlockOf ctx (Bindings.ofText ctx sharedTableScript) sharedTableScript f₂ r₂ 61 ∧
      r₁.shape.table = r₂.shape.table ∧
      ¬ Disjoint (r₁.span sharedTableScript 0) (r₂.span sharedTableScript 61) ∧
      ∃ call ∈ accessorCalls ctx sharedTableScript,
        r₁.Feeds (Bindings.ofText ctx sharedTableScript) sharedTableScript 0 call.target call.site ∧
        r₂.Feeds (Bindings.ofText ctx sharedTableScript) sharedTableScript 61
          call.target call.site := by
  obtain ⟨ctx, hctx, hcheck⟩ :=
    exists_context_of_check (s := looseSettings) (t := sharedTableScript)
    (fun ctx rs =>
      rs.map (fun r => (r.shape.name, r.shape.table, r.site.start)) =
          [("A".toList, "P".toList, 39), ("B".toList, "P".toList, 74)] ∧
        ctx.assignmentStarts sharedTableScript "P".toList = [0, 61] ∧
        ∃ call ∈ accessorCalls ctx sharedTableScript, call.site.start = 13 ∧
          (Bindings.ofText ctx sharedTableScript).owner? call.target 13 = some (.table "P".toList))
    (by decide +kernel)
  obtain ⟨hrs, hstarts, call, hcall, hsite, howner⟩ := of_decide_eq_true hcheck
  -- There are two registrations, and two assignments of their table.
  obtain ⟨r₁, rest, hregistrations, h₁, hrest⟩ := List.map_eq_cons_iff.mp hrs
  obtain ⟨r₂, rest, rfl, h₂, hnil⟩ := List.map_eq_cons_iff.mp hrest
  obtain rfl := List.map_eq_nil_iff.mp hnil
  simp only [Prod.mk.injEq] at h₁ h₂
  obtain ⟨hname₁, htable₁, hsite₁⟩ := h₁
  obtain ⟨hname₂, htable₂, hsite₂⟩ := h₂
  have hassigned₁ : r₁.AssignedLastAt ctx sharedTableScript 0 := by
    rw [Registration.assignedLastAt_iff, htable₁, hstarts, hsite₁]
    decide
  have hassigned₂ : r₂.AssignedLastAt ctx sharedTableScript 61 := by
    rw [Registration.assignedLastAt_iff, htable₂, hstarts, hsite₂]
    decide
  have hclass₁ : findClassLine? sharedTableScript "A".toList = none := by decide +kernel
  have hclass₂ : findClassLine? sharedTableScript "B".toList = none := by decide +kernel
  have hdocumented₁ : r₁.Documented ctx sharedTableScript :=
    ⟨[], [r₂], hregistrations,
      Registration.wanted_iff.mpr ⟨hname₁ ▸ hclass₁, 0, hassigned₁.1⟩, by simp⟩
  have hdocumented₂ : r₂.Documented ctx sharedTableScript := by
    refine ⟨[r₁], [], hregistrations,
      Registration.wanted_iff.mpr ⟨hname₂ ▸ hclass₂, 61, hassigned₂.1⟩, ?_⟩
    intro other hother _
    rw [List.mem_singleton.mp hother, hname₁, hname₂]
    decide
  have hblock₁ : IsBlockOf ctx (Bindings.ofText ctx sharedTableScript) sharedTableScript _ r₁ 0 :=
    ⟨hdocumented₁, hassigned₁, rfl⟩
  have hblock₂ : IsBlockOf ctx (Bindings.ofText ctx sharedTableScript) sharedTableScript _ r₂ 61 :=
    ⟨hdocumented₂, hassigned₂, rfl⟩
  have htable : r₁.shape.table = r₂.shape.table := htable₁.trans htable₂.symm
  have hline₁ : sharedTableScript.lineStart 0 = 0 := by decide +kernel
  have hline₂ : sharedTableScript.lineStart 61 = 13 := by decide +kernel
  refine ⟨ctx, hctx, _, _, r₁, r₂, hblock₁, hblock₂, htable, ?_, call, hcall, ⟨?_, ?_⟩, ⟨?_, ?_⟩⟩
  · rw [(registrationSpans_disjoint_iff hblock₁ hblock₂ htable (by decide)).2.1, hline₂, hsite₁]
    omega
  · rw [Registration.span, hline₁, hsite₁, hsite]
    decide
  · rw [hsite, howner, htable₁]
  · rw [Registration.span, hline₂, hsite₂, hsite]
    decide
  · rw [hsite, howner, htable₂]

end Gloss
