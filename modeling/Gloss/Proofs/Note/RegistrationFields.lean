import Mathlib.Order.Interval.Set.Defs
import Gloss.Proofs.Annotate.Total
import Gloss.Proofs.Note.Registered

/-!
# Fields of registered controls

Which lines the block of a registered control has below the line of its class. The calls on its
table that stand between the line of the assignment and the registration give lines for accessors
and for networked fields. A line that the text has already, wherever it stands and whatever class it
is for, is left out; the others are there once, each where it comes first.

## Main definitions

* `Registration.span`: the part of a text whose calls give fields to a registered table.
* `Registration.Feeds`: a call gives fields to a registered table.
* `Registration.callLines`: the lines of the calls that do.

## Main results

* `registrationFragments_fields`: the fields of the block of a registered control.
-/

set_option relaxedAutoImplicit false
set_option autoImplicit false

namespace Gloss

open Text

/-! ## Calls that give fields -/

variable {ctx : Context} {b : Bindings} {t : Text} {r : Registration} {start : Nat} {line : Text}

/-- A receiver is owned by a table iff the table is its owner. -/
lemma Bindings.ownedBy_eq_true_iff {receiver table : Text} {offset : Nat} :
    b.ownedBy receiver offset table = true ↔ b.owner? receiver offset = some (.table table) :=
  beq_iff_eq

/-- The lines of accessors are those of the calls on the table in the span. -/
lemma mem_accessorFields_iff {calls : List AccessorCall} {table owner : Text} {stop : Nat} :
    line ∈ accessorFields ctx b calls table owner start stop ↔
      ∃ call ∈ calls, (call.site.start ∈ Set.Ico start stop ∧
        b.owner? call.target call.site.start = some (.table table)) ∧
          line ∈ call.lines ctx owner := by
  simp only [accessorFields, List.mem_flatMap, List.mem_filter, Bool.and_eq_true, decide_eq_true_eq,
    Bindings.ownedBy_eq_true_iff, and_assoc, Set.mem_Ico]

/-- The lines of networked fields are those of the calls on the table in the span. -/
lemma mem_networkFields_iff {calls : List NetworkCall} {table owner : Text} {stop : Nat} :
    line ∈ networkFields ctx b calls table owner start stop ↔
      ∃ call ∈ calls, (call.site.start ∈ Set.Ico start stop ∧
        b.owner? call.receiver call.site.start = some (.table table)) ∧
          line ∈ call.field.lines ctx owner := by
  simp only [networkFields, List.mem_flatMap, List.mem_filter, Bool.and_eq_true, decide_eq_true_eq,
    Bindings.ownedBy_eq_true_iff, and_assoc, Set.mem_Ico]

namespace Registration

/-- The part of a text whose calls give fields to a registered table: from the line of its
assignment up to the registration. -/
def span (t : Text) (r : Registration) (start : Nat) : Set Nat :=
  Set.Ico (t.lineStart start) r.site.start

/-- A call gives fields to a registered table: it starts in the span, and its receiver stands for
the table. -/
def Feeds (b : Bindings) (t : Text) (r : Registration) (start : Nat) (receiver : Text)
    (site : CallSite) :
    Prop :=
  site.start ∈ r.span t start ∧ b.owner? receiver site.start = some (.table r.shape.table)

/-- The lines of the calls that give fields to a registered table: first those of accessors, then
those of networked fields, each in the order of the calls. -/
def callLines (ctx : Context) (b : Bindings) (t : Text) (r : Registration) (start : Nat) :
    List Text :=
  FieldCalls.lines ctx b (.ofText ctx t) r.shape.table r.shape.name (t.lineStart start) r.site.start

/-- The line is one that a call on the registered table gives: the field behind an accessor, a
setter or a getter. -/
def GivesLine (ctx : Context) (b : Bindings) (t : Text) (r : Registration)
    (start : Nat) (line : Text) :
    Prop :=
  (∃ call ∈ accessorCalls ctx t, r.Feeds b t start call.target call.site ∧
      line ∈ call.lines ctx r.shape.name) ∨
    ∃ call ∈ networkCalls ctx t, r.Feeds b t start call.receiver call.site ∧
      line ∈ call.field.lines ctx r.shape.name

/-- The lines of calls are those that a call on the registered table gives. -/
lemma mem_callLines_iff : line ∈ r.callLines ctx b t start ↔ r.GivesLine ctx b t start line := by
  simp only [callLines, FieldCalls.lines, FieldCalls.ofText, List.mem_append,
    mem_accessorFields_iff, mem_networkFields_iff]
  rfl

end Registration

/-- The calls of a text that make accessors come one after the other. -/
lemma pairwise_accessorCalls (ctx : Context) (t : Text) :
    (accessorCalls ctx t).Pairwise fun c d => c.site.stop ≤ d.site.start := by
  rw [accessorCalls, List.pairwise_filterMap]
  refine (ctx.accessor.calls_pairwise t).imp fun {x y} hle c hc d hd => ?_
  rw [(AccessorCall.ofSite?_spec hc).1, (AccessorCall.ofSite?_spec hd).1]
  exact hle

/-- The calls of a text that declare networked fields come one after the other. -/
lemma pairwise_networkCalls (ctx : Context) (t : Text) :
    (networkCalls ctx t).Pairwise fun c d => c.site.stop ≤ d.site.start := by
  have hsite : ∀ {site : CallSite} {call : NetworkCall}, NetworkCall.ofSite? site = some call →
      call.site = site := by
    intro site call hcall
    obtain ⟨field, -, rfl⟩ := Option.map_eq_some_iff.mp hcall
    rfl
  rw [networkCalls, List.pairwise_filterMap]
  refine (ctx.network.calls_pairwise t).imp fun {x y} hle c hc d hd => ?_
  rw [hsite hc, hsite hd]
  exact hle

/-! ## The fields of a block -/

/-- **The fields of the block of a registered control.** Below the line of its class stand the lines
of the calls that give fields to its table and that the text does not have yet: no others, each
once, and in the order in which they come first among the lines of accessors and then of networked
fields, in the order of the calls. So all lines of the calls are there iff the text has none of
them.

**Proof sketch.** A block is that of a registration and the start of the last assignment. Its fields
are the missing ones among the lines of the calls, which keep their order and come once each; and
the lines of the calls are those that the registration gives. -/
theorem registrationFragments_fields {ctx : Context} {b : Bindings} {t : Text} {f : Fragment}
    (hf : f ∈ registrationFragments ctx b t) :
    ∃ r start fields, IsBlockOf ctx b t f r start ∧
      f = .note (classLine r.shape.name (some r.base) :: fields) (.above (t.lineStart start)) ∧
      (∀ line, line ∈ fields ↔ r.GivesLine ctx b t start line ∧ line ∉ t.trimmedLines) ∧
      fields.Nodup ∧
      (fields.Pairwise fun x y =>
        (r.callLines ctx b t start).idxOf x < (r.callLines ctx b t start).idxOf y) ∧
      (∀ line, line ∈ r.callLines ctx b t start ↔ r.GivesLine ctx b t start line) ∧
      ((accessorCalls ctx t).Pairwise fun c d => c.site.stop ≤ d.site.start) ∧
      ((networkCalls ctx t).Pairwise fun c d => c.site.stop ≤ d.site.start) ∧
      ((∀ line, r.GivesLine ctx b t start line → line ∈ fields) ↔
        ∀ line, r.GivesLine ctx b t start line → line ∉ t.trimmedLines) := by
  obtain ⟨r, start, hblock⟩ := mem_registrationFragments_iff_isBlockOf.mp hf
  have hmem : ∀ line, line ∈ missingLines t (r.callLines ctx b t start) ↔
      r.GivesLine ctx b t start line ∧ line ∉ t.trimmedLines := by
    intro line
    rw [mem_missingLines_iff, Registration.mem_callLines_iff]
  have horder := pairwise_idxOf_linesOutside t.trimmedLines (r.callLines ctx b t start)
  have hnodup : (missingLines t (r.callLines ctx b t start)).Nodup := by
    refine horder.imp ?_
    rintro x y hlt rfl
    exact Nat.lt_irrefl _ hlt
  refine ⟨r, start, missingLines t (r.callLines ctx b t start), hblock, hblock.eq_block,
    hmem, hnodup, horder, fun line => Registration.mem_callLines_iff,
    pairwise_accessorCalls ctx t, pairwise_networkCalls ctx t, ?_⟩
  simp only [hmem]
  exact forall_congr' fun line => ⟨fun h hgives => (h hgives).2, fun h hgives => ⟨hgives, h hgives⟩⟩

/-- A control with two accessors for the same key. -/
def sharedKeyScript : Text := String.toList
  "P = 0\nAccessorFunc(P, \"k\", \"X\")\nAccessorFunc(P, \"k\", \"Y\")\nvgui.Register(\"A\", P)"

/-- The fields of the control with two accessors for the same key. -/
def sharedKeyFields : List Text :=
  ["---@field protected k any", "---@field SetX fun(self: A, value: any)",
    "---@field GetX fun(self: A): any", "---@field SetY fun(self: A, value: any)",
    "---@field GetY fun(self: A): any"].map String.toList

/-- The field behind both accessors stands in the block once, where it comes first. -/
theorem registrationFragments_fields_sharedKey :
    ∃ ctx, Context.ofSettings Settings.default = .ok ctx ∧
      .note ("---@class A : Panel".toList :: sharedKeyFields) (.above 0) ∈
        registrationFragments ctx (Bindings.ofText ctx sharedKeyScript) sharedKeyScript ∧
      ∃ (r : Registration) (start : Nat), r.Documented ctx sharedKeyScript ∧ sharedKeyFields.Nodup ∧
        ∀ line ∈ sharedKeyFields,
          r.GivesLine ctx (Bindings.ofText ctx sharedKeyScript) sharedKeyScript start line := by
  obtain ⟨ctx, hctx, hcheck⟩ :=
    exists_context_of_check (s := Settings.default) (t := sharedKeyScript)
    (fun ctx rs => registrationFragmentsExcept ctx (Bindings.ofText ctx sharedKeyScript)
      (.ofText ctx sharedKeyScript) sharedKeyScript [] rs =
        [.note ("---@class A : Panel".toList :: sharedKeyFields) (.above 0)]) (by decide +kernel)
  have hmem : .note ("---@class A : Panel".toList :: sharedKeyFields) (.above 0) ∈
      registrationFragments ctx (Bindings.ofText ctx sharedKeyScript) sharedKeyScript := by
    rw [registrationFragments, of_decide_eq_true hcheck]
    exact List.mem_singleton_self _
  obtain ⟨r, start, fields, hblock, hnote, hgives, hnodup, -⟩ := registrationFragments_fields hmem
  obtain ⟨-, rfl⟩ := List.cons.inj (Fragment.note.inj hnote).1
  exact ⟨ctx, hctx, hmem, r, start, hblock.documented, hnodup, fun line hline =>
    ((hgives line).mp hline).1⟩

/-- A control whose field another class of the text has already. -/
def presentFieldScript : Text :=
  "---@field protected k any\nP = 0\nAccessorFunc(P, \"k\", \"X\")\nvgui.Register(\"A\", P)".toList

/-- A line that stands somewhere in the text is missing in the block of a control to which a call
gives it. -/
theorem registrationFragments_fields_not_complete :
    ∃ ctx, Context.ofSettings Settings.default = .ok ctx ∧
      ∃ lines placement r start,
        IsBlockOf ctx (Bindings.ofText ctx presentFieldScript) presentFieldScript
          (.note lines placement) r
          start ∧
        r.GivesLine ctx (Bindings.ofText ctx presentFieldScript) presentFieldScript start
          "---@field protected k any".toList ∧
        "---@field protected k any".toList ∉ lines := by
  let lines : List Text := ["---@class A : Panel", "---@field SetX fun(self: A, value: any)",
    "---@field GetX fun(self: A): any"].map String.toList
  obtain ⟨ctx, hctx, hcheck⟩ :=
    exists_context_of_check (s := Settings.default) (t := presentFieldScript)
    (fun ctx rs =>
      registrationFragmentsExcept ctx (Bindings.ofText ctx presentFieldScript)
        (.ofText ctx presentFieldScript) presentFieldScript [] rs = [.note lines (.above 26)] ∧
      ∀ r ∈ rs, "---@field protected k any".toList ∈ FieldCalls.lines ctx
        (Bindings.ofText ctx presentFieldScript) (.ofText ctx presentFieldScript)
          r.shape.table r.shape.name
          26 r.site.start) (by decide +kernel)
  obtain ⟨hblocks, hlines⟩ := of_decide_eq_true hcheck
  have hmem : .note lines (.above 26) ∈
      registrationFragments ctx (Bindings.ofText ctx presentFieldScript) presentFieldScript := by
    rw [registrationFragments, hblocks]
    exact List.mem_singleton_self _
  obtain ⟨r, start, hblock⟩ := mem_registrationFragments_iff_isBlockOf.mp hmem
  have hstart : 26 = presentFieldScript.lineStart start :=
    Placement.above.inj (Fragment.note.inj hblock.eq_block).2
  refine ⟨ctx, hctx, lines, .above 26, r, start, hblock,
    Registration.mem_callLines_iff.mp ?_, by decide⟩
  rw [Registration.callLines, ← hstart]
  exact hlines r hblock.documented.mem

end Gloss
