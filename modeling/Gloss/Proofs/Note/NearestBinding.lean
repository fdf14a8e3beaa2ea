import Mathlib.Data.List.Nodup
import Mathlib.Order.Bounds.Basic
import Gloss.Proofs.Note.Binding

/-!
# The nearest binding of a receiver

Which binding decides what a receiver stands for. A receiver is followed to the name that it was
last assigned, and from there to the meta table that this name was last assigned. So the last of all
bindings of a receiver decides if it is the assignment of a name; if it is the assignment of a meta
table, an older assignment of a name is still followed first.

## Main definitions

* `LastBefore`: what the last of some statements before an offset gives.
* `BindsAt`: a statement at an offset binds a variable.

## Main results

* `Bindings.last?_eq_some_iff`: the last binding of a name before an offset.
* `owner?_nearest_binding`: when the nearest binding of a receiver decides its owner.
-/

set_option relaxedAutoImplicit false
set_option autoImplicit false

namespace Gloss

open Text

variable {t name type : Text} {offset start : Nat}

/-! ## The last statement before an offset -/

/-- What the last of some statements before an offset gives; a statement stands at an offset, and
gives a text. -/
def LastBefore (gives : Nat → Text → Prop) (offset : Nat) (given : Text) : Prop :=
  ∃ start, IsGreatest {x | x < offset ∧ ∃ w, gives x w} start ∧ gives start given

/-- A statement at the offset binds the variable: a local assignment, or the assignment of a meta
table. -/
def BindsAt (t name : Text) (offset : Nat) : Prop :=
  (∃ value, AssignmentAt true t name offset value) ∨ ∃ type, MetaLookupAt t name offset type

/-- The last of all statements is the last of those of its kind. -/
lemma lastBefore_of_isGreatest {gives : Nat → Text → Prop} {stands : Nat → Prop} {given : Text}
    (hlast : IsGreatest {x | x < offset ∧ stands x} start) (hsub : ∀ x w, gives x w → stands x)
    (hgives : gives start given) : LastBefore gives offset given := by
  refine ⟨start, ⟨⟨hlast.1.1, given, hgives⟩, ?_⟩, hgives⟩
  rintro x ⟨hx, w, hw⟩
  exact hlast.2 ⟨hx, hsub x w hw⟩

namespace Bindings

variable {bindings : List Binding}

/-- Of bindings in the order of offsets, the one that is found from the end is the one with the
greatest offset. -/
lemma find?_reverse_eq_some {P : Binding → Bool} {b : Binding}
    (hsorted : bindings.Pairwise fun a b => a.offset < b.offset)
    (h : bindings.reverse.find? P = some b) :
    b ∈ bindings ∧ P b = true ∧ ∀ a ∈ bindings, P a = true → a.offset ≤ b.offset := by
  obtain ⟨hb, later, earlier, hsplit, hlater⟩ := List.find?_eq_some_iff_append.mp h
  have hmem : ∀ a, a ∈ bindings ↔ a ∈ later ∨ a = b ∨ a ∈ earlier := by
    intro a
    rw [← List.mem_reverse, hsplit, List.mem_append, List.mem_cons]
  refine ⟨(hmem b).mpr (.inr (.inl rfl)), hb, fun a ha hPa => ?_⟩
  have hreverse := List.pairwise_reverse.mpr hsorted
  rw [hsplit] at hreverse
  have hearlier := (List.pairwise_cons.mp (List.pairwise_append.mp hreverse).2.1).1
  rcases (hmem a).mp ha with ha | rfl | ha
  · exact absurd hPa (by simpa using hlater a ha)
  · exact Nat.le_refl _
  · exact Nat.le_of_lt (hearlier a ha)

/-- **The last binding of a name before an offset.**

**Proof sketch.** The search from the end finds the binding with the greatest offset, as offsets
increase along the bindings, and no two bindings have one offset. -/
lemma last?_eq_some_iff (hsorted : bindings.Pairwise fun a b => a.offset < b.offset)
    {value : Text} :
    last? bindings name offset = some value ↔
      LastBefore (fun x w => { offset := x, name := name, value := w } ∈ bindings)
        offset value := by
  have hfound : ∀ b,
      (bindings.reverse.find? fun b => b.offset < offset && b.name == name) = some b →
      IsGreatest {x | x < offset ∧ ∃ w, { offset := x, name := name, value := w } ∈ bindings}
        b.offset ∧
        { offset := b.offset, name := name, value := b.value } ∈ bindings := by
    intro b hb
    obtain ⟨hmem, hP, hmax⟩ := find?_reverse_eq_some hsorted hb
    simp only [Bool.and_eq_true, decide_eq_true_eq, beq_iff_eq] at hP
    obtain ⟨hlt, rfl⟩ := hP
    refine ⟨⟨⟨hlt, b.value, hmem⟩, ?_⟩, hmem⟩
    rintro x ⟨hx, w, hw⟩
    exact hmax _ hw (by simpa using hx)
  rw [last?, Option.map_eq_some_iff]
  constructor
  · rintro ⟨b, hb, rfl⟩
    exact ⟨b.offset, hfound b hb⟩
  · rintro ⟨start, hgreatest, hmem⟩
    have hsome : (bindings.reverse.find? fun b => b.offset < offset && b.name == name).isSome =
        true := by
      rw [List.find?_isSome]
      exact ⟨_, List.mem_reverse.mpr hmem, by simpa using hgreatest.1.1⟩
    obtain ⟨b, hb⟩ := Option.isSome_iff_exists.mp hsome
    obtain ⟨hgreatest', hmem'⟩ := hfound b hb
    -- Two bindings at one offset are the same.
    have hnodup : (bindings.map Binding.offset).Nodup :=
      List.pairwise_map.mpr (hsorted.imp Nat.ne_of_lt)
    have hsame := List.inj_on_of_nodup_map hnodup hmem' hmem (hgreatest'.unique hgreatest)
    exact ⟨b, hb, (Binding.mk.inj hsame).2.2⟩

/-- There is no last binding of a name iff nothing before the offset binds it. -/
lemma last?_eq_none_iff {bindings : List Binding} :
    last? bindings name offset = none ↔
      ∀ x < offset, ∀ value, { offset := x, name := name, value := value } ∉ bindings := by
  rw [last?, Option.map_eq_none_iff, List.find?_eq_none]
  constructor
  · intro h x hx value hmem
    simpa [hx] using h _ (List.mem_reverse.mpr hmem)
  · rintro h ⟨x, other, value⟩ hmem hP
    simp only [Bool.and_eq_true, decide_eq_true_eq, beq_iff_eq] at hP
    obtain ⟨hx, rfl⟩ := hP
    exact h x hx value (List.mem_reverse.mp hmem)

/-! ## The owner of a receiver -/

variable {b : Bindings}

/-- A receiver that is an identifier, but not `self`, is followed to a name and from there to a meta
table. -/
lemma owner?_eq_metaTable_iff (hname : isIdentifier name = true) (hself : name ≠ "self".toList) :
    b.owner? name offset = some (.metaTable type) ↔
      last? b.metas ((last? b.aliases name offset).getD name) offset = some type := by
  simp only [owner?, trim_of_isIdentifier hname, hname, if_true, direct?, if_neg hself,
    Option.map_some, Option.some.injEq]
  cases last? b.metas ((last? b.aliases name offset).getD name) offset with
  | none => simp
  | some found => simp

/-- A table is the owner of a name iff it is what the name stands for and no meta table. -/
lemma owner?_eq_table_iff (hname : isIdentifier name = true) (hself : name ≠ "self".toList)
    {table : Text} :
    b.owner? name offset = some (.table table) ↔
      (last? b.aliases name offset).getD name = table ∧ last? b.metas table offset = none := by
  simp only [owner?, trim_of_isIdentifier hname, hname, if_true, direct?, if_neg hself,
    Option.map_some, Option.some.injEq]
  generalize (last? b.aliases name offset).getD name = followed
  cases hlast : last? b.metas followed offset with
  | none =>
    constructor
    · intro h
      obtain rfl := Owner.table.inj h
      exact ⟨rfl, hlast⟩
    · rintro ⟨rfl, -⟩
      rfl
  | some found =>
    constructor
    · intro h
      simp at h
    · rintro ⟨rfl, hnone⟩
      simp [hlast] at hnone

/-- The name that is assigned is an identifier. -/
lemma isIdentifier_of_aliasAt {target : Text} (h : AliasAt t name start target) :
    isIdentifier target = true := by
  obtain ⟨value, -, htarget⟩ := h
  exact htarget.isIdentifier

variable {ctx : Context}

/-- The last local assignment of a variable is the last one that stands in the text. -/
lemma last?_aliases_eq_some_iff (h : ctx.HasDefaultTemplates) (hname : IsVariable name)
    {target : Text} :
    last? (ofText ctx t).aliases name offset = some target ↔
      LastBefore (AliasAt t name) offset target := by
  rw [last?_eq_some_iff (pairwise_aliases ctx t)]
  simp only [LastBefore, mem_aliases_iff h hname]

/-- The last meta table of a variable is the last one that is looked up in the text. -/
lemma last?_metas_eq_some_iff (h : ctx.metaTable.expr = Expr.seqs metaParts)
    (hname : IsVariable name) :
    last? (ofText ctx t).metas name offset = some type ↔
      LastBefore (MetaLookupAt t name) offset type := by
  rw [last?_eq_some_iff (pairwise_metas ctx t)]
  simp only [LastBefore, mem_metas_iff h hname]

/-- If the nearest binding of a receiver is the assignment of a meta table, the name that it was
last assigned still comes first. -/
lemma owner?_of_nearest_metaLookup (htemplates : ctx.HasDefaultTemplates)
    (hmeta : ctx.metaTable.expr = Expr.seqs metaParts) (hname : isIdentifier name = true)
    (hself : name ≠ "self".toList) (hlast : IsGreatest {x | x < offset ∧ BindsAt t name x} start)
    (htype : MetaLookupAt t name start type) :
    (ofText ctx t).owner? name offset = some (.metaTable type) ↔
      ∀ target, LastBefore (AliasAt t name) offset target →
        LastBefore (MetaLookupAt t target) offset type := by
  have hvariable := isVariable_of_isIdentifier hname
  rw [owner?_eq_metaTable_iff hname hself]
  cases halias : last? (ofText ctx t).aliases name offset with
  | none =>
    have hnone : ∀ target, ¬ LastBefore (AliasAt t name) offset target := by
      intro target htarget
      rw [← last?_aliases_eq_some_iff htemplates hvariable, halias] at htarget
      simp at htarget
    have hfound := lastBefore_of_isGreatest hlast (fun x w hw => .inr ⟨w, hw⟩) htype
    rw [Option.getD_none, last?_metas_eq_some_iff hmeta hvariable]
    exact iff_of_true hfound fun target htarget => absurd htarget (hnone target)
  | some followed =>
    have hfollowed := (last?_aliases_eq_some_iff htemplates hvariable).mp halias
    have hidentifier : isIdentifier followed = true := by
      obtain ⟨x, -, hx⟩ := hfollowed
      exact isIdentifier_of_aliasAt hx
    rw [Option.getD_some, last?_metas_eq_some_iff hmeta (isVariable_of_isIdentifier hidentifier)]
    constructor
    · intro hmetas target htarget
      rw [← last?_aliases_eq_some_iff htemplates hvariable, halias] at htarget
      exact Option.some.inj htarget ▸ hmetas
    · intro h
      exact h followed hfollowed

/-- If the nearest binding of a receiver is a local assignment of a name that no meta table was
assigned to, the owner is the table of that name. -/
lemma owner?_of_nearest_alias (htemplates : ctx.HasDefaultTemplates)
    (hmeta : ctx.metaTable.expr = Expr.seqs metaParts) (hname : isIdentifier name = true)
    (hself : name ≠ "self".toList) (hlast : IsGreatest {x | x < offset ∧ BindsAt t name x} start)
    {target : Text} (htarget : AliasAt t name start target)
    (hnone : ∀ x < offset, ∀ type, ¬ MetaLookupAt t target x type) :
    (ofText ctx t).owner? name offset = some (.table target) := by
  have hbinds : ∀ x w, AliasAt t name x w → BindsAt t name x := by
    rintro x w ⟨value, hvalue, -⟩
    exact .inl ⟨value, hvalue⟩
  have hfound := lastBefore_of_isGreatest hlast hbinds htarget
  rw [← last?_aliases_eq_some_iff htemplates (isVariable_of_isIdentifier hname)] at hfound
  rw [owner?_eq_table_iff hname hself, hfound, Option.getD_some, last?_eq_none_iff]
  refine ⟨rfl, fun x hx type hmem => ?_⟩
  have hvariable := isVariable_of_isIdentifier (isIdentifier_of_aliasAt htarget)
  exact hnone x hx type ((mem_metas_iff hmeta hvariable).mp hmem)

end Bindings

/-- A name has a pattern for its local assignments unless it is too long. -/
lemma Context.isSome_localAssignment?_iff {ctx : Context} (h : ctx.HasDefaultTemplates) :
    (ctx.localAssignment? name).isSome = true ↔ assignmentWeight true name ≤ Expr.weightLimit := by
  have hlocal : ctx.localAssignment? name = _ := assignment?_of_default h true name
  rw [hlocal]
  split
  · next hle => simp [hle]
  · next hlt => simp [hlt]

open Bindings in
/-- **When the nearest binding of a receiver decides its owner**, with the default patterns. The
local assignments and the meta tables are found where the text has them; a local assignment of a
name that is too long to be searched for is found only by the pattern for any name.

If the nearest binding is the assignment of a meta table, the owner is its type iff there is no
older assignment of a name that leads elsewhere. If it is a local assignment of a name that no meta
table was assigned to, the owner is the table of that name.

**Proof sketch.** The patterns are the default ones, whose matches are known: they start where
assignments and meta tables do. The first three parts say so. In the last two the binding that
decides is the last of its kind, and an alias is followed once. -/
theorem owner?_nearest_binding {s : Settings} {ctx : Context}
    (hctx : Context.ofSettings s = .ok ctx) (hpatterns : s.patterns = {}) (t name : Text)
    (hname : isIdentifier name = true) (hself : name ≠ "self".toList) (offset : Nat) :
    ((ctx.localAssignment? name).isSome = true ↔ assignmentWeight true name ≤ Expr.weightLimit) ∧
    (∀ pattern, ctx.localAssignment? name = some pattern → ∀ start,
      (∃ m ∈ pattern.expr.findAll t, m.start.offset = start) ↔
        ∃ value, AssignmentAt true t name start value) ∧
    (∀ start type, (∃ m ∈ ctx.metaTable.expr.findAll t,
      metaBinding? m = some { offset := start, name := name, value := type }) ↔
        MetaLookupAt t name start type) ∧
    (∀ start type, IsGreatest {x | x < offset ∧ BindsAt t name x} start →
      MetaLookupAt t name start type →
      ((ofText ctx t).owner? name offset = some (.metaTable type) ↔
        ∀ target, LastBefore (AliasAt t name) offset target →
          LastBefore (MetaLookupAt t target) offset type)) ∧
    (∀ start target, IsGreatest {x | x < offset ∧ BindsAt t name x} start →
      AliasAt t name start target →
      (∀ x < offset, ∀ type, ¬ MetaLookupAt t target x type) →
        (ofText ctx t).owner? name offset = some (.table target)) := by
  obtain ⟨htemplates, hmeta⟩ := Context.patterns_of_default hctx hpatterns
  refine ⟨Context.isSome_localAssignment?_iff htemplates, fun pattern hpattern start => ?_,
    fun start type => ?_, ?_, ?_⟩
  · have hpattern : ctx.assignment? true name = some pattern := hpattern
    exact Context.exists_mem_findAll_iff_of_default htemplates
      (not_mem_of_isIdentifier hname) hpattern
  · rw [hmeta, ← List.mem_filterMap]
    exact mem_filterMap_metaBinding?_iff (isVariable_of_isIdentifier hname)
  · intro start type hlast htype
    exact owner?_of_nearest_metaLookup htemplates hmeta hname hself hlast htype
  · intro start target hlast htarget hnone
    exact owner?_of_nearest_alias htemplates hmeta hname hself hlast htarget hnone

/-- A variable that is assigned a name first and a meta table then. -/
def reboundVariable : Text :=
  "local t = PANEL\nt = FindMetaTable(\"Player\")\n".toList

/-- The nearest binding is the assignment of a meta table, but the older assignment of a name is
followed. -/
theorem owner?_nearest_binding_rebound :
    ∃ ctx, Context.ofSettings Settings.default = .ok ctx ∧
      IsGreatest {x | x < 44 ∧ BindsAt reboundVariable "t".toList x} 16 ∧
      MetaLookupAt reboundVariable "t".toList 16 "Player".toList ∧
      (Bindings.ofText ctx reboundVariable).owner? "t".toList 44 ≠
        some (.metaTable "Player".toList) ∧
      (Bindings.ofText ctx reboundVariable).owner? "t".toList 44 =
        some (.table "PANEL".toList) := by
  obtain ⟨ctx, hctx⟩ := Context.exists_default
  obtain ⟨-, -, hmetas, -⟩ :=
    owner?_nearest_binding hctx rfl reboundVariable "t".toList (by decide) (by decide) 44
  obtain ⟨htemplates, hmeta⟩ := Context.patterns_of_default hctx rfl
  have hvariable : IsVariable "t".toList := isVariable_of_isIdentifier (by decide)
  have htype : MetaLookupAt reboundVariable "t".toList 16 "Player".toList := by
    refine (hmetas 16 _).mp ?_
    rw [hmeta]
    decide +kernel
  have hlocals : ∀ m ∈ (Expr.seqs (assignmentParts true (Expr.charParts "t".toList))).findAll
      reboundVariable, m.start.offset ≤ 16 := by
    decide +kernel
  have hlookups : ∀ b ∈ ((Expr.seqs metaParts).findAll reboundVariable).filterMap
      Bindings.metaBinding?, b.offset ≤ 16 := by
    decide +kernel
  have hlast : IsGreatest {x | x < 44 ∧ BindsAt reboundVariable "t".toList x} 16 := by
    refine ⟨⟨by decide, .inr ⟨_, htype⟩⟩, ?_⟩
    rintro x ⟨-, hlocal | ⟨type, hlookup⟩⟩
    · obtain ⟨m, hm, rfl⟩ := (exists_mem_findAll_assignment_iff (by decide)).mpr hlocal
      exact hlocals m hm
    · exact hlookups _ ((Bindings.mem_filterMap_metaBinding?_iff hvariable).mpr hlookup)
  have howner : (Bindings.ofText ctx reboundVariable).owner? "t".toList 44 =
      some (.table "PANEL".toList) := by
    rw [Bindings.owner?_eq_table_iff (by decide) (by decide)]
    simp only [Bindings.ofText, Context.anyLocalAssignment?_of_default htemplates, hmeta]
    decide +kernel
  refine ⟨ctx, hctx, hlast, htype, ?_, howner⟩
  rw [howner]
  decide

end Gloss
