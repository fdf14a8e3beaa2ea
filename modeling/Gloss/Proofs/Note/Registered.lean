import Mathlib.Data.List.Forall2
import Mathlib.Order.Lattice.Nat
import Gloss.Proofs.Note.Assignment
import Gloss.Proofs.Note.Blocks

/-!
# Blocks of registered controls

Every control that is registered gets one block, unless its class is declared already or its table
is never assigned before it is registered. The block belongs to the first registration that can have
one, and goes above the line of the last assignment of the table before it.

## Main definitions

* `Context.AssignsAt`: an assignment of a variable, local or global, is found at an offset.
* `IsBlockOf`: a block is the one of a registration and an assignment of its table.

## Main results

* `assignmentBefore?_eq_some_iff`: the line of the last assignment before an offset.
* `mem_registrationFragments_iff_isBlockOf`: the blocks are those of registrations that have one.
* `registrationFragments_one_per_class`: there is one block for each control that can have one.
-/

set_option relaxedAutoImplicit false
set_option autoImplicit false

namespace Gloss

open Text

variable {ctx : Context} {t name : Text} {offset start : Nat}

/-! ## The last assignment before an offset -/

/-- Of numbers that grow, those that are taken up to a bound are all below it. -/
lemma mem_takeWhile_lt_iff {ns : List Nat} (hsorted : ns.Pairwise (· < ·)) {x : Nat} :
    x ∈ ns.takeWhile (· < offset) ↔ x < offset ∧ x ∈ ns := by
  induction ns with
  | nil => simp
  | cons n ns ih =>
    obtain ⟨hlater, hrest⟩ := List.pairwise_cons.mp hsorted
    by_cases hn : n < offset
    · simp only [List.takeWhile_cons, hn, decide_true, if_true, List.mem_cons, ih hrest]
      grind
    · have hnone : ∀ m ∈ ns, ¬ m < offset := fun m hm hlt => hn (Nat.lt_trans (hlater m hm) hlt)
      simp only [List.takeWhile_cons, hn, decide_false, List.mem_cons]
      grind

/-- Of numbers that grow, the last one below a bound is the greatest. -/
lemma getLast?_takeWhile_eq_some_iff {ns : List Nat} (hsorted : ns.Pairwise (· < ·)) :
    (ns.takeWhile (· < offset)).getLast? = some start ↔
      IsGreatest {x | x < offset ∧ x ∈ ns} start := by
  have hgrows : (ns.takeWhile (· < offset)).Pairwise (· < ·) :=
    hsorted.sublist (List.takeWhile_sublist _)
  have hgreatest : ∀ last, (ns.takeWhile (· < offset)).getLast? = some last →
      IsGreatest {x | x < offset ∧ x ∈ ns} last := by
    intro last hlast
    obtain ⟨front, hfront⟩ := List.getLast?_eq_some_iff.mp hlast
    refine ⟨(mem_takeWhile_lt_iff hsorted).mp (List.mem_of_getLast? hlast), fun x hx => ?_⟩
    have hx := (mem_takeWhile_lt_iff hsorted).mpr hx
    rw [hfront] at hx hgrows
    rcases List.mem_append.mp hx with hx | hx
    · exact Nat.le_of_lt
        ((List.pairwise_append.mp hgrows).2.2 x hx last (List.mem_singleton_self last))
    · exact Nat.le_of_eq (List.mem_singleton.mp hx)
  constructor
  · exact hgreatest start
  · intro hstart
    have hne := List.ne_nil_of_mem ((mem_takeWhile_lt_iff hsorted).mpr hstart.1)
    obtain ⟨last, hlast⟩ := Option.ne_none_iff_exists'.mp (mt List.getLast?_eq_none_iff.mp hne)
    rw [hlast, (hgreatest last hlast).unique hstart]

/-- The last match before an offset is the one with the greatest start. -/
lemma lastMatchBefore?_eq_some_iff {p : Pattern} :
    lastMatchBefore? p t offset = some start ↔
      IsGreatest {x | x < offset ∧ ∃ m ∈ p.expr.findAll t, m.start.offset = x} start := by
  have hsorted : ((p.expr.findAll t).map fun m => m.start.offset).Pairwise (· < ·) :=
    List.pairwise_map.mpr (p.expr.findAll_pairwise t)
  rw [lastMatchBefore?, getLast?_takeWhile_eq_some_iff hsorted]
  simp only [List.mem_map]

/-- An assignment of the variable, local or global, is found at the offset. -/
def Context.AssignsAt (ctx : Context) (t name : Text) (offset : Nat) : Prop :=
  ∃ isLocal pattern, ctx.assignment? isLocal name = some pattern ∧
    ∃ m ∈ pattern.expr.findAll t, m.start.offset = offset

/-- The starts of the last local and the last global assignment before an offset. -/
lemma mem_lastMatches_iff {x : Nat} :
    (x ∈ [ctx.localAssignment? name, ctx.globalAssignment? name].filterMap fun p =>
      p.bind fun p => lastMatchBefore? p t offset) ↔
      ∃ isLocal pattern, ctx.assignment? isLocal name = some pattern ∧
        lastMatchBefore? pattern t offset = some x := by
  simp only [List.mem_filterMap, List.mem_cons, List.not_mem_nil, or_false, Option.bind_eq_some_iff,
    Bool.exists_bool]
  constructor
  · rintro ⟨_, rfl | rfl, hfound⟩
    · exact .inr hfound
    · exact .inl hfound
  · rintro (hfound | hfound)
    · exact ⟨_, .inr rfl, hfound⟩
    · exact ⟨_, .inl rfl, hfound⟩

/-- Numbers below a bound that have a property have a greatest one among them. -/
lemma exists_isGreatest_lt {P : Nat → Prop} {x : Nat} (hx : x < offset) (hP : P x) :
    ∃ start, IsGreatest {y | y < offset ∧ P y} start := by
  have hbound : BddAbove {y | y < offset ∧ P y} := ⟨offset, fun y hy => Nat.le_of_lt hy.1⟩
  exact ⟨_, Nat.sSup_mem ⟨x, hx, hP⟩ hbound, fun y hy => le_csSup hbound hy⟩

/-- **The line of the last assignment before an offset**: of all local and global assignments that
start before it, the one with the greatest start.

**Proof sketch.** The greatest of the last matches of both patterns is greater than or equal to all
matches before the offset, since each of them has a last match of its pattern behind it or is that
match. -/
lemma assignmentBefore?_eq_some_iff {line : Nat} :
    assignmentBefore? ctx t name offset = some line ↔
      ∃ start, IsGreatest {x | x < offset ∧ ctx.AssignsAt t name x} start ∧
        t.lineStart start = line := by
  rw [assignmentBefore?, Option.map_eq_some_iff]
  refine exists_congr fun start => and_congr_left fun _ => ?_
  rw [List.max?_eq_some_iff]
  simp only [mem_lastMatches_iff, lastMatchBefore?_eq_some_iff]
  constructor
  · rintro ⟨⟨isLocal, pattern, hpattern, hstart⟩, hmax⟩
    refine ⟨⟨hstart.1.1, isLocal, pattern, hpattern, hstart.1.2⟩, ?_⟩
    rintro x ⟨hx, isLocal', pattern', hpattern', hfound⟩
    -- The last match of the other pattern lies between.
    obtain ⟨last, hlast⟩ := exists_isGreatest_lt
      (P := fun x => ∃ m ∈ pattern'.expr.findAll t, m.start.offset = x) hx hfound
    exact Nat.le_trans (hlast.2 ⟨hx, hfound⟩) (hmax last ⟨isLocal', pattern', hpattern', hlast⟩)
  · rintro ⟨⟨hlt, isLocal, pattern, hpattern, hfound⟩, hmax⟩
    refine ⟨⟨isLocal, pattern, hpattern, ⟨hlt, hfound⟩, fun x hx => ?_⟩, ?_⟩
    · exact hmax ⟨hx.1, isLocal, pattern, hpattern, hx.2⟩
    · rintro x ⟨isLocal', pattern', hpattern', hx⟩
      exact hmax ⟨hx.1.1, isLocal', pattern', hpattern', hx.1.2⟩

/-! ## Registrations and their blocks -/

variable {b : Bindings} {r : Registration} {f : Fragment}

/-- The table of the registration is assigned before it. -/
def Registration.Assigned (ctx : Context) (t : Text) (r : Registration) : Prop :=
  ∃ x < r.site.start, ctx.AssignsAt t r.shape.table x

/-- A registration can have a block iff its class is not declared and its table is assigned
before. -/
lemma Registration.wanted_iff :
    r.Wanted ctx t ↔ findClassLine? t r.shape.name = none ∧ r.Assigned ctx t := by
  rw [Registration.Wanted, Option.isSome_iff_exists]
  refine and_congr_right fun _ => ?_
  simp only [assignmentBefore?_eq_some_iff]
  constructor
  · rintro ⟨line, start, hstart, -⟩
    exact ⟨start, hstart.1⟩
  · rintro ⟨x, hx, hassigns⟩
    obtain ⟨start, hstart⟩ := exists_isGreatest_lt hx hassigns
    exact ⟨t.lineStart start, start, hstart, rfl⟩

/-- The block of a registration whose table is last assigned at an offset. -/
def Registration.block (ctx : Context) (b : Bindings) (t : Text) (r : Registration) (start : Nat) :
    Fragment :=
  .note (classLine r.shape.name (some r.base) ::
    registrationFields ctx b (.ofText ctx t) t r (t.lineStart start)) (.above (t.lineStart start))

/-- The offset is the start of the last assignment of the registered table before the
registration. -/
def Registration.AssignedLastAt (ctx : Context) (t : Text) (r : Registration) (start : Nat) :
    Prop :=
  IsGreatest {x | x < r.site.start ∧ ctx.AssignsAt t r.shape.table x} start

/-- A registration has a block iff its class is not found and its table is assigned before it; the
block is the one for the last assignment. -/
lemma registrationFragment?_ofText_eq_some_iff :
    registrationFragment? ctx b (.ofText ctx t) t r = some f ↔
      findClassLine? t r.shape.name = none ∧
        ∃ start, r.AssignedLastAt ctx t start ∧ f = r.block ctx b t start := by
  rw [registrationFragment?_eq_some_iff]
  refine and_congr_right fun _ => ?_
  simp only [assignmentBefore?_eq_some_iff]
  constructor
  · rintro ⟨_, ⟨start, hstart, rfl⟩, rfl⟩
    exact ⟨start, hstart, rfl⟩
  · rintro ⟨start, hstart, rfl⟩
    exact ⟨_, ⟨start, hstart, rfl⟩, rfl⟩

/-- The block is the one of a registration, and of an assignment of its table: the registration is
the first of its control that can have a block, and the assignment is the last one before it. -/
structure IsBlockOf (ctx : Context) (b : Bindings) (t : Text) (f : Fragment) (r : Registration)
    (start : Nat) : Prop where
  /-- The registration has a block. -/
  documented : r.Documented ctx t
  /-- The table is last assigned at the offset. -/
  assigned : r.AssignedLastAt ctx t start
  /-- What the block is. -/
  eq_block : f = r.block ctx b t start

/-- **The blocks are those of the registrations that have one.** -/
lemma mem_registrationFragments_iff_isBlockOf :
    f ∈ registrationFragments ctx b t ↔ ∃ r start, IsBlockOf ctx b t f r start := by
  simp only [mem_registrationFragments_iff, registrationFragment?_ofText_eq_some_iff]
  constructor
  · rintro ⟨r, hr, -, start, hstart, hf⟩
    exact ⟨r, start, hr, hstart, hf⟩
  · rintro ⟨r, start, hr, hstart, hf⟩
    exact ⟨r, hr, hr.wanted.1, start, hstart, hf⟩

/-! ## One block for each control -/

/-- The registrations of a text are the calls that the rules recognise. -/
lemma mem_registrations_iff :
    r ∈ registrations ctx t ↔ ∃ rule ∈ ctx.registrations, ∃ site ∈ rule.head.calls t, ∃ shape,
      RegistrationShape.ofArguments? rule.kind site.arguments = some shape ∧
        r = { site := site, shape := shape, defaultBase := rule.defaultBase } := by
  simp only [registrations, List.mem_mergeSort, List.mem_flatMap, registrationsOf,
    List.mem_filterMap, Option.map_eq_some_iff, eq_comm (b := r)]

/-- The registrations of a text are in the order in which they start. -/
lemma pairwise_registrations (ctx : Context) (t : Text) :
    (registrations ctx t).Pairwise fun r s => r.site.start ≤ s.site.start := by
  have hsorted : (registrations ctx t).Pairwise fun r s =>
      decide (r.site.start ≤ s.site.start) = true :=
    List.pairwise_mergeSort (by simpa using fun _ _ _ => Nat.le_trans)
      (by simpa using fun _ _ => Nat.le_total _ _) _
  simpa using hsorted

/-- Calls that the rules give in the order in which they start stay in that order. -/
lemma pair_sublist_registrations {r s : Registration}
    (hsub : [r, s].Sublist (ctx.registrations.flatMap (registrationsOf t)))
    (hle : r.site.start ≤ s.site.start) : [r, s].Sublist (registrations ctx t) :=
  List.pair_sublist_mergeSort (by simpa using fun _ _ _ => Nat.le_trans)
    (by simpa using fun _ _ => Nat.le_total _ _) (by simpa using hle) hsub

/-- The registrations of a text if the rules give them in the order in which they start, so that
nothing has to be put in order. -/
def orderedRegistrations? (ctx : Context) (t : Text) : Option (List Registration) :=
  if (ctx.registrations.flatMap (registrationsOf t)).Pairwise fun r s =>
    r.site.start ≤ s.site.start then
    some (ctx.registrations.flatMap (registrationsOf t))
  else none

/-- Registrations that are in order are those of the text. -/
lemma registrations_of_ordered {rs : List Registration}
    (h : orderedRegistrations? ctx t = some rs) :
    registrations ctx t = rs := by
  rw [orderedRegistrations?, Option.ite_none_right_eq_some] at h
  obtain ⟨hsorted, hrs⟩ := h
  rw [registrations, List.mergeSort_of_pairwise (by simpa using hsorted), Option.some.inj hrs]

/-- What holds of the context of given settings and the registrations of a text can be found by
evaluation. -/
lemma exists_context_of_check {s : Settings} {t : Text} (check : Context → List Registration → Bool)
    (h : ((Context.ofSettings s).toOption.any fun ctx =>
      (orderedRegistrations? ctx t).any (check ctx)) =
      true) :
    ∃ ctx, Context.ofSettings s = .ok ctx ∧ check ctx (registrations ctx t) = true := by
  generalize Context.ofSettings s = result at h ⊢
  cases result with
  | error fault => simp [Except.toOption] at h
  | ok ctx =>
    have h : (orderedRegistrations? ctx t).any (check ctx) = true := h
    obtain ⟨rs, hrs, hcheck⟩ := (Option.any_eq_true _ _).mp h
    exact ⟨ctx, rfl, (registrations_of_ordered hrs).symm ▸ hcheck⟩

/-- The registrations `rs` are the ones among `all` that get a block when the controls in `done`
have one: for each other control, the first registration that can have a block. -/
structure GetBlocks (ctx : Context) (t : Text) (done : List Text) (all rs : List Registration) :
    Prop where
  /-- They are in the order of all. -/
  sublist : rs.Sublist all
  /-- No control has two. -/
  nodup : (rs.map fun r => r.shape.name).Nodup
  /-- Their controls have no block yet. -/
  not_done : ∀ r ∈ rs, r.shape.name ∉ done
  /-- Each is the first of its control that can have a block. -/
  first : ∀ r ∈ rs, ∃ before after, all = before ++ r :: after ∧
    ∀ other ∈ before, other.Wanted ctx t → other.shape.name ≠ r.shape.name
  /-- No control is left out. -/
  complete : ∀ r ∈ all, r.Wanted ctx t → r.shape.name ∉ done →
    ∃ chosen ∈ rs, chosen.shape.name = r.shape.name

namespace GetBlocks

variable {done : List Text} {head : Registration} {all rs : List Registration}

/-- A registration that can have no block, or whose control has one, is passed over. -/
lemma skip (h : GetBlocks ctx t done all rs) (hhead : head.Wanted ctx t → head.shape.name ∈ done) :
    GetBlocks ctx t done (head :: all) rs where
  sublist := h.sublist.cons head
  nodup := h.nodup
  not_done := h.not_done
  first := by
    intro r hr
    obtain ⟨before, after, rfl, hbefore⟩ := h.first r hr
    refine ⟨head :: before, after, rfl, List.forall_mem_cons.mpr ⟨fun hwanted hsame => ?_, hbefore⟩⟩
    exact h.not_done r hr (hsame ▸ hhead hwanted)
  complete := by
    refine List.forall_mem_cons.mpr ⟨fun hwanted hnot => ?_, h.complete⟩
    exact absurd (hhead hwanted) hnot

/-- A registration that can have a block gets it if its control has none, which is done from there
on. -/
lemma keep (h : GetBlocks ctx t (head.shape.name :: done) all rs) (hhead : head.shape.name ∉ done) :
    GetBlocks ctx t done (head :: all) (head :: rs) where
  sublist := h.sublist.cons_cons head
  nodup := by
    refine List.nodup_cons.mpr ⟨fun hmem => ?_, h.nodup⟩
    obtain ⟨r, hr, hsame⟩ := List.mem_map.mp hmem
    exact h.not_done r hr (by simp [hsame])
  not_done := by
    refine List.forall_mem_cons.mpr ⟨hhead, fun r hr hmem => ?_⟩
    exact h.not_done r hr (List.mem_cons_of_mem _ hmem)
  first := by
    refine List.forall_mem_cons.mpr ⟨⟨[], all, rfl, by simp⟩, fun r hr => ?_⟩
    obtain ⟨before, after, rfl, hbefore⟩ := h.first r hr
    refine ⟨head :: before, after, rfl, List.forall_mem_cons.mpr ⟨fun _ hsame => ?_, hbefore⟩⟩
    exact h.not_done r hr (by simp [hsame])
  complete := by
    refine List.forall_mem_cons.mpr ⟨fun _ _ => ⟨head, List.mem_cons_self, rfl⟩,
      fun r hr hwanted hnot => ?_⟩
    by_cases hsame : r.shape.name = head.shape.name
    · exact ⟨head, List.mem_cons_self, hsame.symm⟩
    · obtain ⟨chosen, hchosen, hname⟩ := h.complete r hr hwanted (by simp [hsame, hnot])
      exact ⟨chosen, List.mem_cons_of_mem _ hchosen, hname⟩

end GetBlocks

/-- **The registrations that get a block**, with their blocks in the same order.

**Proof sketch.** Induction on the registrations, with the controls that have a block already. A
registration of one of these is passed over, and so is one that is not wanted; any other gets its
block, and its control joins those that have one. -/
lemma exists_getBlocks (ctx : Context) (b : Bindings) (calls : FieldCalls) (t : Text)
    (done : List Text) (all : List Registration) :
    ∃ rs, GetBlocks ctx t done all rs ∧
      List.Forall₂ (fun r f => registrationFragment? ctx b calls t r = some f) rs
        (registrationFragmentsExcept ctx b calls t done all) := by
  induction all generalizing done with
  | nil => exact ⟨[], ⟨List.Sublist.refl [], by simp, by simp, by simp, by simp⟩, List.Forall₂.nil⟩
  | cons head all ih =>
    rw [registrationFragmentsExcept]
    split
    · next hdone =>
      obtain ⟨rs, hrs, hblocks⟩ := ih done
      exact ⟨rs, hrs.skip fun _ => List.contains_iff_mem.mp hdone, hblocks⟩
    · next hdone =>
      split
      · next hnone =>
        have hnot : ¬ head.Wanted ctx t := fun hwanted => by
          obtain ⟨f, hf⟩ : ∃ f, registrationFragment? ctx b calls t head = some f :=
            exists_registrationFragment?_iff.mpr hwanted
          simp [hnone] at hf
        obtain ⟨rs, hrs, hblocks⟩ := ih done
        exact ⟨rs, hrs.skip fun hwanted => absurd hwanted hnot, hblocks⟩
      · next f hf =>
        obtain ⟨rs, hrs, hblocks⟩ := ih (head.shape.name :: done)
        exact ⟨head :: rs, hrs.keep (by simpa using hdone), List.Forall₂.cons hf hblocks⟩

/-- **There is one block for each registered control that can have one.** The registrations are the
calls that the rules recognise, in the order in which they start, and calls with the same start in
the order of the rules. Some of them, in that order, have one block each: no two of the same
control, and one for exactly those controls whose class is not declared and that have a registration
whose table is assigned before it. It is the first such registration of its control; its block
starts with the line of the class, with the base of the call or else of the rule, and goes above the
line of the last assignment of the table.

**Proof sketch.** The sorted list has the registrations of all rules, and sorting keeps the order of
those that are in order. The rest is what `exists_getBlocks` says when no control has a block yet: a
registration is wanted iff its class is not declared and its table is assigned before it. -/
theorem registrationFragments_one_per_class (ctx : Context) (b : Bindings) (t : Text) :
    (∀ r, r ∈ registrations ctx t ↔ ∃ rule ∈ ctx.registrations, ∃ site ∈ rule.head.calls t, ∃ shape,
      RegistrationShape.ofArguments? rule.kind site.arguments = some shape ∧
        r = { site := site, shape := shape, defaultBase := rule.defaultBase }) ∧
    (registrations ctx t).Pairwise (fun r s => r.site.start ≤ s.site.start) ∧
    (∀ r s, [r, s].Sublist (ctx.registrations.flatMap (registrationsOf t)) →
      r.site.start ≤ s.site.start →
      [r, s].Sublist (registrations ctx t)) ∧
    ∃ rs : List Registration, rs.Sublist (registrations ctx t) ∧
      (rs.map fun r => r.shape.name).Nodup ∧
      (∀ name, (∃ r ∈ rs, r.shape.name = name) ↔ findClassLine? t name = none ∧
        ∃ r ∈ registrations ctx t, r.shape.name = name ∧ r.Assigned ctx t) ∧
      (∀ r ∈ rs, ∃ before after, registrations ctx t = before ++ r :: after ∧ r.Assigned ctx t ∧
        ∀ other ∈ before, other.shape.name = r.shape.name → ¬ other.Assigned ctx t) ∧
      List.Forall₂ (fun r f => ∃ start fields, r.AssignedLastAt ctx t start ∧
        f = .note (classLine r.shape.name (some (r.shape.base.getD r.defaultBase)) :: fields)
          (.above (t.lineStart start))) rs (registrationFragments ctx b t) := by
  refine ⟨fun r => mem_registrations_iff, pairwise_registrations ctx t, ?_, ?_⟩
  · intro r s hsub hle
    exact pair_sublist_registrations hsub hle
  obtain ⟨rs, hrs, hblocks⟩ := exists_getBlocks ctx b (.ofText ctx t) t [] (registrations ctx t)
  obtain ⟨hwanted, -⟩ : (∀ r ∈ rs, r.Wanted ctx t) ∧ _ := (List.forall₂_and_left _ _).mp
    (hblocks.imp fun r f hf => ⟨exists_registrationFragment?_iff.mp ⟨f, hf⟩, hf⟩)
  refine ⟨rs, hrs.sublist, hrs.nodup, fun name => ⟨?_, ?_⟩, fun r hr => ?_,
    hblocks.imp fun r f hf => ?_⟩
  · rintro ⟨r, hr, rfl⟩
    obtain ⟨hclass, hassigned⟩ := Registration.wanted_iff.mp (hwanted r hr)
    exact ⟨hclass, r, hrs.sublist.subset hr, rfl, hassigned⟩
  · rintro ⟨hclass, r, hr, rfl, hassigned⟩
    exact hrs.complete r hr (Registration.wanted_iff.mpr ⟨hclass, hassigned⟩) List.not_mem_nil
  · obtain ⟨hclass, hassigned⟩ := Registration.wanted_iff.mp (hwanted r hr)
    obtain ⟨before, after, hsplit, hbefore⟩ := hrs.first r hr
    refine ⟨before, after, hsplit, hassigned, fun other hother hsame hothers => ?_⟩
    exact hbefore other hother (Registration.wanted_iff.mpr ⟨hsame ▸ hclass, hothers⟩) hsame
  · obtain ⟨-, start, hstart, rfl⟩ := registrationFragment?_ofText_eq_some_iff.mp hf
    exact ⟨start, _, hstart, rfl⟩

end Gloss
