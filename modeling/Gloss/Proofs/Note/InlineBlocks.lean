import Mathlib.Data.List.Forall2
import Mathlib.Data.List.Nodup
import Mathlib.Data.List.Induction
import Mathlib.Order.Bounds.Basic
import Gloss.Proofs.Note.Blocks

/-!
# Blocks for meta tables

Lines for meta tables are added type by type, in any order, and merged in place. This module relates
the groups to everything that was added before: there is one group for each type, in the order in
which the types came first, and it holds the lines for its type and the greatest offset. So the
blocks can be told from what was added, type by type.

## Main definitions

* `InlineGroups.ofPushes`: the groups after lines have been added several times.
* `InlineGroups.linesFor`, `InlineGroups.anchorsFor`: what was added for a type.
* `InlineGroups.Collects`: how groups go with what was added.
* `InlineGroups.IsBlockFor`: the block of a type.

## Main results

* `InlineGroups.Collects.push`, `InlineGroups.collects_ofPushes`: how the groups go with what was
  added, for one step and for all.
* `InlineGroups.fragments_ofPushes`: the blocks that are made of what was added.
-/

set_option relaxedAutoImplicit false
set_option autoImplicit false

namespace Gloss

namespace InlineGroups

/-- The groups after one push after the other. A push has the parts of a group: a type, an offset
and lines. -/
def ofPushes (pushes : List InlineGroup) : InlineGroups :=
  pushes.foldl (fun groups q => groups.push q.typeName q.anchor q.lines) []

/-- The types for which lines were added. -/
def typesOf (pushes : List InlineGroup) : List Text :=
  pushes.map InlineGroup.typeName

/-- The lines that were added for a type, one after the other. -/
def linesFor (pushes : List InlineGroup) (name : Text) : List Text :=
  (pushes.filter (·.typeName = name)).flatMap InlineGroup.lines

/-- The offsets that were given for a type. -/
def anchorsFor (pushes : List InlineGroup) (name : Text) : List Nat :=
  (pushes.filter (·.typeName = name)).map InlineGroup.anchor

variable {pushes : List InlineGroup} {groups : InlineGroups} {g q : InlineGroup}
    {t name line : Text}

/-! ## What was added for a type -/

/-- A line was added for a type iff one of the additions for it has the line. -/
lemma mem_linesFor_iff :
    line ∈ linesFor pushes name ↔ ∃ q ∈ pushes, q.typeName = name ∧ line ∈ q.lines := by
  simp [linesFor, and_assoc]

/-- The last addition puts its lines behind those of its type. -/
lemma linesFor_concat :
    linesFor (pushes ++ [q]) name =
      linesFor pushes name ++ if q.typeName = name then q.lines else [] := by
  by_cases hq : q.typeName = name <;> simp [linesFor, hq]

/-- The last addition puts its offset behind those of its type. -/
lemma anchorsFor_concat :
    anchorsFor (pushes ++ [q]) name =
      anchorsFor pushes name ++ if q.typeName = name then [q.anchor] else [] := by
  by_cases hq : q.typeName = name <;> simp [anchorsFor, hq]

/-- For other types nothing was added. -/
lemma filter_eq_nil_of_notMem (h : name ∉ typesOf pushes) :
    pushes.filter (·.typeName = name) = [] := by
  rw [List.filter_eq_nil_iff]
  intro q hq heq
  exact h (List.mem_map.mpr ⟨q, hq, of_decide_eq_true heq⟩)

/-- The greatest offset after one more. -/
lemma isGreatest_concat {anchors : List Nat} {a : Nat}
    (h : IsGreatest {x | x ∈ anchors} a) (b : Nat) :
    IsGreatest {x | x ∈ anchors ++ [b]} (max a b) := by
  obtain ⟨hmem, hle⟩ := h
  constructor
  · rcases Nat.le_total a b with hab | hab
    · rw [Nat.max_eq_right hab]
      exact List.mem_append_right _ (List.mem_singleton_self b)
    · rw [Nat.max_eq_left hab]
      exact List.mem_append_left _ hmem
  · intro x hx
    rcases List.mem_append.mp hx with hx | hx
    · exact Nat.le_trans (hle hx) (Nat.le_max_left a b)
    · rw [List.mem_singleton.mp hx]
      exact Nat.le_max_right a b

/-! ## What a group holds -/

/-- A group holds what was added for its type. -/
structure Holds (pushes : List InlineGroup) (g : InlineGroup) : Prop where
  /-- It has the lines for the type. -/
  lines_eq : g.lines = linesFor pushes g.typeName
  /-- It has the greatest offset for the type. -/
  isGreatest : IsGreatest {anchor | anchor ∈ anchorsFor pushes g.typeName} g.anchor

/-- What is added for another type does not matter. -/
lemma Holds.concat_of_ne (h : Holds pushes g) (hne : q.typeName ≠ g.typeName) :
    Holds (pushes ++ [q]) g where
  lines_eq := by rw [linesFor_concat, if_neg hne, List.append_nil, h.lines_eq]
  isGreatest := by
    rw [anchorsFor_concat, if_neg hne, List.append_nil]
    exact h.isGreatest

/-- What is added for the type of a group is merged into it. -/
lemma Holds.concat_of_eq (h : Holds pushes g) (heq : g.typeName = q.typeName) :
    Holds (pushes ++ [q])
      { g with anchor := max g.anchor q.anchor, lines := g.lines ++ q.lines } where
  lines_eq := by rw [linesFor_concat, if_pos heq.symm, h.lines_eq]
  isGreatest := by
    rw [anchorsFor_concat, if_pos heq.symm]
    exact isGreatest_concat h.isGreatest q.anchor

/-- What is added for a new type is a group of its own. -/
lemma holds_concat_of_notMem (h : q.typeName ∉ typesOf pushes) : Holds (pushes ++ [q]) q where
  lines_eq := by
    rw [linesFor_concat, if_pos rfl, linesFor, filter_eq_nil_of_notMem h]
    rfl
  isGreatest := by
    rw [anchorsFor_concat, if_pos rfl, anchorsFor, filter_eq_nil_of_notMem h]
    simp

/-! ## Groups and what was added -/

/-- The groups are those of everything that was added. -/
structure Collects (pushes : List InlineGroup) (groups : InlineGroups) : Prop where
  /-- There is a group for a type if lines were added for it. -/
  mem_types_iff : ∀ name, name ∈ groups.map InlineGroup.typeName ↔ name ∈ typesOf pushes
  /-- The groups are in the order in which their types came first. -/
  ordered : (groups.map InlineGroup.typeName).Pairwise fun m n =>
    (typesOf pushes).idxOf m < (typesOf pushes).idxOf n
  /-- The groups hold what was added for their types. -/
  holds : ∀ g ∈ groups, Holds pushes g

/-- The last addition puts its type behind the others. -/
lemma typesOf_concat : typesOf (pushes ++ [q]) = typesOf pushes ++ [q.typeName] :=
  List.map_append

/-- No two groups are for one type. -/
lemma Collects.nodup (h : Collects pushes groups) : (groups.map InlineGroup.typeName).Nodup :=
  h.ordered.imp fun hlt heq => by simp [heq] at hlt

/-- What is added later does not change which type came first. -/
lemma Collects.ordered_concat (h : Collects pushes groups) (q : InlineGroup) :
    (groups.map InlineGroup.typeName).Pairwise fun m n =>
      (typesOf (pushes ++ [q])).idxOf m < (typesOf (pushes ++ [q])).idxOf n := by
  refine h.ordered.imp_of_mem fun hm hn hlt => ?_
  rw [typesOf_concat, List.idxOf_append_of_mem ((h.mem_types_iff _).mp hm),
    List.idxOf_append_of_mem ((h.mem_types_iff _).mp hn)]
  exact hlt

/-- A new type comes behind all others. -/
lemma Collects.append_new (h : Collects pushes groups)
    (hnew : ∀ g ∈ groups, g.typeName ≠ q.typeName) :
    Collects (pushes ++ [q]) (groups ++ [q]) := by
  have hnot : q.typeName ∉ typesOf pushes := by
    rw [← h.mem_types_iff]
    simpa using hnew
  refine ⟨fun name => ?_, ?_, fun g hg => ?_⟩
  · rw [typesOf_concat, List.map_append, List.mem_append, List.mem_append, h.mem_types_iff]
    rfl
  · rw [List.map_append, List.pairwise_append]
    refine ⟨h.ordered_concat q, List.pairwise_singleton _ _, fun m hm n hn => ?_⟩
    obtain rfl : n = q.typeName := List.mem_singleton.mp hn
    have hm : m ∈ typesOf pushes := (h.mem_types_iff m).mp hm
    rw [typesOf_concat, List.idxOf_append_of_mem hm, List.idxOf_append_of_notMem hnot]
    exact Nat.lt_of_lt_of_le (List.idxOf_lt_length_iff.mpr hm) (Nat.le_add_right _ _)
  · rcases List.mem_append.mp hg with hg | hg
    · exact (h.holds g hg).concat_of_ne (hnew g hg).symm
    · obtain rfl := List.mem_singleton.mp hg
      exact holds_concat_of_notMem hnot

/-- A type that there was before stays in its place. -/
lemma Collects.merge {before after : List InlineGroup} (h : Collects pushes (before ++ g :: after))
    (hg : g.typeName = q.typeName) :
    Collects (pushes ++ [q])
      (before ++
        { g with anchor := max g.anchor q.anchor, lines := g.lines ++ q.lines } :: after) := by
  have htypes :
      (before ++ { g with anchor := max g.anchor q.anchor, lines := g.lines ++ q.lines } ::
        after).map InlineGroup.typeName = (before ++ g :: after).map InlineGroup.typeName := by
    simp
  have hmem : q.typeName ∈ typesOf pushes := by
    rw [← h.mem_types_iff]
    simp [hg]
  -- The types of the other groups are different, so these hold what they held.
  have hother : ∀ x ∈ before ++ after, Holds (pushes ++ [q]) x := by
    intro x hx
    have hnodup := h.nodup
    rw [List.map_append, List.map_cons, List.nodup_middle, List.nodup_cons, ← List.map_append,
      hg] at hnodup
    refine (h.holds x ?_).concat_of_ne fun htype => hnodup.1 (htype ▸ List.mem_map_of_mem hx)
    simpa using (List.mem_append.mp hx).imp_right Or.inr
  refine ⟨fun name => ?_, ?_, fun x hx => ?_⟩
  · rw [htypes, h.mem_types_iff, typesOf_concat, List.mem_append, List.mem_singleton]
    exact ⟨.inl, fun hname => hname.elim id fun heq => heq ▸ hmem⟩
  · rw [htypes]
    exact h.ordered_concat q
  · rcases List.mem_append.mp hx with hx | hx
    · exact hother x (List.mem_append_left _ hx)
    · rcases List.mem_cons.mp hx with rfl | hx
      · exact (h.holds g (by simp)).concat_of_eq hg
      · exact hother x (List.mem_append_right _ hx)

/-- **One more push**: the groups stay those of everything that was added. -/
lemma Collects.push (h : Collects pushes groups) (q : InlineGroup) :
    Collects (pushes ++ [q]) (groups.push q.typeName q.anchor q.lines) := by
  rcases push_cases q.typeName q.anchor q.lines groups with
      ⟨hnew, heq⟩ | ⟨before, g, after, rfl, hg, heq⟩
  · rw [heq]
    exact h.append_new hnew
  · rw [heq]
    exact h.merge hg

/-- **After all pushes** the groups are those of everything that was added. -/
lemma collects_ofPushes (pushes : List InlineGroup) : Collects pushes (ofPushes pushes) := by
  induction pushes using List.reverseRecOn with
  | nil => exact ⟨fun name => Iff.rfl, .nil, fun g hg => absurd hg List.not_mem_nil⟩
  | append_singleton pushes q ih =>
    rw [ofPushes, List.foldl_concat]
    exact ih.push q

/-! ## Blocks -/

/-- The block of a type: the line of its class, and then the lines added for it that the text does
not have, each once and in the order in which they were first added. It goes below the greatest
offset for the type. -/
def IsBlockFor (pushes : List InlineGroup) (t name : Text) (f : Fragment) : Prop :=
  ∃ fields anchor, f = .note (classLine name none :: fields) (.below anchor) ∧
    (∀ line, line ∈ fields ↔ line ∈ linesFor pushes name ∧ t.hasLine line = false) ∧
    fields.Nodup ∧
    (fields.Pairwise fun x y => (linesFor pushes name).idxOf x < (linesFor pushes name).idxOf y) ∧
    IsGreatest {offset | offset ∈ anchorsFor pushes name} anchor

/-- A text does not have a line iff it is none of its lines, white space at the ends aside. -/
lemma hasLine_eq_false_iff : t.hasLine line = false ↔ line ∉ t.trimmedLines := by
  simp [Text.hasLine]

/-- The fragment of a group that holds what was added is the block of its type. -/
lemma Holds.isBlockFor (h : Holds pushes g) (t : Text) :
    IsBlockFor pushes t g.typeName
      (.note (classLine g.typeName none :: missingLines t g.lines) (.below g.anchor)) := by
  have horder := pairwise_idxOf_linesOutside t.trimmedLines (linesFor pushes g.typeName)
  refine ⟨missingLines t g.lines, g.anchor, rfl, fun line => ?_, ?_, ?_, h.isGreatest⟩
  · rw [mem_missingLines_iff, hasLine_eq_false_iff, h.lines_eq]
  · rw [h.lines_eq]
    exact horder.imp fun hlt heq => by simp [heq] at hlt
  · rw [h.lines_eq]
    exact horder

/-- A type has a group with a line that the text lacks iff such a line was added for it. -/
lemma Collects.mem_types_filter_iff (h : Collects pushes groups) :
    name ∈ (groups.filter fun g => !(missingLines t g.lines).isEmpty).map InlineGroup.typeName ↔
      ∃ q ∈ pushes, q.typeName = name ∧ ∃ line ∈ q.lines, t.hasLine line = false := by
  have hgroup : ∀ g ∈ groups, (!(missingLines t g.lines).isEmpty) = true ↔
      ∃ line ∈ linesFor pushes g.typeName, t.hasLine line = false := by
    intro g hg
    rw [Bool.not_eq_true', List.isEmpty_eq_false_iff_exists_mem, (h.holds g hg).lines_eq]
    simp only [mem_missingLines_iff, hasLine_eq_false_iff]
  constructor
  · intro hname
    obtain ⟨g, hg, rfl⟩ := List.mem_map.mp hname
    obtain ⟨hg, hlacks⟩ := List.mem_filter.mp hg
    obtain ⟨line, hline, hmissing⟩ := (hgroup g hg).mp hlacks
    obtain ⟨q, hq, htype, hline⟩ := mem_linesFor_iff.mp hline
    exact ⟨q, hq, htype, line, hline, hmissing⟩
  · rintro ⟨q, hq, rfl, line, hline, hmissing⟩
    obtain ⟨g, hg, htype⟩ := List.mem_map.mp ((h.mem_types_iff _).mpr (List.mem_map_of_mem hq))
    refine List.mem_map.mpr ⟨g, List.mem_filter.mpr ⟨hg, (hgroup g hg).mpr ?_⟩, htype⟩
    exact ⟨line, mem_linesFor_iff.mpr ⟨q, hq, htype.symm, hline⟩, hmissing⟩

/-- **The blocks that are made of what was added.** There is one block for each type for which a
line was added that the text does not have, and no other, in the order in which the types came
first. It has the line of the class and, once each and in the order in which they were first added,
those lines for the type that the text does not have. It goes below the greatest offset that was
given for the type.

**Proof sketch.** By induction on what was added the groups hold, type by type in the order of their
first additions, all lines for the type and the greatest offset. The blocks are made of the groups
that have a missing line, so they keep this order; types differ, and so do the lines of their
classes. -/
theorem fragments_ofPushes (pushes : List InlineGroup) (t : Text) :
    ∃ names : List Text,
      (∀ name, name ∈ names ↔
        ∃ q ∈ pushes, q.typeName = name ∧ ∃ line ∈ q.lines, t.hasLine line = false) ∧
      names.Nodup ∧
      (names.Pairwise fun m n => (typesOf pushes).idxOf m < (typesOf pushes).idxOf n) ∧
      List.Forall₂ (IsBlockFor pushes t) names ((ofPushes pushes).fragments t) ∧
      ((ofPushes pushes).fragments t).Pairwise fun f g => f.lines.head? ≠ g.lines.head? := by
  have hcollects := collects_ofPushes pushes
  have hsub := (List.filter_sublist (p := fun g => !(missingLines t g.lines).isEmpty)
    (l := ofPushes pushes)).map InlineGroup.typeName
  have hnodup := hcollects.nodup.sublist hsub
  refine ⟨_, fun name => hcollects.mem_types_filter_iff, hnodup,
    hcollects.ordered.sublist hsub, ?_, ?_⟩
  · rw [fragments_eq, List.forall₂_map_left_iff, List.forall₂_map_right_iff, List.forall₂_same]
    exact fun g hg => (hcollects.holds g (List.mem_of_mem_filter hg)).isBlockFor t
  · rw [fragments_eq, List.pairwise_map]
    refine (List.pairwise_map.mp hnodup).imp fun hne heq => hne ?_
    simpa [Fragment.lines, classLine] using heq

/-- Two types in turn, with a line that comes again, one that the text has and an offset that is not
the last one. -/
example :
    (ofPushes [⟨"Player".toList, 30, ["a".toList, "b".toList]⟩, ⟨"Entity".toList, 20, ["b".toList]⟩,
      ⟨"Weapon".toList, 25, ["b".toList]⟩, ⟨"Player".toList, 10, ["c".toList, "a".toList]⟩,
      ⟨"Entity".toList, 40, ["d".toList]⟩]).fragments " b\n".toList =
    [.note ["---@class Player".toList, "a".toList, "c".toList] (.below 30),
      .note ["---@class Entity".toList, "d".toList] (.below 40)] := by
  decide

end InlineGroups

end Gloss
