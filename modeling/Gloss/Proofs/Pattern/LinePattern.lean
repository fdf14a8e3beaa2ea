import Gloss.Proofs.Pattern.Escape

/-!
# Patterns that are written for lines

Many patterns start with `(?m)^`, so that they match at starts of lines, and go on with given texts,
names that are put into a template and runs of spaces and tabs. This module says what reading makes
of them: the parts one after the other, unless they need too much memory.

## Main definitions

* `Pattern.atLineStart`: the state after `(?m)^`.
* `writtenBlank`: spaces and tabs, as they are written.

## Main results

* `Pattern.readsTo_blanks`: reading a run of spaces and tabs.
* `Pattern.readsTo_classOrEnd`: reading a class or the end of the line.
* `Expr.exists_reaches_classOrEnd_iff`: where such a part leads on.
* `Pattern.read_of_readsTo`: reading a pattern that starts with `(?m)^`.
-/

set_option relaxedAutoImplicit false
set_option autoImplicit false

namespace Gloss

/-- Spaces and tabs, as they are written. -/
def writtenBlank : CharClass :=
  .unions [.single ' ', .single '\t']

/-- **A class or the end of the line leads on** where a character of the class or a line feed comes
next, or nothing.

**Proof sketch.** A character of the class is gone over, and the anchor holds before a line feed and
at the end of the text. -/
lemma Expr.exists_reaches_classOrEnd_iff {set : CharClass} {p : Cursor} :
    (∃ q, (Expr.alt (.char set) (.anchor .lineEnd)).Reaches p q) ↔
      ∀ c ∈ p.rest.head?, set.mem c = true ∨ c = '\n' := by
  constructor
  · rintro ⟨q, ⟨c, hc, hreads⟩ | ⟨hend, -⟩⟩ d hd
    · rw [hreads.rest] at hd
      obtain rfl : c = d := by simpa using hd
      exact .inl hc
    · simp only [Anchor.holds, Bool.or_eq_true, List.isEmpty_iff, beq_iff_eq] at hend
      rcases hend with hend | hend
      · simp [hend] at hd
      · exact .inr (Option.some.inj (hd.symm.trans hend))
  · intro h
    cases hrest : p.rest with
    | nil => exact ⟨p, .inr ⟨by simp [Anchor.holds, hrest], rfl⟩⟩
    | cons c rest =>
      rcases h c (by rw [hrest]; rfl) with hc | rfl
      · exact ⟨p.step c rest, .inl ⟨c, hc, Cursor.Reads.step hrest⟩⟩
      · exact ⟨p, .inr ⟨by simp [Anchor.holds, hrest], rfl⟩⟩

namespace Pattern

variable {s : State} {parts : List Part}

/-! ## Spaces and tabs -/

/-- A run of blanks is read as one part, with the least number of them that its mark asks for. -/
lemma readsTo_blanks (hflags : s.flags = { multiLine := true }) {mark : Char} {least : Nat}
    (hmark : (mark, least) ∈ [('*', 0), ('+', 1)]) {rest : Text}
    (hgreed : readGreed rest = (true, rest)) :
    ReadsTo s ("[ \\t]".toList ++ mark :: rest)
      (s.pushParts [⟨.chars writtenBlank least none true, 3⟩]) rest := by
  obtain ⟨flags, nextGroup, names, level, outer⟩ := s
  subst hflags
  have hclass : ReadsTo ⟨{ multiLine := true }, nextGroup, names, level, outer⟩
      ("[ \\t]".toList ++ mark :: rest)
      ⟨{ multiLine := true }, nextGroup, names, level.push ⟨.char writtenBlank, 2⟩,
        outer⟩ (mark :: rest) :=
    ReadsTo.step rfl (by simp)
  refine hclass.trans (ReadsTo.step ?_ (Nat.le_refl _))
  simp only [List.mem_cons, Prod.mk.injEq, List.not_mem_nil, or_false] at hmark
  rcases hmark with ⟨rfl, rfl⟩ | ⟨rfl, rfl⟩
  · simp only [State.next, hgreed]
    rfl
  · simp only [State.next, hgreed]
    rfl

/-! ## A class or the end of the line -/

/-- A class and an anchor have nothing to start with in common. -/
lemma choice_char_anchor (set : CharClass) (a : Anchor) :
    Expr.choice [.char set, .anchor a] = .alt (.char set) (.anchor a) := by
  have hchar : (Expr.char set).pieces = [[.char set]] := rfl
  simp [Expr.choice, Expr.branches, Expr.alts, hchar]

/-- A class or the end of the line, as a group of its own. -/
lemma group_classOrEnd (part : ClassPart) (flags : Flags) :
    Level.group { index := none, outerFlags := flags, branches := [⟨.char part.set, part.depth⟩],
                  items := [.part ⟨.anchor .lineEnd, 0⟩] } =
      ⟨.alt (.char part.set) (.anchor .lineEnd), part.depth + 2⟩ := by
  have hchoice := choice_char_anchor part.set .lineEnd
  simp only [Level.group, Level.choice, Level.branch, List.reverse_cons, List.reverse_nil,
    List.nil_append, List.filterMap_cons, List.filterMap_nil, Item.expr?, Expr.seqs, List.foldl_nil,
    List.cons_append, List.map_cons, List.map_nil, hchoice]
  simp [listDepth, Item.depth]

/-- **A class or the end of the line** is read as a choice.

**Proof sketch.** Five steps of the reader: the group is opened, the class is read, the bar and the
anchor follow, and the group is closed. -/
lemma readsTo_classOrEnd (hflags : s.flags = { multiLine := true }) {body : Text} {part : ClassPart}
    (hclass : readBracketed false (body ++ "|$)".toList) = .ok (part, "|$)".toList)) :
    ReadsTo s ("(?:[".toList ++ (body ++ "|$)".toList))
      (s.pushParts [⟨.alt (.char part.set) (.anchor .lineEnd), part.depth + 2⟩]) [] := by
  obtain ⟨flags, nextGroup, names, level, outer⟩ := s
  subst hflags
  have hopen : ReadsTo ⟨{ multiLine := true }, nextGroup, names, level, outer⟩
      ("(?:[".toList ++ (body ++ "|$)".toList))
      (State.openGroup ⟨{ multiLine := true }, nextGroup, names, level, outer⟩ none
        { multiLine := true }) ('[' :: (body ++ "|$)".toList)) :=
    ReadsTo.step rfl (by simp)
  refine hopen.trans ?_
  refine (ReadsTo.step (by simp only [State.next, State.openGroup, hclass]; rfl) (by simp)).trans ?_
  refine (ReadsTo.step rfl (by decide)).trans ?_
  refine (ReadsTo.step rfl (by decide)).trans ?_
  refine ReadsTo.step ?_ (Nat.le_refl _)
  rw [← group_classOrEnd part { multiLine := true }]
  rfl

/-! ## The whole pattern -/

/-- The state after the flags and the anchor at the start of the pattern. -/
def atLineStart : State :=
  { State.start with
    flags := { multiLine := true }
    level := { State.start.level with items := [.part ⟨.anchor .lineStart, 0⟩, .flags] } }

/-- The flag for lines and the anchor are read first. -/
lemma readsTo_atLineStart (rest : Text) :
    ReadsTo State.start ("(?m)^".toList ++ rest) atLineStart rest :=
  (ReadsTo.step rfl (by simp)).trans (ReadsTo.step rfl (Nat.le_refl _))

/-- The branch that has been read is the anchor and the parts. -/
lemma expr_branch_pushParts (parts : List Part) :
    (atLineStart.pushParts parts).level.branch.expr =
      .seqs (.anchor .lineStart :: parts.map Part.expr) := by
  have hparts : (parts.map Item.part).filterMap Item.expr? = parts.map Part.expr := by
    rw [List.filterMap_map]
    exact congrFun (List.filterMap_eq_map (f := Part.expr)) parts
  have hitems : (atLineStart.pushParts parts).level.items.reverse.filterMap Item.expr? =
      .anchor .lineStart :: parts.map Part.expr := by
    rw [State.pushParts_eq]
    simp only [List.reverse_append, List.reverse_reverse, List.filterMap_append, hparts]
    rfl
  exact congrArg Expr.seqs hitems

/-- Parts that are not nested deeply make a branch that is not. -/
lemma depth_branch_pushParts_le {n : Nat} (hdepth : ∀ part ∈ parts, part.depth ≤ n) :
    (atLineStart.pushParts parts).level.branch.depth ≤ n + 1 := by
  refine listDepth_le ?_
  intro d hd
  rw [State.pushParts_eq] at hd
  simp only [atLineStart, List.map_append, List.map_reverse, List.map_map, List.map_cons,
    List.map_nil, List.mem_append, List.mem_reverse, List.mem_map, List.mem_cons, List.not_mem_nil,
    or_false] at hd
  rcases hd with ⟨part, hpart, rfl⟩ | rfl | rfl
  · exact hdepth part hpart
  · exact Nat.zero_le n
  · exact Nat.zero_le n

/-- **Reading a pattern that starts with `(?m)^`** gives its parts, unless they need too much
memory.

**Proof sketch.** The parts are one branch, with no group open, so the reader can finish. Their
depths are within the limit, and only the weight decides. -/
lemma read_of_readsTo {source : Text}
    (h : ReadsTo State.start source (atLineStart.pushParts parts) []) (hne : parts ≠ [])
    (hdepth : ∀ part ∈ parts, part.depth < depthLimit) :
    read source =
      if Expr.totalWeight (.anchor .lineStart :: parts.map Part.expr) ≤ Expr.weightLimit then
        .ok { source := source
              expr := .seqs (.anchor .lineStart :: parts.map Part.expr)
              names := [] }
      else .error .tooLarge := by
  have hbranch := expr_branch_pushParts parts
  have hdeep : ¬ depthLimit < (atLineStart.pushParts parts).level.branch.depth := by
    have hle := depth_branch_pushParts_le (n := depthLimit - 1) fun part hpart =>
      Nat.le_sub_one_of_lt (hdepth part hpart)
    rw [depthLimit] at hle ⊢
    omega
  -- A sequence of two parts or more is a branch of its own.
  obtain ⟨front, last, rfl⟩ : ∃ front last, parts = front ++ [last] :=
    ⟨_, _, (List.dropLast_concat_getLast hne).symm⟩
  have hseq : (atLineStart.pushParts (front ++ [last])).level.branch.expr =
      .seq (.seqs (.anchor .lineStart :: front.map Part.expr)) last.expr := by
    rw [hbranch, List.map_append]
    exact Expr.seqs_concat (List.cons_ne_nil _ _)
  have hfinish : (atLineStart.pushParts (front ++ [last])).finish =
      .ok ((atLineStart.pushParts (front ++ [last])).level.branch, []) := by
    have hchoice := Level.choice_eq_branch (by rw [State.pushParts_eq]; rfl) hseq
    rw [State.finish, hchoice, State.pushParts_eq]
    rfl
  simp only [read, h.readFrom_eq (Nat.le_refl _), hfinish, if_neg hdeep, hbranch,
    Expr.weight_seqs (List.cons_ne_nil _ _)]
  by_cases hweight :
      Expr.totalWeight (.anchor .lineStart :: (front ++ [last]).map Part.expr) ≤ Expr.weightLimit
  · rw [if_neg (Nat.not_lt.mpr hweight), if_pos hweight]
  · rw [if_pos (Nat.lt_of_not_le hweight), if_neg hweight]

end Pattern

end Gloss
