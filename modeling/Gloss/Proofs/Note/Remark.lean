import Mathlib.Tactic.MkIffOfInductiveProp
import Gloss.Note.Field
import Gloss.Proofs.Edit.Assemble
import Gloss.Proofs.Lines
import Gloss.Proofs.Note.Blocks
import Gloss.Proofs.Pattern.Group

/-!
# Remarks

What annotation puts into a script is meant to be a remark: lines that are blank or start with the
mark of an annotation. The annotation lines copy texts of the script, and such a text may hold line
feeds. This module says exactly which texts may be copied into the annotation lines.

## Main definitions

* `IsRemark`, `Remarks`: a line that adds nothing to a script, and a text of such lines.
* `Harmless`, `HarmlessAtEnd`: a text that can be copied into an annotation line, with more to
  follow or at its end.

## Main results

* `remarks_append_iff`: a line is a remark iff what is copied into it is harmless.
* `AccessorCall.remarks_lines_iff`, `NetworkField.remarks_lines_iff`, `remarks_classLine_iff`: this
  for the lines of a call and of a class.
* `forall_missingLines_iff`: lines that the text has already need no look.
* `remarks_block?_iff`: a block is a remark iff its lines are.
-/

set_option relaxedAutoImplicit false
set_option autoImplicit false

namespace Gloss

open Text

/-! ## Remarks -/

/-- The beginning of every annotation line. -/
def remarkMark : Text :=
  "---@".toList

/-- The line is blank or an annotation. -/
def IsRemark (line : Text) : Prop :=
  line.all isBlank = true ∨ remarkMark <+: line

/-- Whether a line is blank or an annotation can be decided. -/
instance : DecidablePred IsRemark :=
  fun line => inferInstanceAs (Decidable (line.all isBlank = true ∨ remarkMark <+: line))

/-- All lines of the text are blank or annotations. -/
def Remarks (t : Text) : Prop :=
  ∀ line ∈ split '\n' t, IsRemark line

/-- Whether all lines are blank or annotations can be decided. -/
instance : DecidablePred Remarks :=
  fun t => inferInstanceAs (Decidable (∀ line ∈ split '\n' t, IsRemark line))

/-- A text that can be copied into an annotation line with more to follow: its lines after the first
are blank or annotations, and the last of them is an annotation. -/
def Harmless (x : Text) : Prop :=
  (∀ line ∈ (split '\n' x).tail.dropLast, IsRemark line) ∧
    ∀ line ∈ (split '\n' x).tail.getLast?, remarkMark <+: line

/-- A text that can be copied to the end of an annotation line: its lines after the first are blank
or annotations. -/
def HarmlessAtEnd (x : Text) : Prop :=
  ∀ line ∈ (split '\n' x).tail, IsRemark line

variable {a x z e t : Text}

/-- A single line can be copied into an annotation line. -/
lemma harmless_of_not_mem (h : '\n' ∉ x) : Harmless x := by
  simp [Harmless, split_of_not_mem h]

/-- A single line can be copied to the end of an annotation line. -/
lemma harmlessAtEnd_of_not_mem (h : '\n' ∉ x) : HarmlessAtEnd x := by
  simp [HarmlessAtEnd, split_of_not_mem h]

/-- One line that starts with the mark. -/
lemma remarks_of_not_mem (h : '\n' ∉ x) (hmark : remarkMark <+: x) : Remarks x := by
  intro line hline
  rw [split_of_not_mem h] at hline
  obtain rfl := List.mem_singleton.mp hline
  exact .inr hmark

/-- A line feed between two texts divides them. -/
lemma remarks_append_lineFeed_iff (x y : Text) :
    Remarks (x ++ '\n' :: y) ↔ Remarks x ∧ Remarks y := by
  simp only [Remarks, split_append_mark, List.forall_mem_append]

/-- The empty text is one blank line. -/
lemma remarks_nil : Remarks [] := by decide

/-- A beginning of an annotation line. -/
structure Leads (a : Text) : Prop where
  /-- It is one line. -/
  oneLine : '\n' ∉ a
  /-- It has the mark. -/
  mark : remarkMark <+: a

/-- A text of an annotation line that decides what the line is: whatever stands before it is neither
blank with it, nor does it become an annotation by it. -/
structure Follows (z : Text) : Prop where
  /-- It is one line. -/
  oneLine : '\n' ∉ z
  /-- It is not blank. -/
  notBlank : ∃ c ∈ z, isBlank c = false
  /-- It does not go on with the mark. -/
  head : ∃ c, z.head? = some c ∧ c ∉ remarkMark

/-- Before such a text, a line is a remark iff it starts with the mark. -/
lemma Follows.isRemark_append_iff (hz : Follows z) (x y : Text) :
    IsRemark (x ++ (z ++ y)) ↔ remarkMark <+: x := by
  obtain ⟨d, hd, hblank⟩ := hz.notBlank
  obtain ⟨c, hhead, hc⟩ := hz.head
  constructor
  · rintro (hall | hmark)
    · have := List.all_eq_true.mp hall d (by simp [hd])
      simp [hblank] at this
    · rcases List.prefix_or_prefix_of_prefix hmark (List.prefix_append x (z ++ y)) with h | h
      · exact h
      · obtain ⟨rest, hrest⟩ := h
        rw [← hrest, List.prefix_append_right_inj] at hmark
        cases rest with
        | nil => exact ⟨[], by rw [← hrest, List.append_nil, List.append_nil]⟩
        | cons c' rest =>
          obtain ⟨z', rfl⟩ := List.head?_eq_some_iff.mp hhead
          obtain rfl : c' = c := by
            obtain ⟨more, hmore⟩ := hmark
            simpa using (List.cons.inj hmore).1
          exact absurd (hrest ▸ List.mem_append_right x List.mem_cons_self) hc
  · intro h
    exact .inr (h.trans (List.prefix_append _ _))

/-- **What may be copied into a line.** The line starts with the text `a`, which has the mark; then
comes a copied text, then a text `z` of the line itself, then another copied text.

**Proof sketch.** The first line of the whole starts with the mark, wherever it ends. If the copied
text ends it, the lines inside that text stand for themselves, and its last line is followed by `z`.
What follows in the second copied text stands for itself. -/
lemma remarks_append_iff (ha : Leads a) (hz : Follows z) (x e : Text) :
    Remarks (a ++ x ++ z ++ e) ↔ Harmless x ∧ HarmlessAtEnd e := by
  obtain ⟨last, rest, he⟩ := List.exists_cons_of_ne_nil (split_ne_nil '\n' e)
  obtain ⟨first, later, hx⟩ := List.exists_cons_of_ne_nil (split_ne_nil '\n' x)
  have hza : split '\n' z = [] ++ [z] := split_of_not_mem hz.oneLine
  have haa : split '\n' a = [] ++ [a] := split_of_not_mem ha.oneLine
  have hze : split '\n' (z ++ e) = (z ++ last) :: rest := split_append hza he
  have hax : split '\n' (a ++ x) = (a ++ first) :: later := split_append haa hx
  have hfirst : ∀ y, IsRemark (a ++ y) := fun y => .inr (ha.mark.trans (List.prefix_append a y))
  rw [List.append_assoc (a ++ x), Remarks, Harmless, HarmlessAtEnd, hx, he]
  rcases List.eq_nil_or_concat later with rfl | ⟨middle, final, rfl⟩
  · have hall : split '\n' (a ++ x ++ (z ++ e)) = [] ++ ((a ++ first) ++ (z ++ last)) :: rest :=
      split_append hax hze
    rw [hall, List.append_assoc a]
    simp [hfirst]
  · rw [List.concat_eq_append] at hax ⊢
    have hall : split '\n' (a ++ x ++ (z ++ e)) =
        ((a ++ first) :: middle) ++ (final ++ (z ++ last)) :: rest := split_append hax hze
    rw [hall]
    simp only [List.cons_append, List.forall_mem_cons, List.forall_mem_append,
      hz.isRemark_append_iff, hfirst, List.tail_cons, List.dropLast_concat, List.getLast?_concat,
      Option.mem_some_iff, forall_eq', and_assoc, true_and]

/-! ## Annotation lines -/

/-- A name that may stand for the type of a value: one line that is not blank. -/
def IsTypeName (value : Text) : Prop :=
  '\n' ∉ value ∧ ∃ c ∈ value, isBlank c = false

/-- Whether a text is such a name can be decided: its characters are gone through, not all
characters that there are. -/
instance : DecidablePred IsTypeName := fun value =>
  decidable_of_iff ('\n' ∉ value ∧ (value.any fun c => !isBlank c) = true) (by simp [IsTypeName])

/-- A text that starts with a beginning of an annotation line is one. -/
lemma Leads.append (ha : Leads a) (hx : '\n' ∉ x) : Leads (a ++ x) where
  oneLine := by simp [ha.oneLine, hx]
  mark := ha.mark.trans (List.prefix_append a x)

/-- More of the same line may come behind a text that decides. -/
lemma Follows.append (hz : Follows z) (hx : '\n' ∉ x) : Follows (z ++ x) where
  oneLine := by simp [hz.oneLine, hx]
  notBlank := by
    obtain ⟨c, hc, hblank⟩ := hz.notBlank
    exact ⟨c, List.mem_append_left x hc, hblank⟩
  head := by
    obtain ⟨c, hhead, hc⟩ := hz.head
    exact ⟨c, by simp [hhead], hc⟩

/-- One line that starts with the mark is a beginning of an annotation line. -/
lemma leads_of_mark {a : Text} (h : a = remarkMark ++ a.drop 4) (ha : '\n' ∉ a) : Leads a :=
  ⟨ha, a.drop 4, h.symm⟩

/-- The line of a class is an annotation iff its name and its base do no harm. -/
lemma remarks_classLine_iff (name base : Text) :
    Remarks (classLine name (some base)) ↔ Harmless name ∧ HarmlessAtEnd base := by
  have ha : Leads (classMark ++ [' ']) := leads_of_mark (by decide) (by decide)
  have hz : Follows " : ".toList := ⟨by decide, ⟨':', by decide, by decide⟩, ' ', rfl, by decide⟩
  have h := remarks_append_iff ha hz name base
  rwa [List.append_assoc classMark, List.singleton_append] at h

variable {name value : Text}

/-- The line of a setter is an annotation iff its owner does no harm. -/
lemma remarks_setterLine_iff (hname : '\n' ∉ name) (hvalue : '\n' ∉ value) (owner : Text) :
    Remarks (setterLine name owner value) ↔ Harmless owner := by
  have ha : Leads ("---@field Set".toList ++ name ++ " fun(self: ".toList) :=
    ((leads_of_mark (by decide) (by decide)).append hname).append (by decide)
  have hz : Follows (", value: ".toList ++ value ++ [')']) :=
    (Follows.append ⟨by decide, ⟨',', by decide, by decide⟩, ',', rfl, by decide⟩ hvalue).append
      (by decide)
  have h := remarks_append_iff ha hz owner []
  rw [List.append_nil, ← List.append_assoc, ← List.append_assoc] at h
  unfold setterLine
  exact h.trans (and_iff_left (harmlessAtEnd_of_not_mem (by simp)))

/-- The line of a getter is an annotation iff its owner does no harm. -/
lemma remarks_getterLine_iff (hname : '\n' ∉ name) (hvalue : '\n' ∉ value) (owner : Text) :
    Remarks (getterLine name owner value) ↔ Harmless owner := by
  have ha : Leads ("---@field Get".toList ++ name ++ " fun(self: ".toList) :=
    ((leads_of_mark (by decide) (by decide)).append hname).append (by decide)
  have hz : Follows ("): ".toList ++ value) :=
    Follows.append ⟨by decide, ⟨')', by decide, by decide⟩, ')', rfl, by decide⟩ hvalue
  have h := remarks_append_iff ha hz owner []
  rw [List.append_nil, ← List.append_assoc] at h
  unfold getterLine
  exact h.trans (and_iff_left (harmlessAtEnd_of_not_mem (by simp)))

/-- The line of the field behind an accessor is an annotation iff its key does no harm. -/
lemma remarks_backingLine_iff {visibility : Option Text} (hvalue : IsTypeName value)
    (hvisibility : ∀ v ∈ visibility, '\n' ∉ v) (key : Text) :
    Remarks (backingLine key value visibility) ↔ Harmless key := by
  have hstart : Leads "---@field ".toList := leads_of_mark (by decide) (by decide)
  have hz : Follows (' ' :: value) := by
    obtain ⟨c, hc, hblank⟩ := hvalue.2
    refine ⟨?_, ⟨c, List.mem_cons_of_mem _ hc, hblank⟩, ' ', rfl, by decide⟩
    rw [List.mem_cons, not_or]
    exact ⟨by decide, hvalue.1⟩
  have hnil : HarmlessAtEnd [] := harmlessAtEnd_of_not_mem (by simp)
  cases visibility with
  | none =>
    have h := remarks_append_iff hstart hz key []
    rw [List.append_nil] at h
    exact h.trans (and_iff_left hnil)
  | some v =>
    have ha : Leads ("---@field ".toList ++ v ++ [' ']) :=
      (hstart.append (hvisibility v rfl)).append (by decide)
    have h := remarks_append_iff ha hz key []
    rw [List.append_nil, List.append_assoc _ [' '], List.singleton_append] at h
    exact h.trans (and_iff_left hnil)

/-! ## The lines of calls -/

/-- A name of the script language is one line. -/
lemma not_mem_of_isIdentifier (h : isIdentifier name = true) : '\n' ∉ name := by
  have hstart : startsIdentifier '\n' = false := by decide
  have hgoes : continuesIdentifier '\n' = false := by decide
  cases name with
  | nil => simp
  | cons c rest =>
    simp only [isIdentifier, Bool.and_eq_true, List.all_eq_true] at h
    rw [List.mem_cons, not_or]
    refine ⟨?_, fun hmem => ?_⟩
    · rintro rfl
      simp [hstart] at h
    · have := h.2 '\n' hmem
      simp [hgoes] at this

/-- All types of values that a context knows. -/
def Context.valueTypes (ctx : Context) : List Text :=
  ctx.untyped ::
    (ctx.types.network ++ ctx.types.force ++ ctx.types.forceIndex).map Prod.snd

/-- The texts that a context itself puts into annotation lines are single lines, and so are those
that its patterns read from a script. -/
@[mk_iff]
structure Context.OneLine (ctx : Context) : Prop where
  /-- The types of values. -/
  values : ∀ value ∈ ctx.valueTypes, IsTypeName value
  /-- The visibility of a field. -/
  visibility : ∀ v ∈ ctx.backingVisibility, '\n' ∉ v
  /-- The type of a meta table. -/
  metaTable : ctx.metaTable.expr.groupAvoids '\n' 2 = true
  /-- The base of a scope type. -/
  bases : ∀ rule ∈ ctx.rules, '\n' ∉ rule.scope ∧
    ∀ index ∈ [1, 2, 3], rule.baseAssignment.expr.groupAvoids '\n' index = true
  /-- The base of a control. -/
  defaultBases : ∀ rule ∈ ctx.registrations, '\n' ∉ rule.defaultBase

/-- Whether a context only has single lines can be decided. -/
instance : DecidablePred Context.OneLine :=
  fun ctx => decidable_of_iff _ ctx.oneLine_iff.symm

/-- What a key leads to is one of the types of the table. -/
lemma mem_map_snd_of_lookup {table : TypeTable} {tag : Text} (h : table.lookup tag = some value) :
    value ∈ table.map Prod.snd := by
  obtain ⟨before, after, rfl, -⟩ := List.lookup_eq_some_iff.mp h
  simp

/-- The type of a networked field is one of the types of values. -/
lemma Context.networkType_mem_valueTypes (ctx : Context) (tag : Text) :
    ctx.networkType tag ∈ ctx.valueTypes := by
  rw [networkType, valueTypes]
  cases h : ctx.types.network.lookup tag with
  | none => exact List.mem_cons_self
  | some value =>
    have := mem_map_snd_of_lookup h
    simp only [Option.getD_some, List.map_append, List.mem_cons, List.mem_append]
    exact .inr (.inl (.inl this))

/-- The type that an accessor forces is one of the types of values. -/
lemma Context.forceType_mem_valueTypes (ctx : Context) (argument : Text) :
    ctx.forceType argument ∈ ctx.valueTypes := by
  simp only [forceType, valueTypes, List.map_append, List.mem_cons, List.mem_append]
  split
  · next value h => exact .inr (.inl (.inr (mem_map_snd_of_lookup h)))
  · cases h : ((numeral? argument).bind Binary64.toInt?).bind fun n =>
        ctx.types.forceIndex.lookup (Text.ofInt (clampInt64 n)) with
    | none => exact .inl rfl
    | some value =>
      obtain ⟨n, -, hn⟩ := Option.bind_eq_some_iff.mp h
      exact .inr (.inr (mem_map_snd_of_lookup hn))

/-- The type of an accessor is one of the types of values. -/
lemma AccessorCall.valueType_mem_valueTypes (ctx : Context) (call : AccessorCall) :
    call.valueType ctx ∈ ctx.valueTypes := by
  simp only [valueType]
  split
  · exact List.mem_cons_self
  · exact ctx.forceType_mem_valueTypes _

variable {ctx : Context}

/-- The lines of a call that makes accessors are remarks iff the name of the type and the key are
harmless. -/
lemma AccessorCall.remarks_lines_iff (hctx : ctx.OneLine) {call : AccessorCall}
    (hname : '\n' ∉ call.name) (owner : Text) :
    (∀ line ∈ call.lines ctx owner, Remarks line) ↔
      Harmless owner ∧ ∀ key ∈ call.key, Harmless key := by
  have hvalue := hctx.values _ (call.valueType_mem_valueTypes ctx)
  have hset := remarks_setterLine_iff hname hvalue.1 owner
  have hget := remarks_getterLine_iff hname hvalue.1 owner
  have hback := remarks_backingLine_iff hvalue hctx.visibility
  cases hkey : call.key with
  | none => simp [lines, hkey, hset, hget]
  | some key => simp [lines, hkey, hset, hget, hback, and_comm]

/-- The lines of a networked field are annotations iff its owner does no harm. -/
lemma NetworkField.remarks_lines_iff (hctx : ctx.OneLine) {field : NetworkField}
    (hname : '\n' ∉ field.name) (owner : Text) :
    (∀ line ∈ field.lines ctx owner, Remarks line) ↔ Harmless owner := by
  have hvalue := hctx.values _ (ctx.networkType_mem_valueTypes field.declared)
  have hset := remarks_setterLine_iff hname hvalue.1 owner
  have hget := remarks_getterLine_iff hname hvalue.1 owner
  simp [lines, hset, hget]

/-! ## All lines have the mark -/

/-- What is added at the end leaves the mark in front. -/
lemma mark_prefix_append {a : Text} (h : remarkMark <+: a) (x : Text) : remarkMark <+: a ++ x :=
  h.trans (List.prefix_append a x)

/-- Every line that declares a class has the mark. -/
lemma mark_prefix_classLine (name : Text) (base : Option Text) :
    remarkMark <+: classLine name base := by
  have hmark : remarkMark <+: classMark := by decide
  cases base with
  | none => exact mark_prefix_append hmark _
  | some base => exact mark_prefix_append (mark_prefix_append (mark_prefix_append hmark _) _) _

/-- The line of a setter starts with the mark. -/
lemma mark_prefix_setterLine (name owner value : Text) :
    remarkMark <+: setterLine name owner value := by
  have hmark : remarkMark <+: "---@field Set".toList := by decide
  unfold setterLine
  repeat apply mark_prefix_append
  exact hmark

/-- The line of a getter starts with the mark. -/
lemma mark_prefix_getterLine (name owner value : Text) :
    remarkMark <+: getterLine name owner value := by
  have hmark : remarkMark <+: "---@field Get".toList := by decide
  unfold getterLine
  repeat apply mark_prefix_append
  exact hmark

/-- The line of the field behind an accessor starts with the mark. -/
lemma mark_prefix_backingLine (key value : Text) (visibility : Option Text) :
    remarkMark <+: backingLine key value visibility := by
  have hmark : remarkMark <+: "---@field ".toList := by decide
  cases visibility with
  | none => exact mark_prefix_append (mark_prefix_append hmark _) _
  | some v => exact mark_prefix_append (mark_prefix_append (mark_prefix_append hmark _) _) _

/-- Every line of a call that makes accessors has the mark. -/
lemma AccessorCall.mark_prefix_lines (ctx : Context) (owner : Text) (call : AccessorCall) :
    ∀ line ∈ call.lines ctx owner, remarkMark <+: line := by
  intro line hline
  simp only [lines, List.mem_append, Option.mem_toList, List.mem_cons, List.not_mem_nil,
    or_false] at hline
  rcases hline with hline | rfl | rfl
  · obtain ⟨key, -, rfl⟩ := Option.map_eq_some_iff.mp hline
    exact mark_prefix_backingLine _ _ _
  · exact mark_prefix_setterLine _ _ _
  · exact mark_prefix_getterLine _ _ _

/-- Every line of a networked field has the mark. -/
lemma NetworkField.mark_prefix_lines (ctx : Context) (owner : Text) (field : NetworkField) :
    ∀ line ∈ field.lines ctx owner, remarkMark <+: line := by
  intro line hline
  simp only [lines, List.mem_cons, List.not_mem_nil, or_false] at hline
  rcases hline with rfl | rfl
  · exact mark_prefix_setterLine _ _ _
  · exact mark_prefix_getterLine _ _ _

/-! ## Blocks of lines -/

/-- Lines that the text has already need no look, since they hold no line feed. -/
lemma forall_missingLines_iff {lines : List Text} (hmark : ∀ line ∈ lines, remarkMark <+: line)
    (t : Text) :
    (∀ line ∈ missingLines t lines, Remarks line) ↔ ∀ line ∈ lines, Remarks line := by
  constructor
  · intro h line hline
    by_cases hpresent : line ∈ t.trimmedLines
    · exact remarks_of_not_mem (not_mem_of_mem_trimmedLines hpresent) (hmark line hline)
    · exact h line (mem_missingLines_iff.mpr ⟨hline, hpresent⟩)
  · intro h line hline
    exact h line (mem_missingLines_iff.mp hline).1

/-- Lines with line feeds between them are remarks iff each of them is. -/
lemma remarks_intercalate_iff {lines : List Text} :
    Remarks (['\n'].intercalate lines) ↔ ∀ line ∈ lines, Remarks line := by
  induction lines with
  | nil => simp [remarks_nil]
  | cons line lines ih =>
    cases lines with
    | nil => simp
    | cons next lines =>
      rw [List.intercalate_cons_cons, List.append_assoc, List.singleton_append,
        remarks_append_lineFeed_iff, ih, ← List.forall_mem_cons]

/-- **A block is a remark iff its lines are.** -/
lemma remarks_block?_iff {f : Fragment} {b : Block} (h : f.block? t = some b) :
    Remarks b.text ↔ ∀ line ∈ f.lines, Remarks line := by
  obtain ⟨-, placement, offset, needsLineFeed, hf, -, rfl⟩ := Fragment.block?_eq_some_iff.mp h
  have hrender : Remarks f.render ↔ ∀ line ∈ f.lines, Remarks line := by
    rw [hf, Fragment.render, remarks_append_lineFeed_iff, remarks_intercalate_iff]
    exact and_iff_left remarks_nil
  cases needsLineFeed with
  | false => exact hrender
  | true =>
    have hfeed := remarks_append_lineFeed_iff [] f.render
    exact hfeed.trans ((and_iff_right remarks_nil).trans hrender)

end Gloss
