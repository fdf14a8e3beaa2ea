import Gloss.Proofs.Annotate.Settled
import Gloss.Proofs.Call.Scan
import Gloss.Proofs.Edit.Insertion
import Gloss.Proofs.Pattern.Escape

/-!
# Scripts without calls

The pattern for the head of a call spells a word, such as the name of the function: wherever it
leads, it leads over that word. So a text that does not hold the word has no such calls. A script
that holds none of these words only gets the line of its class, and if that line does not hold them
either, the new script is as free of calls as the old one.

## Main definitions

* `FreeOf`: a text holds none of some words.
* `Context.SpellsOneOf`: every pattern for the head of a call spells one of some words.
* `NoCalls`: a text has no calls at all.
* `Quiet`: a script that is free of calls and stays so.

## Main results

* `infix_append_lineFeed_iff`: a word on one line does not reach over a line feed.
* `Expr.infix_of_reaches`: a pattern leads over the words that it spells.
* `Context.SpellsOneOf.noCalls`: a text without the words has no calls.
* `Quiet.freeOf_substituted`: the new script of a quiet one does not hold the words.
-/

set_option relaxedAutoImplicit false
set_option autoImplicit false

namespace Gloss

open Text

/-! ## Words in texts -/

/-- The text holds none of the words. -/
def FreeOf (words : List Text) (t : Text) : Prop :=
  ∀ word ∈ words, ¬ word <:+: t

/-- Whether a text holds some words can be decided. -/
instance (words : List Text) (t : Text) : Decidable (FreeOf words t) :=
  inferInstanceAs (Decidable (∀ word ∈ words, ¬ word <:+: t))

/-- **A word on one line does not reach over a line feed.**

**Proof sketch.** A word that lies on both sides of the line feed would hold it. -/
lemma infix_append_lineFeed_iff {word x y : Text} (hword : '\n' ∉ word) :
    word <:+: x ++ '\n' :: y ↔ word <:+: x ∨ word <:+: y := by
  have hback : ∀ {back : Text}, back <+: '\n' :: y → '\n' ∉ back → back = [] := by
    intro back hback hfeed
    rcases List.prefix_cons_iff.mp hback with hnil | ⟨rest, rfl, -⟩
    · exact hnil
    · exact absurd List.mem_cons_self hfeed
  constructor
  · intro h
    rcases List.infix_append_iff.mp h with hx | hy | ⟨front, back, rfl, hfront, hrest⟩
    · exact .inl hx
    · rcases List.infix_cons_iff.mp hy with hstart | hy
      · obtain rfl := hback hstart hword
        exact .inl List.nil_infix
      · exact .inr hy
    · obtain rfl := hback hrest fun hmem => hword (List.mem_append_right _ hmem)
      rw [List.append_nil]
      exact .inl hfront.isInfix
  · rintro (hx | hy)
    · exact hx.trans (List.prefix_append _ _).isInfix
    · exact hy.trans ((List.suffix_cons _ _).trans (List.suffix_append _ _)).isInfix

/-- A word on one line is in a text iff it is in one of the lines. -/
lemma infix_iff_exists_mem_split {word t : Text} (hword : '\n' ∉ word) :
    word <:+: t ↔ ∃ piece ∈ split '\n' t, word <:+: piece := by
  induction hn : t.length using Nat.strongRecOn generalizing t with
  | ind n ih =>
    rcases exists_line_append t with ht | ⟨l, r, rfl, hl⟩
    · rw [split_of_not_mem ht]
      simp
    · have hlt : r.length < n := by
        rw [← hn, List.length_append, List.length_cons]
        omega
      rw [infix_append_lineFeed_iff hword, ih _ hlt rfl, split_append_mark, split_of_not_mem hl]
      simp

/-! ## Words of patterns -/

namespace Expr

variable {e : Expr} {p q : Cursor}

/-- Where a pattern leads to, the text in between is gone over. -/
lemma exists_reads_of_reaches (h : e.Reaches p q) : ∃ w, p.Reads w q := by
  induction e generalizing p q with
  | empty => exact ⟨[], Cursor.reads_nil_iff.mpr h⟩
  | char set =>
    obtain ⟨c, -, hreads⟩ := h
    exact ⟨[c], hreads⟩
  | anchor a => exact ⟨[], Cursor.reads_nil_iff.mpr h.2⟩
  | seq a b iha ihb =>
    obtain ⟨m, ha, hb⟩ := h
    obtain ⟨v, hv⟩ := iha ha
    obtain ⟨w, hw⟩ := ihb hb
    exact ⟨v ++ w, hv.trans hw⟩
  | alt a b iha ihb => exact h.elim iha ihb
  | chars set least most greedy =>
    obtain ⟨w, hreads, -⟩ := h
    exact ⟨w, hreads⟩
  | option body greedy ih => exact h.elim ih fun hsame => ⟨[], Cursor.reads_nil_iff.mpr hsame⟩
  | rep body least most greedy => exact h.elim
  | group index body ih => exact ih h

/-- The parts of a pattern lead where it does. -/
lemma reaches_seqs_parts_iff : (seqs e.parts).Reaches p q ↔ e.Reaches p q := by
  induction e generalizing p q with
  | seq a b iha ihb =>
    rw [parts, reaches_seqs_append]
    simp only [iha, ihb]
    rfl
  | _ => rfl

/-- **A pattern leads over the words that it spells**: if the characters of a word are parts of it
that follow each other, it only leads somewhere in texts that hold the word. -/
lemma infix_of_reaches {word t : Text} (hspells : charParts word <:+: e.parts)
    (hin : Cursor.In t p) (h : e.Reaches p q) : word <:+: t := by
  obtain ⟨front, back, hparts⟩ := hspells
  rw [← reaches_seqs_parts_iff, ← hparts, reaches_seqs_append] at h
  obtain ⟨n, hfront, -⟩ := h
  obtain ⟨m, hm, hword⟩ := reaches_seqs_append.mp hfront
  obtain ⟨w, hw⟩ := exists_reads_of_reaches hm
  obtain ⟨a, ha, -⟩ := (hin.reads hw).exists_eq_append
  have hrest : m.rest = word ++ n.rest := (reaches_seqs_charParts_iff.mp hword).rest
  exact ⟨a, n.rest, by rw [ha, hrest, List.append_assoc]⟩

end Expr

/-- A pattern that spells a word has no calls in a text without the word. -/
lemma Pattern.calls_eq_nil_of_not_infix {head : Pattern} {word t : Text}
    (hplain : head.expr.isPlain = true) (hspells : Expr.charParts word <:+: head.expr.parts)
    (hword : ¬ word <:+: t) : head.calls t = [] := by
  cases hcalls : head.calls t with
  | nil => rfl
  | cons site sites =>
    have hhead : head.isCallHead = true := by
      by_contra hnot
      simp [calls, hnot] at hcalls
    have hsites : head.calls t = [] ++ site :: sites := hcalls
    obtain ⟨m, hm, -⟩ := (calls_scans hhead t).leftmost hsites
    have hsome : (head.expr.matchAt? m.start).isSome = true := by
      rw [hm.matchAt?]
      rfl
    obtain ⟨q, hq⟩ := (Expr.matchAt?_isSome_iff hplain).mp hsome
    exact absurd (Expr.infix_of_reaches hspells hm.start_in hq) hword

/-! ## Texts without calls -/

/-- The patterns for the heads of calls. -/
def Context.heads (ctx : Context) : List Pattern :=
  ctx.baseCall :: ctx.accessor :: ctx.network :: ctx.registrations.map (·.head)

/-- Every pattern for the head of a call spells one of the words. -/
def Context.SpellsOneOf (ctx : Context) (words : List Text) : Prop :=
  ∀ head ∈ ctx.heads, head.expr.isPlain = true ∧
    ∃ word ∈ words, Expr.charParts word <:+: head.expr.parts

/-- Which words the heads of calls spell can be decided. -/
instance (ctx : Context) (words : List Text) : Decidable (ctx.SpellsOneOf words) :=
  inferInstanceAs (Decidable (∀ head ∈ ctx.heads, _ ∧ ∃ word ∈ words, _))

/-- The text has no calls for the base class, no calls that give fields to tables, and no
registrations. -/
structure NoCalls (ctx : Context) (t : Text) : Prop where
  /-- There are no calls for the base class. -/
  bases : ctx.baseCall.calls t = []
  /-- There are no calls for accessors. -/
  accessors : accessorCalls ctx t = []
  /-- There are no calls for networked fields. -/
  networks : networkCalls ctx t = []
  /-- There are no registrations. -/
  registrations : registrations ctx t = []

variable {ctx : Context} {words : List Text} {t : Text} {target : Option ScopeTarget}

/-- **A text without the words has no calls.**

**Proof sketch.** Every head spells a word that the text does not hold, so none of them matches.
Accessors, networked fields and registrations are read off calls. -/
lemma Context.SpellsOneOf.noCalls (hspells : ctx.SpellsOneOf words) (hfree : FreeOf words t) :
    NoCalls ctx t := by
  have hnone : ∀ head ∈ ctx.heads, head.calls t = [] := by
    intro head hhead
    obtain ⟨hplain, word, hword, hparts⟩ := hspells head hhead
    exact Pattern.calls_eq_nil_of_not_infix hplain hparts (hfree word hword)
  simp only [heads, List.forall_mem_cons, List.forall_mem_map] at hnone
  obtain ⟨hbase, haccessor, hnetwork, hregistration⟩ := hnone
  have hrules : ctx.registrations.flatMap (registrationsOf t) = [] := by
    refine List.flatMap_eq_nil_iff.mpr fun rule hrule => ?_
    rw [registrationsOf, hregistration rule hrule]
    rfl
  constructor
  · exact hbase
  · rw [accessorCalls, haccessor]
    rfl
  · rw [networkCalls, hnetwork]
    rfl
  · rw [Gloss.registrations, hrules, List.mergeSort_nil]

/-- A script without calls gets nothing but the line of its class, at the start of the file. -/
lemma NoCalls.eq_note_of_mem_fragmentsFor (h : NoCalls ctx t) {f : Fragment}
    (hf : f ∈ fragmentsFor ctx target t) :
    ∃ owner ∈ target, f = .note [owner.classLine] .fileStart := by
  have hbases : baseCallFragments ctx t = [] := by rw [baseCallFragments, h.bases]; rfl
  have hregistered : registrationFragments ctx (Bindings.ofText ctx t) t = [] := by
    rw [registrationFragments, h.registrations]
    rfl
  have haccessors : accessorFragments ctx (Bindings.ofText ctx t) t = [] := by
    rw [accessorFragments, h.accessors]
    rfl
  have hnetworks : networkFragments ctx (Bindings.ofText ctx t) t = [] := by
    rw [networkFragments, h.networks]
    rfl
  simp only [fragmentsFor, hbases, hregistered, haccessors, hnetworks, List.nil_append,
    List.append_nil, Option.mem_toList, Option.bind_eq_some_iff] at hf
  obtain ⟨owner, howner, hf⟩ := hf
  have hfields : missingLines t (scopedFields ctx (Bindings.ofText ctx t) t owner) = [] := by
    rw [scopedFields, FieldCalls.ofText, h.accessors, h.networks]
    rfl
  simp only [scopedFragment?, hfields] at hf
  refine ⟨owner, howner, ?_⟩
  cases hline : findClassLine? t owner.typeName with
  | some line => simp [hline] at hf
  | none => simpa [hline, eq_comm] using hf

/-! ## Quiet scripts -/

/-- The script is quiet, with the type that it has: it holds none of the words that the heads of
calls spell, and neither does the line of its class. The name of the class is one line and short
enough to be found, and the text does not start with a mark of the byte order. -/
structure Quiet (ctx : Context) (words : List Text) (target : Option ScopeTarget) (t : Text) :
    Prop where
  /-- Every head of a call spells one of the words. -/
  spells : ctx.SpellsOneOf words
  /-- The words are single lines. -/
  oneLine : ∀ word ∈ words, '\n' ∉ word
  /-- The text holds none of the words. -/
  free : FreeOf words t
  /-- The text does not start with a mark of the byte order. -/
  noMark : t.head? ≠ some byteOrderMark
  /-- The class can be found, and its line holds none of the words. -/
  classes : ∀ owner ∈ target, '\n' ∉ owner.typeName ∧ size owner.typeName ≤ classNameLimit ∧
    FreeOf words owner.classLine

/-- **The new script of a quiet one does not hold the words.**

**Proof sketch.** A word on one line is in the new text only if it is in one of its lines. Each of
them is a line of the old text or of an inserted block, and the only block is the line of the
class. -/
lemma Quiet.freeOf_substituted (h : Quiet ctx words target t) :
    FreeOf words (substituted t (fragmentsFor ctx target t)) := by
  intro word hmem hword
  have hfeed := h.oneLine word hmem
  have hcalls := h.spells.noCalls h.free
  have hkept : keptReplacements (fragmentsFor ctx target t) = [] :=
    keptReplacements_fragmentsFor_eq_nil hcalls.bases
  have hblocks := lineBlocks_placedBlocks hkept fun _ _ => h.noMark
  rw [substituted, hkept] at hword
  obtain ⟨piece, hpiece, hin⟩ := (infix_iff_exists_mem_split hfeed).mp hword
  rcases @LineBlocks.mem_split_substituteFrom _ [] t hblocks piece hpiece with
    rfl | hold | ⟨b, hb, hpiece⟩
  · obtain rfl := List.infix_nil.mp hin
    exact h.free [] hmem List.nil_infix
  · exact h.free word hmem ((infix_iff_exists_mem_split hfeed).mpr ⟨piece, hold, hin⟩)
  · have hblock := (infix_iff_exists_mem_split hfeed).mpr ⟨piece, hpiece, hin⟩
    rw [placedBlocks_of_keptReplacements_eq_nil hkept] at hb
    obtain ⟨f, hf, hbf⟩ := List.mem_filterMap.mp hb
    obtain ⟨owner, howner, rfl⟩ := hcalls.eq_note_of_mem_fragmentsFor hf
    obtain ⟨-, placement, offset, needsLineFeed, -, -, rfl⟩ := Fragment.block?_eq_some_iff.mp hbf
    have hnil : ¬ word <:+: [] := fun hnil => h.free word hmem (hnil.trans List.nil_infix)
    have hline : ¬ word <:+: (Fragment.note [owner.classLine] .fileStart).render := by
      have hrender : (Fragment.note [owner.classLine] .fileStart).render =
          owner.classLine ++ '\n' :: [] := by
        simp [Fragment.render]
      rw [hrender, infix_append_lineFeed_iff hfeed]
      exact not_or.mpr ⟨(h.classes owner howner).2.2 word hmem, hnil⟩
    cases needsLineFeed with
    | false => exact hline hblock
    | true => exact ((@infix_append_lineFeed_iff word [] _ hfeed).mp hblock).elim hnil hline

end Gloss
