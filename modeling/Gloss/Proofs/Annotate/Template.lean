import Gloss.Proofs.Pattern.Template

/-!
# Templates of assignments

The patterns for assignments come from templates with places for the name of the variable. A context
is only made if its templates become patterns with a sample name in their places; the names of
variables, and the group that stands for any name, are put there later. This module says when they
give patterns then.

## Main definitions

* `OpenTemplate`: an item of the pattern starts at every place of a template.
* `nameGroups`: how often the group that stands for any name would be given.

## Main results

* `Context.assignments_of_openTemplate`: a checked template gives a pattern for every name, and one
  for any name unless that gives the name of the group twice.
-/

set_option relaxedAutoImplicit false
set_option autoImplicit false

namespace Gloss

/-- The name with which templates are checked. -/
def sampleName : Text :=
  "PANEL".toList

/-- The sample name has nothing to escape. -/
lemma escape_sampleName : Pattern.escape sampleName = sampleName := by
  decide

/-- With the sample name in its places, an item of the pattern starts at every place of the
template. -/
def OpenTemplate (template : Text) : Prop :=
  Pattern.OpenPlaces sampleName (Text.between namePlace template)

/-- Whether a template is open can be decided. -/
instance (template : Text) : Decidable (OpenTemplate template) :=
  inferInstanceAs (Decidable (Pattern.OpenPlaces _ _))

/-- How often a group has the name of the group that stands for any name, if that stands in all
places of the template. -/
def nameGroups (template : Text) : Nat :=
  (Text.between namePlace template).length - 1 +
    (((Pattern.read? (Text.replace namePlace sampleName template)).elim [] Pattern.names).map
      Prod.fst).count
      Pattern.anyName

/-- The default templates have one place each, at which an item starts. -/
example : OpenTemplate Settings.default.patterns.localAssignment ∧
    OpenTemplate Settings.default.patterns.globalAssignment ∧
    nameGroups Settings.default.patterns.localAssignment = 1 := by
  decide +kernel

/-- A pattern is there iff reading its text succeeds. -/
lemma Pattern.isSome_read?_iff {t : Text} :
    (Pattern.read? t).isSome = true ↔ ∃ p, Pattern.read t = .ok p := by
  unfold Pattern.read?
  cases Pattern.read t <;> simp [Except.toOption]

namespace Context

variable {settings : Settings} {ctx : Context} {template : Text}

/-- A template that passes its check is a pattern with the sample name in its places. -/
lemma exists_read_of_checkTemplate {setting : Text} (h : checkTemplate setting template = .ok ()) :
    ∃ p, Pattern.read (Text.replace namePlace sampleName template) = .ok p := by
  obtain ⟨p, hread, -⟩ := bind_eq_ok_iff.mp h
  unfold readSettingsPattern at hread
  split at hread
  · next q hq => exact ⟨q, hq⟩
  · cases hread

/-- The templates of a context have passed their checks. -/
lemma exists_read_of_ofSettings (h : Context.ofSettings settings = .ok ctx) :
    (∃ p, Pattern.read (Text.replace namePlace sampleName ctx.localTemplate) = .ok p) ∧
      ∃ p, Pattern.read (Text.replace namePlace sampleName ctx.globalTemplate) = .ok p := by
  simp only [ofSettings, bind_eq_ok_iff] at h
  obtain ⟨_, -, _, -, _, -, _, -, _, -, _, -, _, hlocal, _, hglobal, _, -, hctx⟩ := h
  obtain rfl := Except.ok.inj hctx
  exact ⟨exists_read_of_checkTemplate hlocal, exists_read_of_checkTemplate hglobal⟩

/-- A checked template gives a pattern for every name, unless that is too large. -/
lemma isSome_fillTemplate
    (hcheck : ∃ p, Pattern.read (Text.replace namePlace sampleName template) = .ok p)
    (hopen : OpenTemplate template) {name : Text} (hname : name ≠ []) :
    (Pattern.read? (fillTemplate namePlace template name)).isSome = true ∨
      Pattern.read (fillTemplate namePlace template name) = .error .tooLarge := by
  obtain ⟨p, hread⟩ := hcheck
  rw [Text.replace_eq_intercalate] at hread
  rw [Pattern.isSome_read?_iff, fillTemplate, Text.replace_eq_intercalate]
  rw [OpenTemplate, ← escape_sampleName] at hopen
  rw [← escape_sampleName] at hread
  exact Pattern.read_name (by decide) (Text.betweenFrom_ne_nil _ _ _) hopen hread hname

/-- A checked template gives a pattern for any name, unless that gives the name of its group twice,
is too large or nested too deeply. -/
lemma read_replace_nameGroup
    (hcheck : ∃ p, Pattern.read (Text.replace namePlace sampleName template) = .ok p)
    (hopen : OpenTemplate template) :
    (nameGroups template ≤ 1 ∧
        ((∃ q, Pattern.read (Text.replace namePlace Pattern.nameGroup template) = .ok q) ∨
        Pattern.read (Text.replace namePlace Pattern.nameGroup template) = .error .tooLarge ∨
        Pattern.read (Text.replace namePlace Pattern.nameGroup template) = .error .tooDeep)) ∨
      (2 ≤ nameGroups template ∧
        Pattern.read (Text.replace namePlace Pattern.nameGroup template) =
          .error .repeatedGroupName) := by
  obtain ⟨p, hread⟩ := hcheck
  have hnames : nameGroups template =
      (Text.between namePlace template).length - 1 +
        (p.names.map Prod.fst).count Pattern.anyName := by
    rw [nameGroups, Pattern.read?, hread]
    rfl
  rw [Text.replace_eq_intercalate] at hread
  rw [hnames, Text.replace_eq_intercalate]
  rw [OpenTemplate, ← escape_sampleName] at hopen
  rw [← escape_sampleName] at hread
  exact Pattern.read_nameGroup (by decide) (Text.betweenFrom_ne_nil _ _ _) hopen hread

/-- **Which templates of a context give patterns.** If an item starts at every place of the
templates, they give a pattern for every name, unless that is too large. The template of local
assignments gives one for any name too, unless that is too large or nested too deeply, as long as it
gives the name of its group once; if there are two places, or a place and a group with that name, it
gives none.

**Proof sketch.** A template is read with a sample name when the settings are. Filling in another
name changes what is read only by given characters, at places where an item starts; so the reader
goes through the same steps, and only the weight of the pattern grows. A group with a name adds a
level of depth and the name, which may be given once. -/
theorem assignments_of_openTemplate (h : Context.ofSettings settings = .ok ctx)
    (hlocal : OpenTemplate ctx.localTemplate) (hglobal : OpenTemplate ctx.globalTemplate) :
    (∀ name : Text, name ≠ [] →
      ((ctx.localAssignment? name).isSome = true ∨
        Pattern.read (fillTemplate namePlace ctx.localTemplate name) = .error .tooLarge) ∧
      ((ctx.globalAssignment? name).isSome = true ∨
        Pattern.read (fillTemplate namePlace ctx.globalTemplate name) = .error .tooLarge)) ∧
    (nameGroups ctx.localTemplate ≤ 1 → ctx.anyLocalAssignment?.isSome = true ∨
      Pattern.read (Text.replace namePlace Pattern.nameGroup ctx.localTemplate) = .error .tooLarge ∨
      Pattern.read (Text.replace namePlace Pattern.nameGroup ctx.localTemplate) = .error .tooDeep) ∧
    (2 ≤ nameGroups ctx.localTemplate → ctx.anyLocalAssignment? = none) := by
  obtain ⟨hlocal', hglobal'⟩ := exists_read_of_ofSettings h
  refine ⟨fun name hname => ⟨?_, ?_⟩, ?_, ?_⟩
  · exact isSome_fillTemplate hlocal' hlocal hname
  · exact isSome_fillTemplate hglobal' hglobal hname
  · intro honce
    rcases read_replace_nameGroup hlocal' hlocal with ⟨-, hread⟩ | ⟨htwice, -⟩
    · exact hread.imp_left Pattern.isSome_read?_iff.mpr
    · omega
  · intro htwice
    rcases read_replace_nameGroup hlocal' hlocal with ⟨honce, -⟩ | ⟨-, hread⟩
    · omega
    · exact congrArg Except.toOption hread

/-- Settings whose template of local assignments has two places: a variable may be the first of
several. -/
def twoPlaces : Settings :=
  { Settings.default with patterns := { Settings.default.patterns with
    localAssignment := "local \x7bname\x7d =|local \x7bname\x7d,".toList } }

/-- The templates pass their checks, an item starts at each of their places, and the first gives a
pattern for a variable. -/
lemma check_twoPlaces : (Context.ofSettings twoPlaces).toOption.any (fun ctx =>
    decide (OpenTemplate ctx.localTemplate ∧ OpenTemplate ctx.globalTemplate ∧
      nameGroups ctx.localTemplate = 2 ∧ (ctx.localAssignment? "lamp".toList).isSome = true)) =
        true := by
  decide +kernel

/-- With two places a template passes its check and gives a pattern for a variable, but none for any
name. -/
theorem anyLocalAssignment?_of_twoPlaces : ∃ ctx, Context.ofSettings twoPlaces = .ok ctx ∧
    OpenTemplate ctx.localTemplate ∧ OpenTemplate ctx.globalTemplate ∧
    nameGroups ctx.localTemplate = 2 ∧
      (ctx.localAssignment? "lamp".toList).isSome = true ∧ ctx.anyLocalAssignment? = none := by
  have hcheck := check_twoPlaces
  generalize hctx : Context.ofSettings twoPlaces = result at hcheck
  cases result with
  | error fault => simp [Except.toOption] at hcheck
  | ok ctx =>
    obtain ⟨hlocal, hglobal, htwice, hlamp⟩ := of_decide_eq_true hcheck
    have hnone := (assignments_of_openTemplate hctx hlocal hglobal).2.2 (by omega)
    exact ⟨ctx, rfl, hlocal, hglobal, htwice, hlamp, hnone⟩

end Context

end Gloss
