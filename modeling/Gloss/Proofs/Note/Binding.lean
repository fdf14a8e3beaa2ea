import Gloss.Proofs.Note.AssignedName
import Gloss.Proofs.Note.Assignment

/-!
# Bindings of a text

What the bindings of a text are with the default patterns, said of the text. A local variable stands
for a name if it is assigned that name, and a variable stands for the meta table of a type if it is
assigned the result of looking it up. Both are assignments at starts of lines, of which there is one
at most at an offset.

## Main definitions

* `AliasAt`: a local variable is assigned a name at an offset.
* `MetaLookupAt`: a variable is assigned a meta table at an offset.

## Main results

* `Bindings.mem_aliases_iff`, `Bindings.mem_metas_iff`: the bindings that are found are those.
* `Bindings.pairwise_aliases`, `Bindings.pairwise_metas`: they are found in the order of offsets.
-/

set_option relaxedAutoImplicit false
set_option autoImplicit false

namespace Gloss

open Text

variable {isLocal : Bool} {name t value type : Text} {p q : Cursor} {offset : Nat}

/-! ## Names of variables -/

/-- The name of a variable that is bound: like an identifier, but any word character may follow the
first one. -/
def IsVariable (name : Text) : Prop :=
  ∃ c w, name = c :: w ∧ startsIdentifier c = true ∧ ∀ d ∈ w, isWord d = true

/-- An identifier names a variable. -/
lemma isVariable_of_isIdentifier (h : isIdentifier name = true) : IsVariable name := by
  cases name with
  | nil => simp [isIdentifier] at h
  | cons c w =>
    simp only [isIdentifier, Bool.and_eq_true, List.all_eq_true] at h
    exact ⟨c, w, rfl, h.1, fun d hd => isWord_of_continuesIdentifier (h.2 d hd)⟩

/-- The name of a variable is a word. -/
lemma IsVariable.isWord (h : IsVariable name) : IsWord name := by
  obtain ⟨c, w, rfl, hc, hw⟩ := h
  have hcontinues : continuesIdentifier c = true := by rw [continuesIdentifier, hc, Bool.true_or]
  exact ⟨List.cons_ne_nil c w,
    List.forall_mem_cons.mpr ⟨isWord_of_continuesIdentifier hcontinues, hw⟩⟩

/-- A word is on one line. -/
lemma IsWord.not_mem_lineFeed (h : IsWord name) : '\n' ∉ name := by
  intro hmem
  have hword := h.2 '\n' hmem
  revert hword
  decide

/-- The pattern of the name of a variable. -/
def nameExpr : Expr :=
  .seq (.char (.unions [.range 'A' 'Z', .range 'a' 'z', .single '_'])) (.chars .word 0 none true)

/-- The pattern of the name of a variable leads over such names. -/
lemma reaches_nameExpr_iff : nameExpr.Reaches p q ↔ ∃ w, p.Reads w q ∧ IsVariable w := by
  have hclass : ∀ c, (CharClass.unions [.range 'A' 'Z', .range 'a' 'z', .single '_']).mem c =
      startsIdentifier c := by
    intro c
    have hsingle : (CharClass.single '_').mem c = (c == '_') := by
      rw [Bool.eq_iff_iff, CharClass.mem_single_iff, beq_iff_eq]
    simp only [CharClass.unions, List.foldr_cons, List.foldr_nil, CharClass.mem, hsingle,
      startsIdentifier, Bool.or_false]
    exact (Bool.or_assoc _ _ _).symm.trans (congrArg (· || (c == '_')) (Bool.or_comm _ _))
  simp only [nameExpr, Expr.Reaches, hclass]
  constructor
  · rintro ⟨m, ⟨c, hc, hfirst⟩, w, hw, hword, -⟩
    exact ⟨c :: w, hfirst.trans hw, c, w, rfl, hc, hword⟩
  · rintro ⟨_, hreads, c, w, rfl, hc, hword⟩
    obtain ⟨m, hfirst, hw⟩ := (Cursor.reads_append_iff (v := [c])).mp hreads
    exact ⟨m, ⟨c, hc, hfirst⟩, w, hw, hword, Nat.zero_le _, by simp⟩

/-! ## Meta tables -/

/-- What stands before the quoted type when a meta table is looked up. -/
def IsLookupStart (start : Text) : Prop :=
  ∃ gap blanks indent, start = gap ++ ("FindMetaTable".toList ++ (blanks ++ '(' :: indent)) ∧
    IsGap gap ∧
    IsGap blanks ∧ IsGap indent

/-- The value starts with the lookup of the meta table of a type: the call, the type in quotes of
either kind, and the parenthesis that closes the call. -/
def IsMetaLookup (value type : Text) : Prop :=
  ∃ start first last blanks rest,
    value = start ++ first :: (type ++ last :: (blanks ++ ')' :: rest)) ∧ IsLookupStart start ∧
      first ∈ ['"', '\''] ∧ last ∈ ['"', '\''] ∧ IsGap blanks ∧ type ≠ [] ∧
      ∀ c ∈ type, c ∉ ['"', '\'', '\n']

/-- A variable, local or not, is assigned the meta table of a type at the offset. -/
def MetaLookupAt (t name : Text) (offset : Nat) (type : Text) : Prop :=
  ∃ isLocal value, AssignmentAt isLocal t name offset value ∧ IsMetaLookup value type

/-- Nothing before the type is a quote or an equals sign. -/
lemma IsLookupStart.not_mem {start : Text} (h : IsLookupStart start) {c : Char} (hc : c ∈ start) :
    c ∉ ['"', '\'', '='] := by
  obtain ⟨gap, blanks, indent, rfl, hgap, hblanks, hindent⟩ := h
  have hblank : ∀ {w : Text}, IsGap w → c ∈ w → c ∉ ['"', '\'', '='] := by
    intro w hw hc
    rcases hw c hc with rfl | rfl
    · decide
    · decide
  have hcall : ("FindMetaTable".toList.all fun c => decide (c ∉ ['"', '\'', '='])) =
      true := by decide
  simp only [List.mem_append, List.mem_cons (a := c) (b := '(')] at hc
  rcases hc with hc | hc | hc | rfl | hc
  · exact hblank hgap hc
  · exact of_decide_eq_true (List.all_eq_true.mp hcall c hc)
  · exact hblank hblanks hc
  · decide
  · exact hblank hindent hc

/-- A value is the lookup of one type at most: the type is what stands between the first two
quotes. -/
lemma IsMetaLookup.unique {type' : Text} (h : IsMetaLookup value type)
    (h' : IsMetaLookup value type') :
    type = type' := by
  obtain ⟨start, first, last, blanks, rest, rfl, hstart, hfirst, hlast, -, -, htype⟩ := h
  obtain ⟨start', first', last', blanks', rest', heq, hstart', hfirst', hlast', -, -, htype'⟩ := h'
  have hbefore : ∀ {w : Text}, IsLookupStart w → ∀ c ∈ w, decide (c ∉ ['"', '\'']) = true := by
    intro w hw c hc
    have hnot := hw.not_mem hc
    simp only [List.mem_cons, List.not_mem_nil, or_false, not_or, decide_eq_true_eq] at hnot ⊢
    exact ⟨hnot.1, hnot.2.1⟩
  have hinside : ∀ {w : Text}, (∀ c ∈ w, c ∉ ['"', '\'', '\n']) →
      ∀ c ∈ w, decide (c ∉ ['"', '\'']) = true := by
    intro w hw c hc
    have hnot := hw c hc
    simp only [List.mem_cons, List.not_mem_nil, or_false, not_or, decide_eq_true_eq] at hnot ⊢
    exact ⟨hnot.1, hnot.2.1⟩
  have hquote : ∀ {c : Char} {w : Text}, c ∈ ['"', '\''] →
      ∀ d ∈ (c :: w).head?, decide (d ∉ ['"', '\'']) = false := by
    intro c w hc d hd
    obtain rfl : c = d := by simpa using hd
    exact decide_eq_false fun hnot => hnot hc
  obtain ⟨-, hrest⟩ :=
    run_unique (hbefore hstart) (hquote hfirst) (hbefore hstart') (hquote hfirst') heq
  exact (run_unique (hinside htype) (hquote hlast) (hinside htype') (hquote hlast')
    (List.cons.inj hrest).2).1

/-- A meta table is not compared with: its lookup does not start with an equals sign. -/
lemma IsMetaLookup.head?_ne (h : IsMetaLookup value type) : value.head? ≠ some '=' := by
  obtain ⟨start, first, last, blanks, rest, rfl, hstart, -⟩ := h
  have hne : start ≠ [] := by
    obtain ⟨gap, blanks, indent, rfl, -⟩ := hstart
    simp
  intro hhead
  rw [List.head?_append_of_ne_nil _ hne] at hhead
  exact hstart.not_mem (List.mem_of_mem_head? hhead) (by simp)

/-- A quote of either kind. -/
def quoteClass : CharClass :=
  .unions [.single '"', .single '\'']

/-- The pattern of the type of a meta table. -/
def typeExpr : Expr :=
  .chars (.compl (.unions [.single '"', .single '\'', .single '\n'])) 1 none true

/-- The parts of the pattern from the start of the line up to the name, whether it is local or
not. -/
def anyStartParts : List Expr :=
  [.anchor .lineStart, .anyOf writtenBlank] ++ [.option (.seqs (leadParts true)) true]

/-- The parts of the pattern between the equals sign and the type. -/
def lookupParts : List Expr :=
  [.anyOf writtenBlank] ++ (Expr.charParts "FindMetaTable".toList ++ ([.anyOf writtenBlank] ++
    (Expr.charParts ['('] ++ ([.anyOf writtenBlank] ++ [.char quoteClass]))))

/-- The parts of the pattern after the type. -/
def lookupEndParts : List Expr :=
  [.char quoteClass] ++ ([.anyOf writtenBlank] ++ Expr.charParts [')'])

/-- The parts of the default pattern of a meta table. -/
def metaParts : List Expr :=
  anyStartParts ++ ([.group 1 nameExpr] ++ ((equalsParts ++ lookupParts) ++
    ([.group 2 typeExpr] ++ lookupEndParts)))

/-- **The default pattern of a meta table** is read as its parts. -/
lemma read_metaTable_default :
    Pattern.read ({} : PatternSettings).metaTable =
      .ok { source := ({} : PatternSettings).metaTable
            expr := Expr.seqs metaParts
            names := [] } := by
  decide +kernel

/-- The class of some characters holds these characters. -/
lemma mem_unions_single_iff (cs : List Char) {c : Char} :
    (CharClass.unions (cs.map .single)).mem c = true ↔ c ∈ cs := by
  induction cs with
  | nil => simp [CharClass.unions, CharClass.mem]
  | cons d cs ih =>
    have hunions : CharClass.unions ((d :: cs).map .single) =
        .union (.single d) (CharClass.unions (cs.map .single)) := rfl
    rw [hunions, CharClass.mem, Bool.or_eq_true, ih, CharClass.mem_single_iff, List.mem_cons]

/-- The class of quotes holds the two quotes. -/
lemma quoteClass_mem_iff {c : Char} : quoteClass.mem c = true ↔ c ∈ ['"', '\''] :=
  mem_unions_single_iff ['"', '\'']

/-- The pattern of a class of characters leads over one of them. -/
lemma reaches_char_iff {set : CharClass} {cs : List Char} (h : ∀ c, set.mem c = true ↔ c ∈ cs) :
    (Expr.char set).Reaches p q ↔ ∃ c ∈ cs, p.Reads [c] q := by
  simp only [Expr.Reaches, h]

/-- The pattern of the type of a meta table leads over texts without quotes on one line. -/
lemma reaches_typeExpr_iff :
    typeExpr.Reaches p q ↔ ∃ w, p.Reads w q ∧ w ≠ [] ∧ ∀ c ∈ w, c ∉ ['"', '\'', '\n'] := by
  have hclass : ∀ c, (CharClass.compl (.unions [.single '"', .single '\'', .single '\n'])).mem c =
      true ↔
      c ∉ ['"', '\'', '\n'] := by
    intro c
    have hmem := mem_unions_single_iff ['"', '\'', '\n'] (c := c)
    rw [CharClass.mem, Bool.not_eq_true', ← Bool.not_eq_true]
    exact not_congr hmem
  have hne : ∀ w : Text, 1 ≤ w.length ↔ w ≠ [] := fun w => by
    rw [Nat.one_le_iff_ne_zero, Ne, List.length_eq_zero_iff]
  simp only [typeExpr, Expr.Reaches, hclass, hne, Option.not_mem_none, false_imp_iff, implies_true,
    and_true]
  exact exists_congr fun w => and_congr_right fun _ => and_comm

/-- The parts up to the name lead from the start of a line to the name, local or not. -/
lemma reaches_anyStartParts_iff :
    (Expr.seqs anyStartParts).Reaches p q ↔ ∃ isLocal, LeadsToName isLocal p q := by
  have hoption : ∀ m, (Expr.seqs [.option (.seqs (leadParts true)) true]).Reaches m q ↔
      ∃ isLocal, (Expr.seqs (leadParts isLocal)).Reaches m q := by
    intro m
    rw [Bool.exists_bool]
    exact or_comm
  simp only [anyStartParts, Expr.reaches_seqs_append, hoption, ← reaches_startParts_iff, startParts]
  constructor
  · rintro ⟨m, hm, isLocal, hq⟩
    exact ⟨isLocal, m, hm, hq⟩
  · rintro ⟨isLocal, m, hm, hq⟩
    exact ⟨m, hm, isLocal, hq⟩

/-- From behind the equals sign into the quotes around the type. -/
def LeadsToType (p q : Cursor) : Prop :=
  ∃ start first, p.Reads (start ++ [first]) q ∧ IsLookupStart start ∧ first ∈ ['"', '\'']

/-- From behind the type over the end of the call. -/
def LeadsFromType (p q : Cursor) : Prop :=
  ∃ last blanks, p.Reads (last :: (blanks ++ [')'])) q ∧ last ∈ ['"', '\''] ∧ IsGap blanks

/-- The parts behind the equals sign lead into the quotes around the type. -/
lemma reaches_lookupParts_iff : (Expr.seqs lookupParts).Reaches p q ↔ LeadsToType p q := by
  have hgap : Expr.seqs [.anyOf writtenBlank] = .anyOf writtenBlank := rfl
  have hquote : Expr.seqs [.char quoteClass] = .char quoteClass := rfl
  simp only [lookupParts, Expr.reaches_seqs_append, hgap, hquote, reaches_gap_iff,
    Expr.reaches_seqs_charParts_iff, reaches_char_iff fun _ => quoteClass_mem_iff]
  constructor
  · rintro ⟨m₁, ⟨gap, h₁, hgap⟩, m₂, h₂, m₃, ⟨blanks, h₃, hblanks⟩, m₄, h₄, m₅,
      ⟨indent, h₅, hindent⟩, first, hfirst, h₆⟩
    refine ⟨_, first, ?_, ⟨gap, blanks, indent, rfl, hgap, hblanks, hindent⟩, hfirst⟩
    simpa using ((((h₁.trans h₂).trans h₃).trans h₄).trans h₅).trans h₆
  · rintro ⟨_, first, hreads, ⟨gap, blanks, indent, rfl, hgap, hblanks, hindent⟩, hfirst⟩
    have hsplit :
        p.Reads (gap ++ ("FindMetaTable".toList ++ (blanks ++ (['('] ++ (indent ++ [first])))))
        q := by
      simpa using hreads
    obtain ⟨m₁, h₁, hreads⟩ := Cursor.reads_append_iff.mp hsplit
    obtain ⟨m₂, h₂, hreads⟩ := Cursor.reads_append_iff.mp hreads
    obtain ⟨m₃, h₃, hreads⟩ := Cursor.reads_append_iff.mp hreads
    obtain ⟨m₄, h₄, hreads⟩ := Cursor.reads_append_iff.mp hreads
    obtain ⟨m₅, h₅, h₆⟩ := Cursor.reads_append_iff.mp hreads
    exact ⟨m₁, ⟨gap, h₁, hgap⟩, m₂, h₂, m₃, ⟨blanks, h₃, hblanks⟩, m₄, h₄, m₅,
      ⟨indent, h₅, hindent⟩, first, hfirst, h₆⟩

/-- The parts behind the type lead over the end of the call. -/
lemma reaches_lookupEndParts_iff : (Expr.seqs lookupEndParts).Reaches p q ↔ LeadsFromType p q := by
  have hgap : Expr.seqs [.anyOf writtenBlank] = .anyOf writtenBlank := rfl
  have hquote : Expr.seqs [.char quoteClass] = .char quoteClass := rfl
  simp only [lookupEndParts, Expr.reaches_seqs_append, hgap, hquote, reaches_gap_iff,
    Expr.reaches_seqs_charParts_iff, reaches_char_iff fun _ => quoteClass_mem_iff]
  constructor
  · rintro ⟨m₁, ⟨last, hlast, h₁⟩, m₂, ⟨blanks, h₂, hblanks⟩, h₃⟩
    exact ⟨last, blanks, by simpa using h₁.trans (h₂.trans h₃), hlast, hblanks⟩
  · rintro ⟨last, blanks, hreads, hlast, hblanks⟩
    obtain ⟨m₁, h₁, hreads⟩ := (Cursor.reads_append_iff (v := [last])).mp hreads
    obtain ⟨m₂, h₂, h₃⟩ := Cursor.reads_append_iff.mp hreads
    exact ⟨m₁, ⟨last, hlast, h₁⟩, m₂, ⟨blanks, h₂, hblanks⟩, h₃⟩

/-- A value is the lookup of a meta table iff one can go over its parts. -/
lemma isMetaLookup_iff_exists_reads :
    IsMetaLookup p.rest type ↔ ∃ x y q, LeadsToType p x ∧ x.Reads type y ∧ LeadsFromType y q ∧
      type ≠ [] ∧ ∀ c ∈ type, c ∉ ['"', '\'', '\n'] := by
  constructor
  · rintro ⟨start, first, last, blanks, rest, hrest, hstart, hfirst, hlast, hblanks, htype⟩
    have hsplit : p.rest =
        (start ++ [first]) ++ (type ++ ((last :: (blanks ++ [')'])) ++ rest)) := by
      simpa using hrest
    obtain ⟨x, hx, hrest⟩ := Cursor.exists_reads hsplit
    obtain ⟨y, hy, hrest⟩ := Cursor.exists_reads hrest
    obtain ⟨q, hq, -⟩ := Cursor.exists_reads hrest
    exact ⟨x, y, q, ⟨start, first, hx, hstart, hfirst⟩, hy,
      ⟨last, blanks, hq, hlast, hblanks⟩, htype⟩
  · rintro ⟨x, y, q, ⟨start, first, hx, hstart, hfirst⟩, hy,
      ⟨last, blanks, hq, hlast, hblanks⟩, htype⟩
    refine ⟨start, first, last, blanks, q.rest, ?_, hstart, hfirst, hlast, hblanks, htype⟩
    simpa using ((hx.trans hy).trans hq).rest

/-- The pattern of a meta table leads over its parts. -/
lemma reaches_metaParts_iff :
    (Expr.seqs metaParts).Reaches p q ↔ ∃ isLocal name type x y z u v, LeadsToName isLocal p x ∧
      x.Reads name y ∧ IsVariable name ∧ LeadsToValue y z ∧ LeadsToType z u ∧ u.Reads type v ∧
      (type ≠ [] ∧ ∀ c ∈ type, c ∉ ['"', '\'', '\n']) ∧ LeadsFromType v q := by
  have hname : ∀ x y, (Expr.seqs [.group 1 nameExpr]).Reaches x y ↔
      ∃ w, x.Reads w y ∧ IsVariable w :=
    fun _ _ => reaches_nameExpr_iff
  have htype : ∀ u v, (Expr.seqs [.group 2 typeExpr]).Reaches u v ↔
      ∃ w, u.Reads w v ∧ w ≠ [] ∧ ∀ c ∈ w, c ∉ ['"', '\'', '\n'] :=
    fun _ _ => reaches_typeExpr_iff
  simp only [metaParts, Expr.reaches_seqs_append, hname, htype, reaches_anyStartParts_iff,
    reaches_equalsParts_iff, reaches_lookupParts_iff, reaches_lookupEndParts_iff]
  constructor
  · rintro ⟨x, ⟨isLocal, hx⟩, y, ⟨name, hy, hvariable⟩, u, ⟨z, hz, hu⟩, v, ⟨type, hv, htype⟩, hq⟩
    exact ⟨isLocal, name, type, x, y, z, u, v, hx, hy, hvariable, hz, hu, hv, htype, hq⟩
  · rintro ⟨isLocal, name, type, x, y, z, u, v, hx, hy, hvariable, hz, hu, hv, htype, hq⟩
    exact ⟨x, ⟨isLocal, hx⟩, y, ⟨name, hy, hvariable⟩, u, ⟨z, hz, hu⟩, v, ⟨type, hv, htype⟩, hq⟩

/-- The pattern of a meta table leads somewhere where a text starts with the assignment of one. -/
lemma exists_reaches_metaParts_iff :
    (∃ q, (Expr.seqs metaParts).Reaches p q) ↔ Anchor.lineStart.holds p = true ∧
      ∃ isLocal name value type, Assigns isLocal name p.rest value ∧ IsVariable name ∧
        IsMetaLookup value type := by
  simp only [reaches_metaParts_iff]
  constructor
  · rintro ⟨q, isLocal, name, type, x, y, z, u, v, hx, hy, hvariable, hz, hu, hv, htype, hq⟩
    have hlookup : IsMetaLookup z.rest type :=
      isMetaLookup_iff_exists_reads.mpr ⟨u, v, q, hu, hv, hq, htype⟩
    obtain ⟨hholds, hassigns⟩ :=
      assigns_iff_exists_reads.mpr ⟨x, y, z, hx, hy, hz, rfl, hlookup.head?_ne⟩
    exact ⟨hholds, isLocal, name, z.rest, type, hassigns, hvariable, hlookup⟩
  · rintro ⟨hholds, isLocal, name, value, type, hassigns, hvariable, hlookup⟩
    obtain ⟨x, y, z, hx, hy, hz, rfl, -⟩ := assigns_iff_exists_reads.mp ⟨hholds, hassigns⟩
    obtain ⟨u, v, q, hu, hv, hq, htype⟩ := isMetaLookup_iff_exists_reads.mp hlookup
    exact ⟨q, isLocal, name, type, x, y, z, u, v, hx, hy, hvariable, hz, hu, hv, htype, hq⟩

/-- The pattern of a meta table repeats nothing but characters. -/
lemma isPlain_metaParts : (Expr.seqs metaParts).isPlain = true := by
  decide

/-- A match of the pattern of a meta table stays on its line. -/
lemma keepsToLine_metaParts : (Expr.seqs metaParts).KeepsToLine := by
  refine Expr.keepsToLine_of_reaches isPlain_metaParts fun p q hq => ?_
  obtain ⟨isLocal, name, type, x, y, z, u, v, ⟨hholds, indent, lead, hx, -⟩, hy, -, ⟨blanks, hz, -⟩,
    ⟨start, first, hu, -⟩, hv, -, last, blanks', hend, -⟩ := reaches_metaParts_iff.mp hq
  have hreads := ((((hx.trans hy).trans hz).trans hu).trans hv).trans hend
  refine ⟨hholds, _, hreads, by simp, fun hmem => ?_⟩
  exact hq.not_mem isPlain_metaParts (by decide) hreads (List.dropLast_subset _ hmem)

namespace Bindings

/-- **A match of the default pattern of a meta table** is the assignment of a meta table, and its
groups are the variable and the type.

**Proof sketch.** A match leads through its parts, and its groups are what the two groups of the
pattern have gone over. The parts up to the first group lead to the name, those between the groups
to the type, and the rest over the end of the call. -/
lemma metaBinding?_of_matchAt? {m : Match} (hm : (Expr.seqs metaParts).matchAt? p = some m) :
    Anchor.lineStart.holds p = true ∧ ∃ isLocal name value type, Assigns isLocal name p.rest value ∧
      IsVariable name ∧ IsMetaLookup value type ∧
      metaBinding? m = some { offset := p.offset, name := name, value := type } := by
  obtain ⟨rfl, hleads⟩ := Expr.exists_leads_of_matchAt? isPlain_metaParts hm
  obtain ⟨x, y, hx, hy, hleads⟩ := Expr.leads_seqs_group (by decide) (by decide) hleads
  obtain ⟨u, v, hu, hv, hleads⟩ := Expr.leads_seqs_group (by decide) (by decide) hleads
  have hgroups : m.groups = [(2, { start := u, stop := v }), (1, { start := x, stop := y })] :=
    hleads.groups_eq (by decide)
  obtain ⟨isLocal, hx⟩ := reaches_anyStartParts_iff.mp hx
  obtain ⟨name, hname, hvariable⟩ := reaches_nameExpr_iff.mp hy
  obtain ⟨z, hz, hu⟩ := Expr.reaches_seqs_append.mp hu
  rw [reaches_equalsParts_iff] at hz
  rw [reaches_lookupParts_iff] at hu
  obtain ⟨type, htype, hletters⟩ := reaches_typeExpr_iff.mp hv
  have hlookup : IsMetaLookup z.rest type := isMetaLookup_iff_exists_reads.mpr
    ⟨u, v, m.stop, hu, htype, reaches_lookupEndParts_iff.mp hleads.reaches, hletters⟩
  obtain ⟨hholds, hassigns⟩ :=
    assigns_iff_exists_reads.mpr ⟨x, y, z, hx, hname, hz, rfl, hlookup.head?_ne⟩
  refine ⟨hholds, isLocal, name, z.rest, type, hassigns, hvariable, hlookup, ?_⟩
  have hfirst : m.group? 1 = some { start := x, stop := y } := by rw [Match.group?, hgroups]; rfl
  have hsecond : m.group? 2 = some { start := u, stop := v } := by rw [Match.group?, hgroups]; rfl
  simp only [metaBinding?, hfirst, hsecond, Option.bind_some, Option.map_some,
    Piece.text, hname.textTo, htype.textTo]

/-- The meta tables that the default pattern finds are those that are assigned. -/
lemma mem_filterMap_metaBinding?_iff (hname : IsVariable name) :
    { offset := offset, name := name, value := type } ∈
      ((Expr.seqs metaParts).findAll t).filterMap metaBinding? ↔
        MetaLookupAt t name offset type := by
  simp only [List.mem_filterMap, keepsToLine_metaParts.mem_findAll_iff, MetaLookupAt,
    assignmentAt_iff_exists_in]
  constructor
  · rintro ⟨m, ⟨hin, hm⟩, hbinding⟩
    obtain ⟨hholds, isLocal, name', value, type', hassigns, -, hlookup, heq⟩ :=
      metaBinding?_of_matchAt? hm
    rw [heq, Option.some.injEq, Binding.mk.injEq] at hbinding
    obtain ⟨rfl, rfl, rfl⟩ := hbinding
    exact ⟨isLocal, value, ⟨m.start, hin, rfl, hholds, hassigns⟩, hlookup⟩
  · rintro ⟨isLocal, value, ⟨p, hin, rfl, hholds, hassigns⟩, hlookup⟩
    have hreaches := exists_reaches_metaParts_iff.mpr
      ⟨hholds, isLocal, name, value, type, hassigns, hname, hlookup⟩
    obtain ⟨m, hm⟩ :=
      Option.isSome_iff_exists.mp ((Expr.matchAt?_isSome_iff isPlain_metaParts).mpr hreaches)
    obtain ⟨hstart, -⟩ := Expr.matchAt?_reads hm
    -- There is no other assignment at this place.
    obtain ⟨-, isLocal', name', value', type', hassigns', hname', hlookup', heq⟩ :=
      metaBinding?_of_matchAt? hm
    obtain ⟨-, rfl, rfl⟩ := hassigns.unique hassigns' hname.isWord hname'.isWord
    obtain rfl := hlookup.unique hlookup'
    exact ⟨m, ⟨hstart ▸ hin, hstart ▸ hm⟩, heq⟩

end Bindings

/-! ## Local variables that stand for names -/

/-- A local variable is assigned a name at the offset. -/
def AliasAt (t name : Text) (offset : Nat) (target : Text) : Prop :=
  ∃ value, AssignmentAt true t name offset value ∧ IsBareName value target

/-- The default pattern for a local assignment of any variable. -/
def anyLocalPattern : Pattern :=
  { source := assignmentPattern true "(?P<name>[A-Za-z_]\\w*)".toList
    expr := Expr.seqs (assignmentParts true [.group 1 nameExpr])
    names := [("name".toList, 1)] }

/-- **The default pattern for a local assignment of any variable** is read as its parts. -/
lemma read?_anyLocalPattern :
    Pattern.read? (assignmentPattern true "(?P<name>[A-Za-z_]\\w*)".toList) =
      some anyLocalPattern := by
  decide +kernel

/-- The pattern of any local assignment repeats nothing but characters. -/
lemma isPlain_anyLocalPattern : anyLocalPattern.expr.isPlain = true := by
  decide

/-- A match of the pattern of any local assignment stays on its line. -/
lemma keepsToLine_anyLocalPattern : anyLocalPattern.expr.KeepsToLine := by
  refine keepsToLine_assignmentParts isPlain_anyLocalPattern fun x y h => ?_
  obtain ⟨w, hw, hvariable⟩ := reaches_nameExpr_iff.mp h
  exact ⟨w, hw, hvariable.isWord.not_mem_lineFeed⟩

namespace Bindings

/-- A match of the default pattern for local assignments is a local assignment, and its group is the
variable. -/
lemma aliasBinding?_of_matchAt? {m : Match} (hm : anyLocalPattern.expr.matchAt? p = some m) :
    Anchor.lineStart.holds p = true ∧ ∃ name value, Assigns true name p.rest value ∧
    IsVariable name ∧
      aliasBinding? anyLocalPattern m = (assignedName? value).map fun target =>
        { offset := p.offset, name := name, value := target } := by
  have hparts : anyLocalPattern.expr =
      Expr.seqs (startParts true ++ ([.group 1 nameExpr] ++ (equalsParts ++ [writtenValue]))) := rfl
  obtain ⟨rfl, hleads⟩ := Expr.exists_leads_of_matchAt? isPlain_anyLocalPattern hm
  rw [hparts] at hleads
  obtain ⟨x, y, hx, hy, hleads⟩ := Expr.leads_seqs_group (by decide) (by decide) hleads
  have hgroups : m.groups = [(1, { start := x, stop := y })] := hleads.groups_eq (by decide)
  rw [reaches_startParts_iff] at hx
  obtain ⟨name, hname, hvariable⟩ := reaches_nameExpr_iff.mp hy
  obtain ⟨z, hz, hend⟩ := Expr.reaches_seqs_append.mp hleads.reaches
  rw [reaches_equalsParts_iff] at hz
  have hvalue := exists_reaches_writtenValue_iff.mp ⟨_, hend⟩
  obtain ⟨last, hlast, -⟩ := exists_reads_of_reaches_writtenValue hend
  obtain ⟨hholds, hassigns⟩ := assigns_iff_exists_reads.mpr ⟨x, y, z, hx, hname, hz, rfl, hvalue⟩
  refine ⟨hholds, name, z.rest, hassigns, hvariable, ?_⟩
  have hnamed : anyLocalPattern.named? "name".toList m = some { start := x, stop := y } := by
    have hindex : anyLocalPattern.names.lookup "name".toList = some 1 := by decide
    rw [Pattern.named?, hindex, Option.bind_some, Match.group?, hgroups]
    rfl
  have hequals : m.toPiece.text.contains '=' = true := by
    obtain ⟨-, indent, lead, hx, -⟩ := hx
    obtain ⟨blanks, hz, -⟩ := hz
    have htext : m.toPiece.text = _ := (((hx.trans hname).trans hz).trans hlast).textTo
    rw [htext, List.contains_iff_mem]
    simp
  have hpiece : Piece.text { start := x, stop := y } = name := hname.textTo
  simp only [aliasBinding?, hnamed, Option.bind_some, hequals, if_true, hpiece,
    hassigns.tail_dropWhile hvariable.isWord]

/-- The local variables that the default pattern finds are those that are assigned a name. -/
lemma mem_filterMap_aliasBinding?_iff (hname : IsVariable name) {target : Text} :
    { offset := offset, name := name, value := target } ∈
      (anyLocalPattern.expr.findAll t).filterMap (aliasBinding? anyLocalPattern) ↔
        AliasAt t name offset target := by
  simp only [List.mem_filterMap, keepsToLine_anyLocalPattern.mem_findAll_iff, AliasAt,
    assignmentAt_iff_exists_in, ← assignedName?_eq_some_iff]
  constructor
  · rintro ⟨m, ⟨hin, hm⟩, hbinding⟩
    obtain ⟨hholds, name', value, hassigns, -, heq⟩ := aliasBinding?_of_matchAt? hm
    rw [heq] at hbinding
    obtain ⟨target', htarget, hbinding⟩ := Option.map_eq_some_iff.mp hbinding
    obtain ⟨rfl, rfl, rfl⟩ := Binding.mk.inj hbinding
    exact ⟨value, ⟨m.start, hin, rfl, hholds, hassigns⟩, htarget⟩
  · rintro ⟨value, ⟨p, hin, rfl, hholds, hassigns⟩, htarget⟩
    obtain ⟨x, y, z, hx, hy, hz, rfl, hvalue⟩ := assigns_iff_exists_reads.mp ⟨hholds, hassigns⟩
    obtain ⟨q, hq⟩ := exists_reaches_writtenValue_iff.mpr hvalue
    have hreaches : anyLocalPattern.expr.Reaches p q :=
      reaches_assignmentParts_iff.mpr ⟨x, y, z, hx,
        reaches_nameExpr_iff.mpr ⟨name, hy, hname⟩, hz, hq⟩
    obtain ⟨m, hm⟩ := Option.isSome_iff_exists.mp
      ((Expr.matchAt?_isSome_iff isPlain_anyLocalPattern).mpr ⟨q, hreaches⟩)
    obtain ⟨hstart, -⟩ := Expr.matchAt?_reads hm
    -- There is no other assignment at this place.
    obtain ⟨-, name', value', hassigns', hname', heq⟩ := aliasBinding?_of_matchAt? hm
    obtain ⟨-, rfl, hsame⟩ := hassigns.unique hassigns' hname.isWord hname'.isWord
    rw [← hsame, htarget, Option.map_some] at heq
    exact ⟨m, ⟨hstart ▸ hin, hstart ▸ hm⟩, heq⟩

end Bindings

/-! ## The bindings of a text -/

/-- The default templates give the default pattern for a local assignment of any variable. -/
lemma Context.anyLocalAssignment?_of_default {ctx : Context} (h : ctx.HasDefaultTemplates) :
    ctx.anyLocalAssignment? = some anyLocalPattern := by
  have hfill := replace_assignmentPattern true "(?P<name>[A-Za-z_]\\w*)".toList
  rw [← localAssignment_default, ← h.1] at hfill
  exact (congrArg Pattern.read? hfill).trans read?_anyLocalPattern

/-- What a context has if the patterns of its settings are the default ones. -/
lemma Context.patterns_of_default {s : Settings} {ctx : Context}
    (h : Context.ofSettings s = .ok ctx) (hs : s.patterns = {}) :
    ctx.HasDefaultTemplates ∧ ctx.metaTable.expr = Expr.seqs metaParts := by
  simp only [Context.ofSettings, bind_eq_ok_iff, hs] at h
  obtain ⟨_, -, _, -, _, -, _, -, metaTable, hmeta, _, -, _, -, _, -, _, -, hctx⟩ := h
  obtain rfl := Except.ok.inj hctx
  rw [readSettingsPattern, read_metaTable_default] at hmeta
  obtain rfl := Except.ok.inj hmeta
  exact ⟨⟨rfl, rfl⟩, rfl⟩

namespace Bindings

variable {ctx : Context}

/-- The names that local variables stand for are those that they are assigned. -/
lemma mem_aliases_iff (h : ctx.HasDefaultTemplates) (hname : IsVariable name) {target : Text} :
    { offset := offset, name := name, value := target } ∈ (ofText ctx t).aliases ↔
      AliasAt t name offset target := by
  rw [← mem_filterMap_aliasBinding?_iff hname]
  simp only [ofText, Context.anyLocalAssignment?_of_default h]

/-- The types that variables stand for are those whose meta tables they are assigned. -/
lemma mem_metas_iff (h : ctx.metaTable.expr = Expr.seqs metaParts) (hname : IsVariable name) :
    { offset := offset, name := name, value := type } ∈ (ofText ctx t).metas ↔
      MetaLookupAt t name offset type := by
  rw [← mem_filterMap_metaBinding?_iff hname]
  simp only [ofText, h]

/-- Bindings that are made of the matches of a pattern, each at the start of its match, are in the
order of offsets. -/
lemma pairwise_filterMap (e : Expr) (t : Text) {f : Match → Option Binding}
    (hf : ∀ m b, f m = some b → b.offset = m.start.offset) :
    ((e.findAll t).filterMap f).Pairwise fun a b => a.offset < b.offset := by
  rw [List.pairwise_filterMap]
  refine (e.findAll_pairwise t).imp fun {m n} hlt a ha b hb => ?_
  rw [hf m a ha, hf n b hb]
  exact hlt

/-- Local assignments are in the order in which they stand. -/
lemma pairwise_aliases (ctx : Context) (t : Text) :
    (ofText ctx t).aliases.Pairwise fun a b => a.offset < b.offset := by
  simp only [ofText]
  split
  · refine pairwise_filterMap _ t fun m b hb => ?_
    simp only [aliasBinding?, Option.bind_eq_some_iff] at hb
    obtain ⟨_, -, hb⟩ := hb
    split at hb
    · obtain ⟨_, -, rfl⟩ := Option.map_eq_some_iff.mp hb
      rfl
    · simp at hb
  · exact List.Pairwise.nil

/-- Assignments of meta tables are in the order in which they stand. -/
lemma pairwise_metas (ctx : Context) (t : Text) :
    (ofText ctx t).metas.Pairwise fun a b => a.offset < b.offset := by
  refine pairwise_filterMap _ t fun m b hb => ?_
  simp only [metaBinding?, Option.bind_eq_some_iff] at hb
  obtain ⟨_, -, hb⟩ := hb
  obtain ⟨_, -, rfl⟩ := Option.map_eq_some_iff.mp hb
  rfl

end Bindings

end Gloss
