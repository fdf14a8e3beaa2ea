import Gloss.Proofs.Annotate.Default
import Gloss.Proofs.Note.ClassSearch
import Gloss.Proofs.Pattern.AllMatches
import Gloss.Proofs.Words

/-!
# Assignments

Where the assignments of a variable are found with the default patterns, said of the text: at the
starts of lines that begin with spaces and tabs, `local` if the variable is local, the name of the
variable and an equals sign that is not followed by another. The name may be any text on one line,
since it is escaped when it is put into the pattern; a name that is too long to be searched for has
no pattern.

## Main definitions

* `Assigns`: a text starts with the assignment of a variable.
* `AssignmentAt`: the assignment of a variable starts at an offset.
* `assignmentPattern`: the written form of the pattern of an assignment.

## Main results

* `Text.replace_once`: a template with one place is filled there.
* `read?_assignmentPattern`: what the written form of the pattern is read as.
* `exists_mem_findAll_assignment_iff`: the matches of the pattern start where assignments do.
* `Assigns.unique`: a text starts with one assignment at most.
-/

set_option relaxedAutoImplicit false
set_option autoImplicit false

namespace Gloss

open Text

/-! ## Templates -/

namespace Text

variable {c : Char} {old new a b : Text}

/-- The rest of an occurrence is skipped. -/
lemma replaceFrom_skip (old new w b : Text) :
    replaceFrom old new w.length (w ++ b) = replaceFrom old new 0 b := by
  induction w with
  | nil => rfl
  | cons d w ih => exact ih

/-- A part without the first character of the old text stays as it is. -/
lemma replaceFrom_append_of_not_mem (h : c ∉ a) (b : Text) :
    replaceFrom (c :: old) new 0 (a ++ b) = a ++ replaceFrom (c :: old) new 0 b := by
  induction a with
  | nil => rfl
  | cons d a ih =>
    simp only [List.mem_cons, not_or] at h
    obtain ⟨hd, ha⟩ := h
    have hstarts : (c :: old).isPrefixOf (d :: (a ++ b)) = false := by
      simp [List.isPrefixOf, hd]
    rw [List.cons_append, replaceFrom, hstarts]
    exact congrArg (d :: ·) (ih ha)

/-- A place that starts with a character that the rest of a template does not have is replaced where
it stands, and nothing else is. -/
lemma replace_once (ha : c ∉ a) (hb : c ∉ b) :
    replace (c :: old) new (a ++ (c :: old ++ b)) = a ++ (new ++ b) := by
  have hplace : (c :: old).isPrefixOf (c :: (old ++ b)) = true := by simp
  have hrest : replaceFrom (c :: old) new 0 b = b := by
    simpa [replaceFrom] using replaceFrom_append_of_not_mem hb []
  rw [replace, replaceFrom_append_of_not_mem ha, List.cons_append, replaceFrom, if_pos hplace]
  have hskip := replaceFrom_skip (c :: old) new old b
  rw [hrest] at hskip
  exact congrArg (fun rest => a ++ (new ++ rest)) hskip

end Text

/-! ## Assignments in a text -/

/-- What stands before the name of an assigned variable: `local` and a gap if it is local, else
nothing. -/
def IsLead (isLocal : Bool) (lead : Text) : Prop :=
  if isLocal then ∃ gap, lead = "local".toList ++ gap ∧ IsGap gap ∧ gap ≠ [] else lead = []

/-- Nothing stands before the name of a variable that is not local. -/
lemma isLead_false_iff {lead : Text} : IsLead false lead ↔ lead = [] := by
  simp [IsLead]

/-- The word and a gap stand before the name of a local variable. -/
lemma isLead_true_iff {lead : Text} :
    IsLead true lead ↔ ∃ gap, lead = "local".toList ++ gap ∧ IsGap gap ∧ gap ≠ [] := by
  simp only [IsLead, if_true]

/-- The text starts with the assignment of a variable: spaces and tabs, `local` if it is local, its
name, spaces and tabs and an equals sign. The value is what follows, which is no other equals
sign. -/
def Assigns (isLocal : Bool) (name t value : Text) : Prop :=
  ∃ indent lead blanks, t = indent ++ (lead ++ (name ++ (blanks ++ '=' :: value))) ∧ IsGap indent ∧
    IsLead isLocal lead ∧ IsGap blanks ∧ value.head? ≠ some '='

/-- The assignment of a variable starts at the offset, which is the start of a line. -/
def AssignmentAt (isLocal : Bool) (t name : Text) (offset : Nat) (value : Text) : Prop :=
  ∃ a b, t = a ++ b ∧ size a = offset ∧ EndsLine a ∧ Assigns isLocal name b value

/-- The assignments of a text are those at its places at starts of lines. -/
lemma assignmentAt_iff_exists_in {isLocal : Bool} {t name value : Text} {offset : Nat} :
    AssignmentAt isLocal t name offset value ↔ ∃ p, Cursor.In t p ∧ p.offset = offset ∧
      Anchor.lineStart.holds p = true ∧ Assigns isLocal name p.rest value := by
  simp only [holds_lineStart_iff]
  exact (exists_in_lineStart_iff (P := fun b => Assigns isLocal name b value)).symm

/-- A word: there is a character, and all are word characters. -/
def IsWord (name : Text) : Prop :=
  name ≠ [] ∧ ∀ c ∈ name, isWord c = true

variable {isLocal : Bool} {name t value : Text} {p q : Cursor}

/-- An assignment starts where its line does. -/
lemma AssignmentAt.lineStart_eq {offset : Nat} (h : AssignmentAt isLocal t name offset value) :
    t.lineStart offset = offset := by
  obtain ⟨a, b, rfl, rfl, ha, -⟩ := h
  have hstart := lineStart_append ha (l := []) (by simp) b
  simpa using hstart

/-! ## One assignment at most -/

/-- A text splits after a gap in one way only. -/
lemma gap_unique {a x a' x' : Text} (ha : IsGap a) (hx : ∀ c ∈ x.head?, c ≠ ' ' ∧ c ≠ '\t')
    (ha' : IsGap a') (hx' : ∀ c ∈ x'.head?, c ≠ ' ' ∧ c ≠ '\t') (h : a ++ x = a' ++ x') :
    a = a' ∧ x = x' :=
  run_unique (p := fun c => decide (c = ' ' ∨ c = '\t')) (fun c hc => decide_eq_true (ha c hc))
    (by simpa using hx) (fun c hc => decide_eq_true (ha' c hc)) (by simpa using hx') h

/-- Word characters are neither blanks nor equals signs. -/
lemma ne_of_isWord {c : Char} (h : isWord c = true) : c ≠ ' ' ∧ c ≠ '\t' ∧ c ≠ '=' := by
  refine ⟨?_, ?_, ?_⟩
  all_goals
    rintro rfl
    revert h
    decide

/-- What follows the name of a variable does not go on with it. -/
lemma isWord_head?_blanks {blanks : Text} (h : IsGap blanks) (value : Text) :
    ∀ c ∈ (blanks ++ '=' :: value).head?, isWord c = false := by
  intro c hc
  by_contra hword
  obtain ⟨hspace, htab, heq⟩ := ne_of_isWord (Bool.not_eq_false _ ▸ hword)
  cases blanks with
  | nil => exact heq (by simpa using hc.symm)
  | cons d blanks =>
    obtain rfl : d = c := by simpa using hc
    exact (h d List.mem_cons_self).elim hspace htab

/-- A name is not empty, and starts with a word character. -/
lemma IsWord.isWord_head? (h : IsWord name) (x : Text) :
    ∀ c ∈ (name ++ x).head?, isWord c = true := by
  obtain ⟨d, w, rfl⟩ := List.exists_cons_of_ne_nil h.1
  intro c hc
  obtain rfl : d = c := by simpa using hc
  exact h.2 d List.mem_cons_self

/-- A name and an equals sign behind it are found in one way only. -/
lemma name_unique {name' blanks blanks' value' : Text} (hname : IsWord name) (hname' : IsWord name')
    (hblanks : IsGap blanks) (hblanks' : IsGap blanks')
    (h : name ++ (blanks ++ '=' :: value) = name' ++ (blanks' ++ '=' :: value')) :
    name = name' ∧ value = value' := by
  obtain ⟨rfl, hrest⟩ := run_unique hname.2 (isWord_head?_blanks hblanks value) hname'.2
    (isWord_head?_blanks hblanks' value') h
  obtain ⟨-, hvalue⟩ := gap_unique hblanks (by simp) hblanks' (by simp) hrest
  exact ⟨rfl, (List.cons.inj hvalue).2⟩

/-- A name that is followed by an equals sign is not followed by another name. -/
lemma local_append_ne {gap name' blanks blanks' value' : Text} (hgap : IsGap gap) (hne : gap ≠ [])
    (hname : IsWord name) (hname' : IsWord name') (hblanks' : IsGap blanks') :
    "local".toList ++ gap ++ (name ++ (blanks ++ '=' :: value)) ≠
      name' ++ (blanks' ++ '=' :: value') := by
  intro h
  have hlocal : ∀ c ∈ "local".toList, isWord c = true := List.all_eq_true.mp (by decide)
  have hgaphead : ∀ c ∈ (gap ++ (name ++ (blanks ++ '=' :: value))).head?, isWord c = false := by
    obtain ⟨d, gap, rfl⟩ := List.exists_cons_of_ne_nil hne
    intro c hc
    obtain rfl : d = c := by simpa using hc
    rcases hgap d List.mem_cons_self with rfl | rfl
    · decide
    · decide
  rw [List.append_assoc] at h
  obtain ⟨-, hrest⟩ := run_unique hlocal hgaphead hname'.2 (isWord_head?_blanks hblanks' value') h
  have hhead := hname.isWord_head? (blanks ++ '=' :: value)
  obtain ⟨-, hequals⟩ := gap_unique hgap
    (fun c hc => ⟨(ne_of_isWord (hhead c hc)).1, (ne_of_isWord (hhead c hc)).2.1⟩)
      hblanks' (by simp) hrest
  rw [hequals] at hhead
  exact (ne_of_isWord (hhead '=' rfl)).2.2 rfl

/-- Behind the indent of an assignment there is no blank. -/
lemma IsLead.head?_ne {lead : Text} (hlead : IsLead isLocal lead) (hname : IsWord name) (x : Text) :
    ∀ c ∈ (lead ++ (name ++ x)).head?, c ≠ ' ' ∧ c ≠ '\t' := by
  have hword : ∀ c ∈ (lead ++ (name ++ x)).head?, isWord c = true := by
    cases isLocal with
    | false =>
      obtain rfl := isLead_false_iff.mp hlead
      exact hname.isWord_head? x
    | true =>
      obtain ⟨gap, rfl, -⟩ := isLead_true_iff.mp hlead
      intro c hc
      obtain rfl : 'l' = c := by simpa using hc
      decide
  exact fun c hc => ⟨(ne_of_isWord (hword c hc)).1, (ne_of_isWord (hword c hc)).2.1⟩

/-- The value of an assignment is what follows the first equals sign. -/
lemma Assigns.tail_dropWhile (h : Assigns isLocal name t value) (hname : IsWord name) :
    (t.dropWhile (· != '=')).tail = value := by
  obtain ⟨indent, lead, blanks, rfl, hindent, hlead, hblanks, -⟩ := h
  have hgap : ∀ {w : Text}, IsGap w → '=' ∉ w := fun hw hmem => by simpa using hw '=' hmem
  have hlead : '=' ∉ lead := by
    cases isLocal with
    | false => simp [isLead_false_iff.mp hlead]
    | true =>
      obtain ⟨gap, rfl, hblank, -⟩ := isLead_true_iff.mp hlead
      have hlocal : '=' ∉ "local".toList := by decide
      simp only [List.mem_append, not_or]
      exact ⟨hlocal, hgap hblank⟩
  have hbefore : '=' ∉ indent ++ (lead ++ (name ++ blanks)) := by
    simp only [List.mem_append, not_or]
    exact ⟨hgap hindent, hlead, fun hmem => (ne_of_isWord (hname.2 '=' hmem)).2.2 rfl, hgap hblanks⟩
  have hall : ∀ c ∈ indent ++ (lead ++ (name ++ blanks)), (c != '=') = true := by
    intro c hc
    rw [bne_iff_ne]
    rintro rfl
    exact hbefore hc
  have hdrop := dropWhile_run hall (x := '=' :: value) (by simp)
  have hassoc : indent ++ (lead ++ (name ++ (blanks ++ '=' :: value))) =
      indent ++ (lead ++ (name ++ blanks)) ++ '=' :: value := by simp
  rw [hassoc, hdrop, List.tail_cons]

/-- **A text starts with one assignment at most.**

**Proof sketch.** The indent is the blanks in front, as none starts the rest. Behind `local` and a
gap there is a name, so it is not the name of a global variable; and a name is the word characters
up to the first other one. -/
lemma Assigns.unique {isLocal' : Bool} {name' value' : Text} (h : Assigns isLocal name t value)
    (h' : Assigns isLocal' name' t value') (hname : IsWord name) (hname' : IsWord name') :
    isLocal = isLocal' ∧ name = name' ∧ value = value' := by
  obtain ⟨indent, lead, blanks, rfl, hindent, hlead, hblanks, -⟩ := h
  obtain ⟨indent', lead', blanks', ht, hindent', hlead', hblanks', -⟩ := h'
  obtain ⟨-, hrest⟩ :=
    gap_unique hindent (hlead.head?_ne hname _) hindent' (hlead'.head?_ne hname' _) ht
  cases isLocal with
  | false =>
    obtain rfl := isLead_false_iff.mp hlead
    cases isLocal' with
    | false =>
      obtain rfl := isLead_false_iff.mp hlead'
      exact ⟨rfl, name_unique hname hname' hblanks hblanks' hrest⟩
    | true =>
      obtain ⟨gap', rfl, hgap', hne'⟩ := isLead_true_iff.mp hlead'
      exact absurd hrest.symm (local_append_ne hgap' hne' hname' hname hblanks)
  | true =>
    obtain ⟨gap, rfl, hgap, hne⟩ := isLead_true_iff.mp hlead
    cases isLocal' with
    | false =>
      obtain rfl := isLead_false_iff.mp hlead'
      exact absurd hrest (local_append_ne hgap hne hname hname' hblanks')
    | true =>
      obtain ⟨gap', rfl, hgap', -⟩ := isLead_true_iff.mp hlead'
      simp only [List.append_assoc] at hrest
      have hname₀ := (isLead_false_iff.mpr rfl).head?_ne hname (blanks ++ '=' :: value)
      have hname₁ := (isLead_false_iff.mpr rfl).head?_ne hname' (blanks' ++ '=' :: value')
      obtain ⟨-, hnames⟩ := gap_unique hgap hname₀ hgap' hname₁ (List.append_cancel_left hrest)
      exact ⟨rfl, name_unique hname hname' hblanks hblanks' hnames⟩

/-! ## The pattern as it is written -/

/-- What a pattern has before the name of a variable, as it is written. -/
def writtenLead (isLocal : Bool) : Text :=
  if isLocal then "local[ \\t]+".toList else []

/-- The written form of the pattern of an assignment, with `written` in the place of the name. -/
def assignmentPattern (isLocal : Bool) (written : Text) : Text :=
  "(?m)^[ \\t]*".toList ++ writtenLead isLocal ++ (written ++ "[ \\t]*=(?:[^=]|$)".toList)

/-- Filling the template of an assignment gives the pattern. -/
lemma replace_assignmentPattern (isLocal : Bool) (written : Text) :
    Text.replace namePlace written (assignmentPattern isLocal namePlace) =
      assignmentPattern isLocal written := by
  have hplace : namePlace = '\x7b' :: "name\x7d".toList := by decide
  have hbefore : '\x7b' ∉ "(?m)^[ \\t]*".toList ++ writtenLead isLocal := by
    cases isLocal <;> decide
  have hafter : '\x7b' ∉ "[ \\t]*=(?:[^=]|$)".toList := by decide
  unfold assignmentPattern
  rw [hplace]
  exact replace_once hbefore hafter

/-- What follows the equals sign, as it is written. -/
def writtenValue : Expr :=
  .alt (.char (.compl (.unions [.single '=']))) (.anchor .lineEnd)

/-- The parts of the pattern before the name. -/
def leadParts (isLocal : Bool) : List Expr :=
  if isLocal then Expr.charParts "local".toList ++ [.someOf writtenBlank] else []

/-- The parts of the pattern from the start of the line up to the name. -/
def startParts (isLocal : Bool) : List Expr :=
  [.anchor .lineStart, .anyOf writtenBlank] ++ leadParts isLocal

/-- The parts of the pattern between the name and the value. -/
def equalsParts : List Expr :=
  [.anyOf writtenBlank] ++ Expr.charParts ['=']

/-- The parts of the pattern of an assignment, with `names` in the place of the name. -/
def assignmentParts (isLocal : Bool) (names : List Expr) : List Expr :=
  startParts isLocal ++ (names ++ (equalsParts ++ [writtenValue]))

namespace Pattern

variable {s : State}

/-- What follows the equals sign is read as a choice. -/
lemma readsTo_writtenValue (hflags : s.flags = { multiLine := true }) :
    ReadsTo s "(?:[^=]|$)".toList (s.pushParts [⟨writtenValue, 3⟩]) [] :=
  @readsTo_classOrEnd s hflags "^=]".toList _ rfl

/-- The parts before the name, with their depths. -/
def leadReading (isLocal : Bool) : List Part :=
  if isLocal then textParts "local".toList ++ [⟨.someOf writtenBlank, 3⟩] else []

/-- The parts that follow the start of the line, with their depths. -/
def assignmentReading (isLocal : Bool) (name : Text) : List Part :=
  [⟨.anyOf writtenBlank, 3⟩] ++ (leadReading isLocal ++ (textParts name ++
    ([⟨.anyOf writtenBlank, 3⟩] ++ (textParts ['='] ++ [⟨writtenValue, 3⟩]))))

/-- The blanks at the start of a line and what comes before the name. The name must not make the
repetition before it lazy. -/
lemma readsTo_lead (hflags : s.flags = { multiLine := true }) (isLocal : Bool) {rest : Text}
    (hgreed : readGreed rest = (true, rest)) :
    ReadsTo s ("[ \\t]".toList ++ '*' :: (writtenLead isLocal ++ rest))
      (s.pushParts ([⟨.anyOf writtenBlank, 3⟩] ++ leadReading isLocal)) rest := by
  rw [State.pushParts_append]
  cases isLocal with
  | false => exact readsTo_blanks hflags (.head _) hgreed
  | true =>
    have hsplit : writtenLead true ++ rest =
        "local".toList ++ ("[ \\t]".toList ++ '+' :: rest) := by
      have hlead : writtenLead true = "local".toList ++ ("[ \\t]".toList ++ ['+']) := by decide
      rw [hlead]
      simp only [List.append_assoc, List.cons_append, List.nil_append]
    have hreading : leadReading true = textParts "local".toList ++ [⟨.someOf writtenBlank, 3⟩] :=
      rfl
    have hall : ("local".toList.all fun c => decide (c ∉ operators)) = true := by decide
    have hlocal : ∀ c ∈ "local".toList, c ∉ operators :=
      fun c hc => of_decide_eq_true (List.all_eq_true.mp hall c hc)
    rw [hsplit, hreading, State.pushParts_append]
    refine (readsTo_blanks hflags (.head _) rfl).trans ?_
    refine (readsTo_plain ?_ hlocal _).trans (readsTo_blanks ?_ (.tail _ (.head _)) hgreed)
    · rw [State.flags_pushParts, hflags]
    · rw [State.flags_pushParts, State.flags_pushParts, hflags]

/-- The written pattern of an assignment is read as its parts, behind the start of a line. -/
lemma readsTo_assignmentPattern (isLocal : Bool) (name : Text) :
    ReadsTo State.start (assignmentPattern isLocal (escape name))
      (atLineStart.pushParts (assignmentReading isLocal name)) [] := by
  have hsplit : assignmentPattern isLocal (escape name) = "(?m)^".toList ++ ("[ \\t]".toList ++
      '*' :: (writtenLead isLocal ++ (escape name ++ ("[ \\t]".toList ++
        '*' :: (['='] ++ "(?:[^=]|$)".toList))))) := by
    have hstart : "(?m)^[ \\t]*".toList = "(?m)^".toList ++ ("[ \\t]".toList ++ ['*']) := by decide
    have hend : "[ \\t]*=(?:[^=]|$)".toList = "[ \\t]".toList ++
        '*' :: (['='] ++ "(?:[^=]|$)".toList) := by decide
    unfold assignmentPattern
    rw [hstart, hend]
    simp only [List.append_assoc, List.cons_append, List.nil_append]
  have hequals : ∀ c ∈ ['='], c ∉ operators := List.forall_mem_singleton.mpr (by decide)
  rw [hsplit, assignmentReading, ← List.append_assoc]
  refine (readsTo_atLineStart _).trans ?_
  have hgreed := readGreed_escape name (by decide : '[' ≠ '?')
    (" \\t]*=".toList ++ "(?:[^=]|$)".toList)
  refine ReadsTo.trans (readsTo_lead rfl isLocal hgreed) ?_
  simp only [State.pushParts_append]
  refine (readsTo_escape ?_ name _).trans ?_
  · simp only [State.flags_pushParts]
    rfl
  refine (readsTo_blanks ?_ (.head _) rfl).trans ?_
  · simp only [State.flags_pushParts]
    rfl
  refine (readsTo_plain ?_ hequals _).trans (readsTo_writtenValue ?_)
  · simp only [State.flags_pushParts]
    rfl
  · simp only [State.flags_pushParts]
    rfl

/-- The parts of the pattern are the start of a line and those that are read. -/
lemma assignmentParts_eq (isLocal : Bool) (name : Text) :
    assignmentParts isLocal (Expr.charParts name) =
      .anchor .lineStart :: (assignmentReading isLocal name).map Part.expr := by
  have hlead : (leadReading isLocal).map Part.expr = leadParts isLocal := by
    cases isLocal <;> rfl
  simp only [assignmentParts, startParts, equalsParts, assignmentReading, List.map_append,
    map_expr_textParts, hlead, List.append_assoc]
  rfl

/-- No part of the pattern is deeper than three levels. -/
lemma depth_of_mem_assignmentReading {part : Part} (h : part ∈ assignmentReading isLocal name) :
    part.depth ≤ 3 := by
  have hlead : ∀ part ∈ leadReading isLocal, part.depth ≤ 3 := by
    cases isLocal <;> decide
  simp only [assignmentReading, List.mem_append, List.mem_singleton] at h
  rcases h with rfl | h | h | rfl | h | rfl
  · exact Nat.le_refl 3
  · exact hlead part h
  · exact depth_of_mem_textParts h ▸ Nat.zero_le 3
  · exact Nat.le_refl 3
  · exact depth_of_mem_textParts h ▸ Nat.zero_le 3
  · exact Nat.le_refl 3

end Pattern

/-- The memory that the pattern of an assignment needs. -/
def assignmentWeight (isLocal : Bool) (name : Text) : Nat :=
  (if isLocal then 1688 else 1408) + 32 * size name

/-- The parts of the pattern weigh what the name makes of it. -/
lemma totalWeight_assignmentParts (isLocal : Bool) (name : Text) :
    Expr.totalWeight (assignmentParts isLocal (Expr.charParts name)) =
      assignmentWeight isLocal name := by
  have hstart : Expr.totalWeight (startParts isLocal) = if isLocal then 432 else 152 := by
    cases isLocal <;> decide
  have hequals : Expr.totalWeight equalsParts = 152 := by decide
  have hvalue : Expr.totalWeight [writtenValue] = 1104 := by decide
  rw [assignmentParts, assignmentWeight]
  simp only [Expr.totalWeight_append, Expr.totalWeight_charParts, hstart, hequals, hvalue]
  split <;> omega

/-- **The written form of the pattern of an assignment** is read as its parts, unless the name is so
long that the pattern needs too much memory. -/
lemma read?_assignmentPattern (isLocal : Bool) (name : Text) :
    Pattern.read? (assignmentPattern isLocal (Pattern.escape name)) =
      if assignmentWeight isLocal name ≤ Expr.weightLimit then
        some { source := assignmentPattern isLocal (Pattern.escape name),
               expr := Expr.seqs (assignmentParts isLocal (Expr.charParts name)), names := [] }
      else none := by
  have hread := Pattern.read_of_readsTo (Pattern.readsTo_assignmentPattern isLocal name)
    (by simp [Pattern.assignmentReading]) fun part hpart =>
      Nat.lt_of_le_of_lt (Pattern.depth_of_mem_assignmentReading hpart) (by decide)
  rw [← Pattern.assignmentParts_eq, totalWeight_assignmentParts] at hread
  rw [Pattern.read?, hread]
  split <;> rfl

/-! ## Where the pattern matches -/

/-- The parts before the name lead over what stands before it. -/
lemma reaches_leadParts_iff :
    (Expr.seqs (leadParts isLocal)).Reaches p q ↔ ∃ lead, p.Reads lead q ∧ IsLead isLocal lead := by
  cases isLocal with
  | false =>
    simp only [isLead_false_iff, exists_eq_right, Cursor.reads_nil_iff]
    rfl
  | true =>
    have hparts : leadParts true = Expr.charParts "local".toList ++ [.someOf writtenBlank] := rfl
    have hone : Expr.seqs [.someOf writtenBlank] = .someOf writtenBlank := rfl
    simp only [hparts, hone, Expr.reaches_seqs_append, Expr.reaches_seqs_charParts_iff,
      reaches_someGap_iff, isLead_true_iff]
    constructor
    · rintro ⟨m, hlocal, gap, hgap, hblank, hne⟩
      exact ⟨_, hlocal.trans hgap, gap, rfl, hblank, hne⟩
    · rintro ⟨_, hreads, gap, rfl, hblank, hne⟩
      obtain ⟨m, hlocal, hgap⟩ := Cursor.reads_append_iff.mp hreads
      exact ⟨m, hlocal, gap, hgap, hblank, hne⟩

/-- From the start of a line up to the name of an assigned variable. -/
def LeadsToName (isLocal : Bool) (p q : Cursor) : Prop :=
  Anchor.lineStart.holds p = true ∧
    ∃ indent lead, p.Reads (indent ++ lead) q ∧ IsGap indent ∧ IsLead isLocal lead

/-- From behind the name of an assigned variable to its value. -/
def LeadsToValue (p q : Cursor) : Prop :=
  ∃ blanks, p.Reads (blanks ++ ['=']) q ∧ IsGap blanks

/-- The parts up to the name lead from the start of a line to the name. -/
lemma reaches_startParts_iff :
    (Expr.seqs (startParts isLocal)).Reaches p q ↔ LeadsToName isLocal p q := by
  have hstart : ∀ m, (Expr.seqs [.anchor .lineStart, .anyOf writtenBlank]).Reaches p m ↔
      Anchor.lineStart.holds p = true ∧ ∃ w, p.Reads w m ∧ IsGap w := by
    intro m
    rw [← reaches_gap_iff]
    constructor
    · rintro ⟨_, ⟨hholds, rfl⟩, hgap⟩
      exact ⟨hholds, hgap⟩
    · rintro ⟨hholds, hgap⟩
      exact ⟨p, ⟨hholds, rfl⟩, hgap⟩
  rw [startParts, Expr.reaches_seqs_append]
  simp only [hstart, reaches_leadParts_iff]
  constructor
  · rintro ⟨m, ⟨hholds, indent, hindent, hgap⟩, lead, hlead, his⟩
    exact ⟨hholds, indent, lead, hindent.trans hlead, hgap, his⟩
  · rintro ⟨hholds, indent, lead, hreads, hgap, his⟩
    obtain ⟨m, hindent, hlead⟩ := Cursor.reads_append_iff.mp hreads
    exact ⟨m, ⟨hholds, indent, hindent, hgap⟩, lead, hlead, his⟩

/-- The parts between name and value lead over the equals sign. -/
lemma reaches_equalsParts_iff : (Expr.seqs equalsParts).Reaches p q ↔ LeadsToValue p q := by
  have hone : Expr.seqs [.anyOf writtenBlank] = .anyOf writtenBlank := rfl
  simp only [equalsParts, Expr.reaches_seqs_append, hone, reaches_gap_iff,
    Expr.reaches_seqs_charParts_iff]
  constructor
  · rintro ⟨m, ⟨blanks, hblanks, hgap⟩, hequals⟩
    exact ⟨blanks, hblanks.trans hequals, hgap⟩
  · rintro ⟨blanks, hreads, hgap⟩
    obtain ⟨m, hblanks, hequals⟩ := Cursor.reads_append_iff.mp hreads
    exact ⟨m, ⟨blanks, hblanks, hgap⟩, hequals⟩

/-- Any character but an equals sign may start a value. -/
lemma mem_writtenValue_iff {c : Char} :
    (CharClass.compl (.unions [.single '='])).mem c = true ↔ c ≠ '=' := by
  have hsingle := CharClass.mem_single_iff (c := '=') (d := c)
  simp only [CharClass.mem, CharClass.unions, List.foldr_cons, List.foldr_nil, Bool.or_false,
    Bool.not_eq_true']
  rw [← Bool.not_eq_true, hsingle]

/-- The value is reached unless a second equals sign follows: its first character is read, or the
end of the line is there. -/
lemma exists_reaches_writtenValue_iff :
    (∃ q, writtenValue.Reaches p q) ↔ p.rest.head? ≠ some '=' := by
  rw [writtenValue, Expr.exists_reaches_classOrEnd_iff]
  constructor
  · intro h hhead
    rcases h '=' hhead with hmem | hfeed
    · exact absurd rfl (mem_writtenValue_iff.mp hmem)
    · exact absurd hfeed (by decide)
  · intro h c hc
    exact .inl (mem_writtenValue_iff.mpr fun heq => h (heq ▸ hc))

/-- At most one character of the value is gone over. -/
lemma exists_reads_of_reaches_writtenValue (h : writtenValue.Reaches p q) :
    ∃ w, p.Reads w q ∧ w.length ≤ 1 := by
  rcases h with ⟨c, -, hreads⟩ | ⟨-, rfl⟩
  · exact ⟨[c], hreads, Nat.le_refl 1⟩
  · exact ⟨[], Cursor.Reads.refl q, Nat.zero_le 1⟩

/-- A text starts with an assignment iff one can go over its parts. -/
lemma assigns_iff_exists_reads :
    (Anchor.lineStart.holds p = true ∧ Assigns isLocal name p.rest value) ↔
      ∃ x y z, LeadsToName isLocal p x ∧ x.Reads name y ∧ LeadsToValue y z ∧ z.rest = value ∧
        value.head? ≠ some '=' := by
  constructor
  · rintro ⟨hholds, indent, lead, blanks, hrest, hindent, hlead, hblanks, hvalue⟩
    have hsplit : p.rest = (indent ++ lead) ++ (name ++ ((blanks ++ ['=']) ++ value)) := by
      simpa using hrest
    obtain ⟨x, hx, hrest⟩ := Cursor.exists_reads hsplit
    obtain ⟨y, hy, hrest⟩ := Cursor.exists_reads hrest
    obtain ⟨z, hz, hrest⟩ := Cursor.exists_reads hrest
    exact ⟨x, y, z, ⟨hholds, indent, lead, hx, hindent, hlead⟩, hy,
      ⟨blanks, hz, hblanks⟩, hrest, hvalue⟩
  · rintro ⟨x, y, z, ⟨hholds, indent, lead, hx, hindent, hlead⟩, hy,
      ⟨blanks, hz, hblanks⟩, rfl, hvalue⟩
    refine ⟨hholds, indent, lead, blanks, ?_, hindent, hlead, hblanks, hvalue⟩
    simpa using ((hx.trans hy).trans hz).rest

/-- The pattern of an assignment leads over its parts. -/
lemma reaches_assignmentParts_iff {names : List Expr} :
    (Expr.seqs (assignmentParts isLocal names)).Reaches p q ↔
      ∃ x y z, LeadsToName isLocal p x ∧ (Expr.seqs names).Reaches x y ∧ LeadsToValue y z ∧
        writtenValue.Reaches z q := by
  have hone : Expr.seqs [writtenValue] = writtenValue := rfl
  simp only [assignmentParts, Expr.reaches_seqs_append, reaches_startParts_iff,
    reaches_equalsParts_iff, hone, exists_and_left]

/-- The pattern of an assignment leads somewhere where a text starts with one. -/
lemma exists_reaches_assignmentParts_iff :
    (∃ q, (Expr.seqs (assignmentParts isLocal (Expr.charParts name))).Reaches p q) ↔
      Anchor.lineStart.holds p = true ∧ ∃ value, Assigns isLocal name p.rest value := by
  simp only [reaches_assignmentParts_iff, Expr.reaches_seqs_charParts_iff]
  constructor
  · rintro ⟨q, x, y, z, hx, hy, hz, hq⟩
    obtain ⟨hholds, hassigns⟩ := assigns_iff_exists_reads.mpr
      ⟨x, y, z, hx, hy, hz, rfl, exists_reaches_writtenValue_iff.mp ⟨q, hq⟩⟩
    exact ⟨hholds, z.rest, hassigns⟩
  · rintro ⟨hholds, value, hassigns⟩
    obtain ⟨x, y, z, hx, hy, hz, rfl, hvalue⟩ := assigns_iff_exists_reads.mp ⟨hholds, hassigns⟩
    obtain ⟨q, hq⟩ := exists_reaches_writtenValue_iff.mpr hvalue
    exact ⟨q, x, y, z, hx, hy, hz, hq⟩

/-- What stands before the name is on one line. -/
lemma IsLead.not_mem_lineFeed {lead : Text} (h : IsLead isLocal lead) : '\n' ∉ lead := by
  cases isLocal with
  | false => simp [isLead_false_iff.mp h]
  | true =>
    obtain ⟨gap, rfl, hgap, -⟩ := isLead_true_iff.mp h
    have hlocal : '\n' ∉ "local".toList := by decide
    simp only [List.mem_append, not_or]
    exact ⟨hlocal, hgap.not_mem_lineFeed⟩

/-- The pattern of an assignment keeps to its line if what stands for the name does. -/
lemma keepsToLine_assignmentParts {names : List Expr}
    (hplain : (Expr.seqs (assignmentParts isLocal names)).isPlain = true)
    (hnames : ∀ x y, (Expr.seqs names).Reaches x y → ∃ w, x.Reads w y ∧ '\n' ∉ w) :
    (Expr.seqs (assignmentParts isLocal names)).KeepsToLine := by
  refine Expr.keepsToLine_of_reaches hplain fun p q hq => ?_
  obtain ⟨x, y, z, ⟨hholds, indent, lead, hx, hindent, hlead⟩, hy, ⟨blanks, hz, hblanks⟩, hq⟩ :=
    reaches_assignmentParts_iff.mp hq
  obtain ⟨w, hw, hfeed⟩ := hnames x y hy
  obtain ⟨last, hlast, hlength⟩ := exists_reads_of_reaches_writtenValue hq
  refine ⟨hholds, _, ((hx.trans hw).trans hz).trans hlast, by simp, ?_⟩
  -- Only the last character can be a line feed.
  have hfront : '\n' ∉ indent ++ lead ++ w ++ (blanks ++ ['=']) := by
    simp only [List.mem_append, not_or]
    exact ⟨⟨⟨hindent.not_mem_lineFeed, hlead.not_mem_lineFeed⟩, hfeed⟩, hblanks.not_mem_lineFeed,
      by decide⟩
  rcases last with _ | ⟨c, _ | ⟨d, last⟩⟩
  · rw [List.append_nil]
    exact fun hmem => hfront (List.dropLast_subset _ hmem)
  · rwa [List.dropLast_concat]
  · simp at hlength

/-- The pattern of an assignment repeats nothing but characters if that of the name does not. -/
lemma isPlain_assignmentParts (isLocal : Bool) {names : List Expr}
    (h : ∀ e ∈ names, e.isPlain = true) :
    (Expr.seqs (assignmentParts isLocal names)).isPlain = true := by
  have hstart : ∀ e ∈ startParts isLocal, e.isPlain = true := by
    cases isLocal <;> decide
  have hend : ∀ e ∈ equalsParts ++ [writtenValue], e.isPlain = true := by decide
  refine Expr.isPlain_seqs fun e he => ?_
  simp only [assignmentParts, List.mem_append (s := startParts isLocal),
    List.mem_append (s := names)] at he
  rcases he with he | he | he
  · exact hstart e he
  · exact h e he
  · exact hend e he

/-- **The matches of the pattern of an assignment start where assignments do.**

**Proof sketch.** A match stays on its line, so that no match hides another one. The parts of the
pattern lead over an indent, what stands before the name, the name and the equals sign, which is
what an assignment is. -/
lemma exists_mem_findAll_assignment_iff (hname : '\n' ∉ name) {offset : Nat} :
    (∃ m ∈ (Expr.seqs (assignmentParts isLocal (Expr.charParts name))).findAll t,
      m.start.offset = offset) ↔ ∃ value, AssignmentAt isLocal t name offset value := by
  have hchars : ∀ e ∈ Expr.charParts name, e.isPlain = true := by
    intro e he
    obtain ⟨c, -, rfl⟩ := List.mem_map.mp he
    rfl
  have hplain := isPlain_assignmentParts isLocal hchars
  have hkeeps := keepsToLine_assignmentParts hplain fun x y h =>
    ⟨name, Expr.reaches_seqs_charParts_iff.mp h, hname⟩
  rw [hkeeps.exists_mem_findAll_iff hplain]
  simp only [exists_reaches_assignmentParts_iff, assignmentAt_iff_exists_in]
  constructor
  · rintro ⟨p, hin, hoffset, hholds, value, hassigns⟩
    exact ⟨value, p, hin, hoffset, hholds, hassigns⟩
  · rintro ⟨value, p, hin, hoffset, hholds, hassigns⟩
    exact ⟨p, hin, hoffset, hholds, value, hassigns⟩

/-! ## The default templates -/

/-- The default pattern of local assignments is the written one. -/
lemma localAssignment_default :
    ({} : PatternSettings).localAssignment = assignmentPattern true namePlace := by
  decide

/-- The default pattern of global assignments is the written one. -/
lemma globalAssignment_default :
    ({} : PatternSettings).globalAssignment = assignmentPattern false namePlace := by
  decide

namespace Context

variable {ctx : Context}

/-- The pattern for an assignment of a variable. -/
def assignment? (ctx : Context) (isLocal : Bool) (name : Text) : Option Pattern :=
  if isLocal then ctx.localAssignment? name else ctx.globalAssignment? name

/-- The context has the default templates of assignments. -/
def HasDefaultTemplates (ctx : Context) : Prop :=
  ctx.localTemplate = ({} : PatternSettings).localAssignment ∧
    ctx.globalTemplate = ({} : PatternSettings).globalAssignment

/-- The pattern that the default template of an assignment gives for a name. -/
lemma assignment?_of_default (h : ctx.HasDefaultTemplates) (isLocal : Bool) (name : Text) :
    ctx.assignment? isLocal name =
      if assignmentWeight isLocal name ≤ Expr.weightLimit then
        some { source := assignmentPattern isLocal (Pattern.escape name),
               expr := Expr.seqs (assignmentParts isLocal (Expr.charParts name)), names := [] }
      else none := by
  rw [← read?_assignmentPattern]
  cases isLocal with
  | false =>
    have hfill := replace_assignmentPattern false (Pattern.escape name)
    rw [← globalAssignment_default, ← h.2] at hfill
    exact congrArg Pattern.read? hfill
  | true =>
    have hfill := replace_assignmentPattern true (Pattern.escape name)
    rw [← localAssignment_default, ← h.1] at hfill
    exact congrArg Pattern.read? hfill

/-- **The assignments that the default templates find** are those that start at the offset. -/
lemma exists_mem_findAll_iff_of_default (h : ctx.HasDefaultTemplates) (hname : '\n' ∉ name)
    {pattern : Pattern} (hpattern : ctx.assignment? isLocal name = some pattern) {offset : Nat} :
    (∃ m ∈ pattern.expr.findAll t, m.start.offset = offset) ↔
      ∃ value, AssignmentAt isLocal t name offset value := by
  rw [assignment?_of_default h] at hpattern
  obtain ⟨-, rfl⟩ := Option.ite_none_right_eq_some.mp hpattern |>.imp_right Option.some.inj
  exact exists_mem_findAll_assignment_iff hname

end Context

end Gloss
