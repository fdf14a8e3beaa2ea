import Gloss.Note.Network
import Gloss.Proofs.Call.Quote
import Gloss.Proofs.Call.Split
import Gloss.Proofs.Note.AssignedName

/-!
# Tables for the editor

A networked field with a slot may be followed by a table for the editor. Braces do not count when
arguments are split, so the commas of the table cut it into any number of pieces, and it may leave
strings and parentheses open. None of this reaches the field: its three arguments end with a name in
quotes, behind which no string and no parenthesis is open, and of the table only the opening brace
is looked at.

## Main results

* `piecesFrom_append_comma`: behind a comma that separates arguments the splitter starts anew.
* `cutsBehind_of_nameLiteral?`: a name in quotes leaves no string and no parenthesis open.
* `NetworkField.ofArguments?_append_table`: a table for the editor does not change the field.
-/

set_option relaxedAutoImplicit false
set_option autoImplicit false

namespace Gloss

open Text

/-! ## Pieces in front of a comma -/

section

variable {nesting : Nesting} {q : QuoteState} {depth : Nat} {before : Option Char}

/-- Changing the first piece leaves the pieces behind as they are. -/
lemma modifyHead_append {pieces : List Text} (hne : pieces ≠ []) (f : Text → Text)
    (more : List Text) :
    (pieces ++ more).modifyHead f = pieces.modifyHead f ++ more := by
  obtain ⟨first, rest, rfl⟩ := List.exists_cons_of_ne_nil hne
  rfl

/-- **Behind a comma that separates arguments the splitter starts anew**: the pieces are those
before the comma and those behind it.

**Proof sketch.** Induction on the part before the comma. At the comma no string is open and the
depth is zero. -/
lemma piecesFrom_append_comma {a : Text} (h : CutsBehind nesting q depth before a) (rest : Text) :
    piecesFrom nesting q depth before (a ++ ',' :: rest) =
      piecesFrom nesting q depth before a ++ piecesFrom nesting none 0 (some ',') rest := by
  induction a generalizing q depth before with
  | nil =>
    have hcut := h
    obtain ⟨rfl, rfl⟩ : q = none ∧ depth = 0 := h
    have hdepth : nesting.depthNext none 0 ',' = 0 := by cases nesting <;> rfl
    rw [List.nil_append, piecesFrom_cons_of_cut hcut, hdepth]
    rfl
  | cons c a ih =>
    have hrest := ih ((cutsBehind_cons a).mp h)
    by_cases hcut : c = ',' ∧ CutsBehind nesting q depth before []
    · obtain ⟨rfl, hcut⟩ := hcut
      rw [List.cons_append, piecesFrom_cons_of_cut hcut, piecesFrom_cons_of_cut hcut, hrest]
      rfl
    · rw [List.cons_append, piecesFrom_cons_of_not_cut (not_and.mp hcut),
        piecesFrom_cons_of_not_cut (not_and.mp hcut), hrest,
          modifyHead_append (piecesFrom_ne_nil a)]

/-- Parentheses that count only make fewer pieces. -/
lemma length_piecesFrom_le (t : Text) :
    (piecesFrom nesting q depth before t).length ≤ (piecesFrom .flat q 0 before t).length := by
  induction t generalizing q depth before with
  | nil => exact Nat.le_refl _
  | cons c t ih =>
    have hflat : Nesting.flat.depthNext q 0 c = 0 := ite_self 0
    by_cases hcut : c = ',' ∧ CutsBehind nesting q depth before []
    · obtain ⟨rfl, hcut⟩ := hcut
      have hcut' : CutsBehind .flat q 0 before [] := ⟨hcut.1, rfl⟩
      rw [piecesFrom_cons_of_cut hcut, piecesFrom_cons_of_cut hcut', hflat]
      exact Nat.succ_le_succ ih
    · rw [piecesFrom_cons_of_not_cut (not_and.mp hcut), List.length_modifyHead]
      refine Nat.le_trans ih ?_
      by_cases hcut' : c = ',' ∧ CutsBehind .flat q 0 before []
      · obtain ⟨rfl, hcut'⟩ := hcut'
        rw [piecesFrom_cons_of_cut hcut', hflat]
        exact Nat.le_succ _
      · rw [piecesFrom_cons_of_not_cut (not_and.mp hcut'), List.length_modifyHead, hflat]

/-- A text without parentheses does not change the depth. -/
lemma depthAlong_of_not_mem {t : Text} (hopen : '(' ∉ t) (hclose : ')' ∉ t) :
    nesting.depthAlong q depth before t = depth := by
  induction t generalizing q before with
  | nil => rfl
  | cons c t ih =>
    rw [List.mem_cons, not_or] at hopen hclose
    have hnext : nesting.depthNext q depth c = depth := by
      cases nesting with
      | flat => exact ite_self depth
      | nested => simp [Nesting.depthNext, Nesting.depthAfter, Ne.symm hopen.1, Ne.symm hclose.1]
    rw [Nesting.depthAlong, hnext, ih hopen.2 hclose.2]

/-- A string that holds a name closes at its end. -/
lemma run_of_name {quote : Char} {name : Text} (hquote : isQuote quote = true)
    (hname : isIdentifier name = true) (hinside : closesWithin quote (some quote) name = false) :
    QuoteState.run none before (quote :: (name ++ [quote])) = none := by
  have hlast : name.getLast?.or (some quote) ≠ some '\\' := by
    rw [List.getLast?_eq_some_getLast (ne_nil_of_isIdentifier hname), Option.some_or, ne_eq,
      Option.some.injEq]
    intro hlast
    have hmem : '\\' ∈ name := hlast ▸ List.getLast_mem _
    exact absurd (continuesIdentifier_of_mem hname hmem) (by decide)
  rw [QuoteState.run_cons, QuoteState.next_none, if_pos hquote, QuoteState.run_append,
    run_of_closesWithin hinside, QuoteState.run_cons, QuoteState.run_nil, QuoteState.next]
  exact if_pos ⟨rfl, hlast⟩

/-- **A name in quotes leaves no string and no parenthesis open.**

**Proof sketch.** The piece is white space, a quote, the characters of an identifier, the same quote
and white space. The second quote closes the string, and no character is a parenthesis. -/
lemma cutsBehind_of_nameLiteral? {piece name : Text} (h : nameLiteral? piece.trim = some name) :
    CutsBehind nesting none 0 before piece := by
  obtain ⟨hliteral, hname⟩ := Option.filter_eq_some_iff.mp h
  obtain ⟨quote, hquote, htrim, hinside⟩ :=
    (stringLiteral?_eq_some_iff (trim_trim piece)).mp hliteral
  obtain ⟨a, b, hpiece, ha, hb, -⟩ := exists_eq_append_trim piece
  rw [htrim] at hpiece
  have hparen : ∀ c, isBlank c = false → isQuote c = false → continuesIdentifier c = false →
      c ∉ piece := by
    intro c hblank hnot hcontinues hc
    rw [hpiece] at hc
    simp only [List.mem_append, List.mem_cons, List.not_mem_nil, or_false] at hc
    rcases hc with (hc | rfl | hc | rfl) | hc
    · simp [ha c hc] at hblank
    · simp [hquote] at hnot
    · simp [continuesIdentifier_of_mem hname hc] at hcontinues
    · simp [hquote] at hnot
    · simp [hb c hc] at hblank
  refine ⟨?_, depthAlong_of_not_mem (hparen '(' rfl rfl rfl) (hparen ')' rfl rfl rfl)⟩
  rw [hpiece, QuoteState.run_append, QuoteState.run_append, QuoteState.run_of_allBlank (by simp) ha,
    run_of_name hquote hname hinside, QuoteState.run_of_allBlank (by simp) hb]

/-- A piece behind a comma that separates arguments ends outside of strings and parentheses if it
does so on its own. -/
lemma CutsBehind.append_comma {a piece : Text} (ha : CutsBehind nesting q depth before a)
    (hpiece : CutsBehind nesting none 0 (some ',') piece) :
    CutsBehind nesting q depth before (a ++ ',' :: piece) := by
  induction a generalizing q depth before with
  | nil =>
    obtain ⟨rfl, rfl⟩ : q = none ∧ depth = 0 := ha
    have hdepth : nesting.depthNext none 0 ',' = 0 := by cases nesting <;> rfl
    rw [List.nil_append, cutsBehind_cons, hdepth]
    exact hpiece
  | cons c a ih => exact ih ((cutsBehind_cons a).mp ha)

/-- Arguments that end with a name in quotes leave no string and no parenthesis open. -/
lemma cutsBehind_of_last {a piece name : Text} {front : List Text} (hfront : front ≠ [])
    (hpieces : piecesFrom nesting none 0 none a = front ++ [piece])
    (hname : nameLiteral? piece.trim = some name) : CutsBehind nesting none 0 none a := by
  have hjoin : a = [','].intercalate front ++ ',' :: piece := by
    rw [← intercalate_piecesFrom a, hpieces, intercalate_append hfront (by simp),
      List.intercalate_singleton]
  have hcomma : CutsBehind nesting none 0 none ([','].intercalate front) :=
    (cutsBehind_iff_isJoint hjoin).mpr ⟨front, [piece], hfront, by simp, hpieces, rfl⟩
  rw [hjoin]
  exact hcomma.append_comma (cutsBehind_of_nameLiteral? hname)

/-- White space at its start does not change what an argument starts with. -/
lemma head?_trim_space_cons {c : Char} (hc : isBlank c = false) (t : Text) :
    (trim (' ' :: c :: t)).head? = some c := by
  have hstart : trimStart (' ' :: c :: t) = c :: t :=
    dropWhile_run (a := [' ']) (by simp; decide) (by simpa using hc)
  obtain ⟨u, b, hsplit, hb, hu⟩ := exists_endRun isBlank (c :: t)
  rw [trim, hstart, trimEnd, hsplit, dropEndWhile_run hb hu]
  cases u with
  | nil =>
    have hblank : isBlank c = true :=
      hb c (by rw [← List.nil_append b, ← hsplit]; exact List.mem_cons_self)
    simp [hblank] at hc
  | cons d u => rw [List.head?_cons, (List.cons.inj hsplit).1]

/-- The first piece behind the comma starts as the table does. -/
lemma exists_piecesFrom_table (nesting : Nesting) {table : Text} (h : table.head? = some '{') :
    ∃ first more, (piecesFrom nesting none 0 (some ',') (' ' :: table)).map trim = first :: more ∧
      first.head? = some '{' := by
  obtain ⟨table, rfl⟩ : ∃ rest, table = '{' :: rest := List.head?_eq_some_iff.mp h
  rw [piecesFrom_cons_of_not_cut (by simp), piecesFrom_cons_of_not_cut (by simp),
    List.modifyHead_modifyHead]
  obtain ⟨first, more, hpieces⟩ := List.exists_cons_of_ne_nil (piecesFrom_ne_nil table)
  rw [hpieces, List.modifyHead_cons, List.map_cons]
  exact ⟨_, _, rfl, head?_trim_space_cons rfl first⟩

end

namespace NetworkField

/-- A table for the editor is passed over. -/
lemma ofList?_of_isEditorTable {extra : List Text} (h : isEditorTable extra = true)
    (declared slot name : Text) :
    ofList? (declared :: slot :: name :: extra) = ofList? [declared, slot, name] := by
  rw [ofList?, if_pos h]
  rfl

/-- A field with a slot has three arguments at least, of which the third is a name in quotes. -/
lemma exists_of_ofList?_eq_indexed {arguments : List Text} {declared slot name : Text}
    (h : ofList? arguments = some (.indexed declared slot name)) :
    ∃ first third extra, arguments = first :: slot :: third :: extra ∧
      nameLiteral? third = some name := by
  unfold ofList? at h
  split at h
  · simp [Option.bind_eq_some_iff] at h
  · next first second third extra =>
    split at h
    · simp only [Option.bind_eq_some_iff, Option.map_eq_some_iff, indexed.injEq] at h
      obtain ⟨_, -, _, hname, -, rfl, rfl⟩ := h
      exact ⟨first, third, extra, rfl, hname⟩
    · simp at h
  · simp at h

/-- **A table for the editor does not change the field.** Three arguments that declare a field with
a slot declare the same field with any text behind them that starts with a brace, whatever commas,
quotes, parentheses and braces it holds. It does not matter whether parentheses count when the three
arguments are counted.

**Proof sketch.** The last of the three arguments is a name in quotes, so behind it the comma
separates arguments, and the first argument behind that comma starts with the brace. -/
theorem ofArguments?_append_table {a declared slot name : Text}
    (hfield : ofArguments? a = some (.indexed declared slot name)) {nesting : Nesting}
    (hthree : (splitArguments nesting a).length = 3) (table : Text)
    (htable : table.head? = some '{') :
    ofArguments? (a ++ ", ".toList ++ table) = ofArguments? a := by
  obtain ⟨first, third, extra, hsplit, hname⟩ := exists_of_ofList?_eq_indexed hfield
  have hblank : ¬ AllBlank a := fun hblank => by
    rw [splitArguments, if_pos (trim_isEmpty_iff.mpr hblank)] at hsplit
    simp at hsplit
  have hblank' : ¬ AllBlank (a ++ ", ".toList ++ table) := fun hall =>
    absurd (hall ',' (by simp)) (by decide)
  rw [splitArguments_eq hblank] at hsplit hthree
  -- Also if parentheses do not count in the hypothesis there are no more than three pieces if they
  -- do.
  have hle : (piecesFrom .nested none 0 none a).length ≤ 3 := by
    rw [List.length_map] at hthree
    cases nesting with
    | flat => exact hthree ▸ length_piecesFrom_le a
    | nested => exact hthree.le
  have hextra : extra = [] := by
    rw [← List.length_map (f := trim), hsplit] at hle
    simp only [List.length_cons] at hle
    exact List.eq_nil_of_length_eq_zero (by omega)
  subst hextra
  obtain ⟨typePiece, pieces, hpieces, -, hrest⟩ := List.map_eq_cons_iff.mp hsplit
  obtain ⟨slotPiece, pieces, rfl, -, hrest⟩ := List.map_eq_cons_iff.mp hrest
  obtain ⟨namePiece, rfl, rfl⟩ := List.map_eq_singleton_iff.mp hrest
  have hends : CutsBehind .nested none 0 none a :=
    cutsBehind_of_last (List.cons_ne_nil typePiece [slotPiece]) hpieces hname
  obtain ⟨brace, more, htail, hbrace⟩ := exists_piecesFrom_table .nested htable
  have hwhole : splitArguments .nested (a ++ ", ".toList ++ table) =
      splitArguments .nested a ++ brace :: more := by
    rw [splitArguments_eq hblank, splitArguments_eq hblank', List.append_assoc]
    exact (congrArg (List.map trim) (piecesFrom_append_comma hends (' ' :: table))).trans
      (by rw [List.map_append, htail])
  have htableLike : isEditorTable (brace :: more) = true := by simp [isEditorTable, hbrace]
  rw [ofArguments?, ofArguments?, hwhole, splitArguments_eq hblank, hsplit]
  exact ofList?_of_isEditorTable htableLike _ _ _

/-- The slot is a call with a comma and a parenthesis in a string, and the table leaves a string and
a parenthesis open. -/
theorem ofArguments?_append_table_unbalanced :
    ofArguments? "\"Float\", f(1, \")\"), 'Speed' ".toList =
        some (.indexed "Float".toList "f(1, \")\")".toList "Speed".toList) ∧
      (splitArguments .nested "\"Float\", f(1, \")\"), 'Speed' ".toList).length = 3 ∧
      ofArguments? "\"Float\", f(1, \")\"), 'Speed' , \x7b a = (1, b = \", c".toList =
        some (.indexed "Float".toList "f(1, \")\")".toList "Speed".toList) := by
  have hfield : ofArguments? "\"Float\", f(1, \")\"), 'Speed' ".toList =
      some (.indexed "Float".toList "f(1, \")\")".toList "Speed".toList) := by decide +kernel
  have hthree : (splitArguments .nested "\"Float\", f(1, \")\"), 'Speed' ".toList).length = 3 := by
    decide +kernel
  refine ⟨hfield, hthree, ?_⟩
  exact (ofArguments?_append_table hfield hthree "\x7b a = (1, b = \", c".toList (by decide)).trans
    hfield

end NetworkField

end Gloss
