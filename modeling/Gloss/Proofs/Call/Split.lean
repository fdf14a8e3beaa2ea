import Gloss.Proofs.Call.Arguments
import Gloss.Proofs.Call.Bytes
import Mathlib.Data.List.Infix

/-!
# Splitting and joining arguments

The pieces of a text between the commas that separate arguments give the text again when they are
joined by commas, and the commas that join them are the ones that stand outside of strings and, if
parentheses count, outside of parentheses. So texts that leave no string and no parenthesis open,
and hold no such comma, can be joined to the arguments of a call and come back when these are split.

## Main definitions

* `parenDepth`: the depth of parentheses after a text, a closing one too many being passed over.
* `TopComma`: a byte is a comma outside of strings and parentheses.
* `IsJoint`: the pieces up to one of the commas that join pieces.
* `IsArgument`: a text that can stand between two commas.

## Main results

* `intercalate_piecesFrom`: pieces that are joined give the text again.
* `cutsBehind_iff_isJoint`: the commas that join the pieces.
* `topComma_bytes_iff`: a top-level comma among the bytes is one among the characters.
* `splitArguments_cuts_top_commas`: arguments are cut exactly at the top-level commas.
* `splitArguments_intercalate`: splitting undoes joining.
-/

set_option relaxedAutoImplicit false
set_option autoImplicit false

namespace Gloss

open Text

/-! ## One character -/

section

variable {nesting : Nesting} {q : QuoteState} {depth : Nat} {before : Option Char} {c : Char}

/-- A comma that separates arguments starts a new piece, and behind it everything starts anew. -/
lemma piecesFrom_cons_of_cut (h : CutsBehind nesting q depth before []) (t : Text) :
    piecesFrom nesting q depth before (',' :: t) =
      [] :: piecesFrom nesting (q.next before ',') (nesting.depthNext q depth ',') (some ',')
        t := by
  obtain ⟨rfl, rfl⟩ : q = none ∧ depth = 0 := h
  cases nesting <;> rfl

/-- Any other character belongs to the piece in which it stands. -/
lemma piecesFrom_cons_of_not_cut (h : c = ',' → ¬ CutsBehind nesting q depth before []) (t : Text) :
    piecesFrom nesting q depth before (c :: t) =
      (piecesFrom nesting (q.next before c) (nesting.depthNext q depth c) (some c) t).modifyHead
        (c :: ·) := by
  rw [piecesFrom, if_neg]
  · obtain ⟨first, more, hpieces, -⟩ := piecesFrom_spec nesting (q.next before c)
      (nesting.depthNext q depth c) (some c) t
    rw [hpieces]
    rw [Nesting.depthNext] at hpieces
    simp only [hpieces, List.modifyHead_cons]
  · intro hcut
    simp only [Bool.and_eq_true, Bool.not_eq_true', beq_iff_eq] at hcut
    obtain ⟨⟨hquotes, rfl⟩, rfl⟩ := hcut
    exact h rfl ⟨(QuoteState.eq_none_of_quotes hquotes).1, rfl⟩

/-- There is always a piece. -/
lemma piecesFrom_ne_nil (t : Text) : piecesFrom nesting q depth before t ≠ [] := by
  obtain ⟨first, more, hpieces, -⟩ := piecesFrom_spec nesting q depth before t
  simp [hpieces]

/-- Behind a character the state and the depth are those after it. -/
lemma cutsBehind_cons (a : Text) : CutsBehind nesting q depth before (c :: a) ↔
    CutsBehind nesting (q.next before c) (nesting.depthNext q depth c) (some c) a :=
  Iff.rfl

/-! ## Pieces and the commas between them -/

/-- A character in front of pieces stands in front of the text that they are joined to. -/
lemma intercalate_modifyHead_cons {pieces : List Text} (hne : pieces ≠ []) (c : Char) :
    [','].intercalate (pieces.modifyHead (c :: ·)) = c :: [','].intercalate pieces := by
  obtain ⟨first, more, rfl⟩ := List.exists_cons_of_ne_nil hne
  exact List.intercalate_cons_cons_left

/-- An empty piece in front of pieces puts a comma in front of the text that they are joined to. -/
lemma intercalate_nil_cons {pieces : List Text} (hne : pieces ≠ []) :
    [','].intercalate ([] :: pieces) = ',' :: [','].intercalate pieces :=
  List.intercalate_cons_of_ne_nil hne

/-- Between the pieces of two lists stands a comma, too. -/
lemma intercalate_append {front back : List Text} (hfront : front ≠ []) (hback : back ≠ []) :
    [','].intercalate (front ++ back) =
      [','].intercalate front ++ ',' :: [','].intercalate back := by
  induction front with
  | nil => exact absurd rfl hfront
  | cons piece front ih =>
    rw [List.cons_append, List.intercalate_cons_of_ne_nil (by simp [hback])]
    by_cases hnil : front = []
    · subst hnil
      simp
    · rw [ih hnil, List.intercalate_cons_of_ne_nil hnil]
      simp

/-- **Pieces that are joined give the text again.** -/
lemma intercalate_piecesFrom (t : Text) :
    [','].intercalate (piecesFrom nesting q depth before t) = t := by
  induction t generalizing q depth before with
  | nil => rfl
  | cons c t ih =>
    by_cases hcut : c = ',' ∧ CutsBehind nesting q depth before []
    · obtain ⟨rfl, hcut⟩ := hcut
      rw [piecesFrom_cons_of_cut hcut, intercalate_nil_cons (piecesFrom_ne_nil t), ih]
    · rw [piecesFrom_cons_of_not_cut (not_and.mp hcut),
        intercalate_modifyHead_cons (piecesFrom_ne_nil t), ih]

/-- The text is that of the pieces up to one of the commas that join the pieces. -/
def IsJoint (pieces : List Text) (a : Text) : Prop :=
  ∃ front back, front ≠ [] ∧ back ≠ [] ∧ pieces = front ++ back ∧ a = [','].intercalate front

/-- The commas behind an empty piece: the first one, and those of the other pieces. -/
lemma isJoint_nil_cons_iff {pieces : List Text} (hne : pieces ≠ []) {a : Text} :
    IsJoint ([] :: pieces) a ↔ a = [] ∨ ∃ a', a = ',' :: a' ∧ IsJoint pieces a' := by
  constructor
  · rintro ⟨front, back, hfront, hback, hpieces, rfl⟩
    obtain ⟨first, front, rfl⟩ := List.exists_cons_of_ne_nil hfront
    obtain ⟨rfl, rfl⟩ := List.cons.inj hpieces
    by_cases hnil : front = []
    · subst hnil
      exact .inl rfl
    · exact .inr ⟨_, intercalate_nil_cons hnil, front, back, hnil, hback, rfl, rfl⟩
  · rintro (rfl | ⟨a, rfl, front, back, hfront, hback, rfl, rfl⟩)
    · exact ⟨[[]], pieces, by simp, hne, rfl, rfl⟩
    · exact ⟨[] :: front, back, by simp, hback, rfl, (intercalate_nil_cons hfront).symm⟩

/-- The commas behind a character in front of the pieces. -/
lemma isJoint_modifyHead_cons_iff {pieces : List Text} {a : Text} :
    IsJoint (pieces.modifyHead (c :: ·)) a ↔ ∃ a', a = c :: a' ∧ IsJoint pieces a' := by
  constructor
  · rintro ⟨front, back, hfront, hback, hpieces, rfl⟩
    obtain ⟨first, front, rfl⟩ := List.exists_cons_of_ne_nil hfront
    cases pieces with
    | nil => simp at hpieces
    | cons piece pieces =>
      obtain ⟨rfl, rfl⟩ := List.cons.inj hpieces
      exact ⟨_, intercalate_modifyHead_cons (List.cons_ne_nil piece front) c,
        piece :: front, back, by simp, hback, rfl, rfl⟩
  · rintro ⟨a, rfl, front, back, hfront, hback, rfl, rfl⟩
    obtain ⟨first, front, rfl⟩ := List.exists_cons_of_ne_nil hfront
    exact ⟨(c :: first) :: front, back, by simp, hback, rfl,
      (intercalate_modifyHead_cons (List.cons_ne_nil first front) c).symm⟩

/-- **The commas that join the pieces** are those that separate arguments.

**Proof sketch.** Induction on the text. The comma in question is the first character, or it stands
behind it, and then the state and the depth are those behind the first character. -/
lemma cutsBehind_iff_isJoint {t a b : Text} (ht : t = a ++ ',' :: b) :
    CutsBehind nesting q depth before a ↔ IsJoint (piecesFrom nesting q depth before t) a := by
  induction t generalizing q depth before a with
  | nil => simp at ht
  | cons c t ih =>
    by_cases hcut : c = ',' ∧ CutsBehind nesting q depth before []
    · obtain ⟨rfl, hcut⟩ := hcut
      rw [piecesFrom_cons_of_cut hcut, isJoint_nil_cons_iff (piecesFrom_ne_nil t)]
      cases a with
      | nil => simpa using hcut
      | cons d a =>
        obtain ⟨rfl, hrest⟩ := List.cons.inj ht
        rw [cutsBehind_cons, ih hrest]
        simp
    · rw [piecesFrom_cons_of_not_cut (not_and.mp hcut), isJoint_modifyHead_cons_iff]
      cases a with
      | nil =>
        -- The comma is the first character and does not cut, and no joint stands before a piece.
        obtain ⟨rfl, -⟩ := List.cons.inj ht
        simpa using hcut
      | cons d a =>
        obtain ⟨rfl, hrest⟩ := List.cons.inj ht
        rw [cutsBehind_cons, ih hrest]
        simp

/-! ## Top-level commas -/

/-- The depth of parentheses after a text of code, which starts at `depth`. A closing parenthesis
too many is passed over. -/
def parenDepth (depth : Nat) : Text → Nat
  | [] => depth
  | c :: code =>
    parenDepth (if c = '(' then depth + 1 else if c = ')' then depth - 1 else depth) code

/-- The byte at an index is a comma that belongs to no string and, if parentheses count, stands in
none. -/
structure TopComma (nesting : Nesting) (bs : Text) (i : Nat) : Prop where
  /-- The byte is a comma. -/
  comma : bs[i]? = some ','
  /-- It belongs to no string. -/
  unquoted : QuoteState.quotes (QuoteState.run none none (bs.take i)) ',' = false
  /-- It stands in no parentheses, if these count. -/
  outer : nesting = .nested → parenDepth 0 (QuoteState.unquoted none none (bs.take i)) = 0

/-- Without nesting the depth stays as it is. -/
lemma depthAlong_flat (t : Text) : Nesting.flat.depthAlong q depth before t = depth := by
  induction t generalizing q before with
  | nil => rfl
  | cons c t ih =>
    have hnext : Nesting.flat.depthNext q depth c = depth := ite_self depth
    rw [Nesting.depthAlong, hnext, ih]

/-- With nesting the depth is counted over the code of the text. -/
lemma depthAlong_nested (t : Text) :
    Nesting.nested.depthAlong q depth before t = parenDepth depth (q.unquoted before t) := by
  induction t generalizing q depth before with
  | nil => rfl
  | cons c t ih =>
    rw [Nesting.depthAlong, Nesting.depthNext, QuoteState.unquoted, ih]
    split
    · rfl
    · rw [parenDepth, Nesting.depthAfter]

/-- The depth is counted from part to part. -/
lemma parenDepth_append (a b : Text) :
    parenDepth depth (a ++ b) = parenDepth (parenDepth depth a) b := by
  induction a generalizing depth with
  | nil => rfl
  | cons c a ih => rw [List.cons_append, parenDepth, parenDepth, ih]

/-- Characters outside the ASCII range do not change the depth. -/
lemma parenDepth_of_not_isAscii {a : Text} (ha : ∀ b ∈ a, ¬ IsAscii b) :
    parenDepth depth a = depth := by
  induction a with
  | nil => rfl
  | cons b a ih =>
    obtain ⟨hb, ha⟩ := List.forall_mem_cons.mp ha
    rw [parenDepth, if_neg (ne_of_not_isAscii hb (by decide)),
      if_neg (ne_of_not_isAscii hb (by decide)), ih ha]

/-- The depth over bytes is the depth over characters. -/
lemma parenDepth_bytes (t : Text) : parenDepth depth (bytes t) = parenDepth depth t := by
  induction t generalizing depth with
  | nil => rfl
  | cons c t ih =>
    rw [bytes_cons]
    by_cases hc : IsAscii c
    · rw [bytes_singleton hc, List.singleton_append, parenDepth, parenDepth, ih]
    · rw [parenDepth_append, parenDepth_of_not_isAscii fun b => not_isAscii_of_mem_bytes hc, ih,
        parenDepth, if_neg (ne_of_not_isAscii hc (by decide)),
        if_neg (ne_of_not_isAscii hc (by decide))]

/-- A comma separates arguments iff no string is open before it and, if parentheses count, its depth
is zero. -/
lemma cutsBehind_iff {a : Text} :
    CutsBehind nesting none 0 none a ↔ QuoteState.run none none a = none ∧
      (nesting = .nested → parenDepth 0 (QuoteState.unquoted none none a) = 0) := by
  refine and_congr_right fun _ => ?_
  cases nesting with
  | flat => simp [depthAlong_flat]
  | nested => simp [depthAlong_nested]

/-- **A top-level comma among the bytes is one among the characters.**

**Proof sketch.** A comma is one byte, so it stands among the bytes where it stands in the text. The
bytes before it leave the same string open as the characters do, and have the same parentheses
outside strings. -/
lemma topComma_bytes_iff {t : Text} {i : Nat} :
    TopComma nesting (bytes t) i ↔
      ∃ a b, t = a ++ ',' :: b ∧ size a = i ∧ CutsBehind nesting none 0 none a := by
  have hrun : ∀ a b, QuoteState.run none none ((bytes (a ++ b)).take (size a)) =
      QuoteState.run none none a := fun a b => by
    rw [take_bytes_append, QuoteState.run_bytes (by simp)]
  have hdepth : ∀ a b,
      parenDepth 0 (QuoteState.unquoted none none ((bytes (a ++ b)).take (size a))) =
      parenDepth 0 (QuoteState.unquoted none none a) := fun a b => by
    rw [take_bytes_append, QuoteState.unquoted_bytes (by simp), parenDepth_bytes]
  constructor
  · rintro ⟨hcomma, hunquoted, houter⟩
    obtain ⟨a, b, rfl, rfl⟩ := (getElem?_bytes_eq_some_iff (by decide)).mp hcomma
    rw [hrun] at hunquoted
    rw [hdepth] at houter
    exact ⟨a, b, rfl, rfl,
      cutsBehind_iff.mpr ⟨(QuoteState.eq_none_of_quotes hunquoted).1, houter⟩⟩
  · rintro ⟨a, b, rfl, rfl, hcuts⟩
    obtain ⟨hclosed, houter⟩ := cutsBehind_iff.mp hcuts
    refine ⟨(getElem?_bytes_eq_some_iff (by decide)).mpr ⟨a, b, rfl, rfl⟩, ?_, ?_⟩
    · rw [hrun, hclosed]
      rfl
    · rwa [hdepth]

/-! ## Splitting -/

/-- Nothing is left of white space, and only of white space. -/
lemma trim_isEmpty_iff {t : Text} : (trim t).isEmpty = true ↔ AllBlank t := by
  rw [List.isEmpty_iff]
  constructor
  · intro h
    obtain ⟨a, b, ht, ha, hb, -⟩ := exists_eq_append_trim t
    rw [ht, h, List.append_nil]
    intro c hc
    exact (List.mem_append.mp hc).elim (ha c) (hb c)
  · intro h
    rw [trim, trimStart, ← List.append_nil t, dropWhile_run h (by simp)]
    rfl

/-- A text that is not white space is split into its trimmed pieces. -/
lemma splitArguments_eq {t : Text} (h : ¬ AllBlank t) :
    splitArguments nesting t = (piecesFrom nesting none 0 none t).map trim := by
  rw [splitArguments, if_neg (mt trim_isEmpty_iff.mp h)]

end

/-- **Arguments are cut exactly at the top-level commas.** White space holds no argument. Any other
text is made of pieces that are joined by commas: these are exactly the top-level commas among its
bytes, and the arguments are the pieces without the white space around them.

**Proof sketch.** The pieces of the splitter are joined by the commas that it cuts at. A comma
separates two pieces iff no string and no parenthesis is open before it, and over bytes this is what
a top-level comma is. -/
theorem splitArguments_cuts_top_commas (nesting : Nesting) (t : Text) :
    (AllBlank t → splitArguments nesting t = []) ∧
    (¬ AllBlank t → ∃ pieces, pieces ≠ [] ∧ [','].intercalate pieces = t ∧
      (∀ i, TopComma nesting t.bytes i ↔ ∃ a, IsJoint pieces a ∧ size a = i) ∧
      splitArguments nesting t = pieces.map trim) := by
  constructor
  · intro hblank
    rw [splitArguments, if_pos (trim_isEmpty_iff.mpr hblank)]
  · intro hblank
    refine ⟨piecesFrom nesting none 0 none t, piecesFrom_ne_nil t, intercalate_piecesFrom t,
      fun i => ?_, splitArguments_eq hblank⟩
    rw [topComma_bytes_iff]
    constructor
    · rintro ⟨a, b, ht, hsize, hcuts⟩
      exact ⟨a, (cutsBehind_iff_isJoint ht).mp hcuts, hsize⟩
    · rintro ⟨a, hjoint, hsize⟩
      obtain ⟨front, back, hfront, hback, hpieces, ha⟩ := id hjoint
      have ht : t = a ++ ',' :: [','].intercalate back := by
        rw [ha, ← intercalate_append hfront hback, ← hpieces, intercalate_piecesFrom]
      exact ⟨a, _, ht, hsize, (cutsBehind_iff_isJoint ht).mpr hjoint⟩

/-- A comma in a string or in parentheses cuts nothing, a closing parenthesis too many does not
count, and behind the last comma an empty argument is left. -/
theorem splitArguments_cuts_top_commas_unbalanced :
    ¬ AllBlank "é) , 'a,' (b,c),".toList ∧
      splitArguments .nested "é) , 'a,' (b,c),".toList =
        ["é)".toList, "'a,' (b,c)".toList, []] ∧
      ∃ pieces, [','].intercalate pieces = "é) , 'a,' (b,c),".toList ∧
        pieces.map trim = ["é)".toList, "'a,' (b,c)".toList, []] ∧
        ∀ i, TopComma .nested (bytes "é) , 'a,' (b,c),".toList) i ↔
          ∃ a, IsJoint pieces a ∧ size a = i := by
  have hblank : ¬ AllBlank "é) , 'a,' (b,c),".toList :=
    fun h => absurd (h 'é' (by decide)) (by decide)
  have hsplit : splitArguments .nested "é) , 'a,' (b,c),".toList =
      ["é)".toList, "'a,' (b,c)".toList, []] := by decide +kernel
  obtain ⟨pieces, -, hjoin, hcommas, hpieces⟩ :=
    (splitArguments_cuts_top_commas .nested "é) , 'a,' (b,c),".toList).2 hblank
  exact ⟨hblank, hsplit, pieces, hjoin, hpieces.symm.trans hsplit, hcommas⟩

/-! ## Joining -/

/-- The text can stand between two commas: it has no white space at its ends, leaves no string and
no parenthesis open, closes none too many, and holds no comma outside of these. -/
structure IsArgument (t : Text) : Prop where
  /-- There is no white space at its ends. -/
  trimmed : trim t = t
  /-- No string is open after it. -/
  closed : QuoteState.run none none t = none
  /-- No parenthesis closes too many. -/
  count_le : ∀ a, a <+: t →
    (QuoteState.unquoted none none a).count ')' ≤ (QuoteState.unquoted none none a).count '('
  /-- No parenthesis is open after it. -/
  count_eq : (QuoteState.unquoted none none t).count ')' =
    (QuoteState.unquoted none none t).count '('
  /-- A comma outside of strings stands in parentheses. -/
  comma : ∀ a b, t = a ++ ',' :: b → QuoteState.run none none a = none →
    (QuoteState.unquoted none none a).count ')' ≠ (QuoteState.unquoted none none a).count '('

/-- Whether a text can stand between two commas is decided by its beginnings. -/
instance (t : Text) : Decidable (IsArgument t) :=
  decidable_of_iff (trim t = t ∧ QuoteState.run none none t = none ∧
      (∀ a ∈ t.inits, (QuoteState.unquoted none none a).count ')' ≤
        (QuoteState.unquoted none none a).count '(') ∧
      (QuoteState.unquoted none none t).count ')' = (QuoteState.unquoted none none t).count '(' ∧
      ∀ a ∈ t.inits, a ++ [','] <+: t → QuoteState.run none none a = none →
        (QuoteState.unquoted none none a).count ')' ≠ (QuoteState.unquoted none none a).count '(')
    ⟨fun ⟨htrim, hclosed, hle, heq, hcomma⟩ =>
      ⟨htrim, hclosed, fun a ha => hle a ((List.mem_inits a t).mpr ha), heq, fun a b hab =>
        hcomma a ((List.mem_inits a t).mpr ⟨',' :: b, hab.symm⟩) ⟨b, by rw [hab]; simp⟩⟩,
     fun h => ⟨h.trimmed, h.closed, fun a ha => h.count_le a ((List.mem_inits a t).mp ha),
      h.count_eq, fun a _ ⟨b, hb⟩ => h.comma a b (by rw [← hb]; simp)⟩⟩

/-- If no parenthesis closes too many, the depth is the exact number of open ones. -/
lemma depthAlong_exact {q : QuoteState} {depth : Nat} {before : Option Char} {t : Text}
    (h : ∀ a, a <+: t →
      (q.unquoted before a).count ')' ≤ depth + (q.unquoted before a).count '(') :
    Nesting.nested.depthAlong q depth before t + (q.unquoted before t).count ')' =
      depth + (q.unquoted before t).count '(' := by
  induction t generalizing q depth before with
  | nil => rfl
  | cons c t ih =>
    have hopen : q.quotes c = false → c = ')' → 0 < depth := by
      rintro hquotes rfl
      have hfirst := h [')'] (List.cons_prefix_cons.mpr ⟨rfl, List.nil_prefix⟩)
      simp [QuoteState.unquoted, hquotes] at hfirst
      omega
    have hexact := Nesting.depthNext_exact before hopen
    have hprefix : ∀ a, a <+: t → ((q.next before c).unquoted (some c) a).count ')' ≤
        Nesting.nested.depthNext q depth c + ((q.next before c).unquoted (some c) a).count '(' := by
      intro a ha
      have hle := h (c :: a) (List.cons_prefix_cons.mpr ⟨rfl, ha⟩)
      rw [QuoteState.unquoted_cons, List.count_append, List.count_append] at hle
      omega
    have hrest := ih hprefix
    rw [QuoteState.unquoted_cons, List.count_append, List.count_append, Nesting.depthAlong]
    omega

/-- A text without a comma that separates arguments belongs to one piece. -/
lemma piecesFrom_append_of_uncut {nesting : Nesting} {q : QuoteState} {depth : Nat}
    {before : Option Char} {w : Text}
    (h : ∀ a b, w = a ++ ',' :: b → ¬ CutsBehind nesting q depth before a) (rest : Text) :
    piecesFrom nesting q depth before (w ++ rest) =
      (piecesFrom nesting (q.run before w) (nesting.depthAlong q depth before w)
        (w.getLast?.or before) rest).modifyHead (w ++ ·) := by
  induction w generalizing q depth before with
  | nil => exact (congrFun List.modifyHead_id _).symm
  | cons c w ih =>
    have hfirst : c = ',' → ¬ CutsBehind nesting q depth before [] := by
      rintro rfl
      exact h [] w rfl
    rw [List.cons_append, piecesFrom_cons_of_not_cut hfirst,
      ih fun a b hw => h (c :: a) b (by rw [hw]; rfl), List.modifyHead_modifyHead,
      getLast?_cons_or]
    rfl

/-- As long as no string is open it does not matter what stands before a text. -/
lemma piecesFrom_none {nesting : Nesting} {depth : Nat} (before before' : Option Char) (t : Text) :
    piecesFrom nesting none depth before t = piecesFrom nesting none depth before' t := by
  cases t <;> rfl

/-- An argument stays whole, and behind it the splitter starts anew. -/
lemma IsArgument.piecesFrom_append {w : Text} (h : IsArgument w) (rest : Text) :
    piecesFrom .nested none 0 none (w ++ rest) =
      (piecesFrom .nested none 0 none rest).modifyHead (w ++ ·) := by
  -- Within the argument the depth of the splitter, which stops at zero, is the exact one.
  have hexact : ∀ a, a <+: w → Nesting.nested.depthAlong none 0 none a +
      (QuoteState.unquoted none none a).count ')' =
        (QuoteState.unquoted none none a).count '(' := by
    intro a ha
    have hle : ∀ a', a' <+: a → (QuoteState.unquoted none none a').count ')' ≤
        0 + (QuoteState.unquoted none none a').count '(' := by
      intro a' ha'
      rw [Nat.zero_add]
      exact h.count_le a' (ha'.trans ha)
    rw [depthAlong_exact hle, Nat.zero_add]
  have huncut : ∀ a b, w = a ++ ',' :: b → ¬ CutsBehind .nested none 0 none a := by
    rintro a b hw ⟨hclosed, hdepth⟩
    have := hexact a ⟨',' :: b, hw.symm⟩
    have := h.comma a b hw hclosed
    omega
  have hdepth : Nesting.nested.depthAlong none 0 none w = 0 := by
    have := hexact w (List.prefix_refl w)
    have := h.count_eq
    omega
  rw [piecesFrom_append_of_uncut huncut, h.closed, hdepth, piecesFrom_none _ none]

/-- Behind a comma and a space the splitter starts anew, with the space in the next piece. -/
lemma piecesFrom_comma_space (t : Text) :
    piecesFrom .nested none 0 none (',' :: ' ' :: t) =
      [] :: (piecesFrom .nested none 0 none t).modifyHead (' ' :: ·) := by
  have hspace : piecesFrom .nested none 0 (some ',') (' ' :: t) =
      (piecesFrom .nested none 0 (some ' ') t).modifyHead (' ' :: ·) :=
    piecesFrom_cons_of_not_cut (by simp) t
  rw [piecesFrom_none none (some ' ') t, ← hspace]
  exact piecesFrom_cons_of_cut ⟨rfl, rfl⟩ _

/-- Without the white space around them the pieces are the same. -/
lemma map_trim_modifyHead_space (pieces : List Text) :
    (pieces.modifyHead (' ' :: ·)).map trim = pieces.map trim := by
  cases pieces <;> rfl

/-- The pieces of arguments that are joined by commas and spaces are, but for the spaces, the
arguments.

**Proof sketch.** Induction on the list. Behind an argument and the comma no string and no
parenthesis is open, and what stands before the next argument does not matter. -/
lemma map_trim_piecesFrom_intercalate {args : List Text} (hargs : ∀ w ∈ args, IsArgument w)
    (hne : args ≠ []) :
    (piecesFrom .nested none 0 none ([',', ' '].intercalate args)).map trim = args := by
  induction args with
  | nil => exact absurd rfl hne
  | cons w args ih =>
    obtain ⟨hw, hargs⟩ := List.forall_mem_cons.mp hargs
    by_cases hnil : args = []
    · subst hnil
      have hwhole := hw.piecesFrom_append []
      rw [List.append_nil] at hwhole
      rw [List.intercalate_singleton, hwhole]
      simp [piecesFrom, hw.trimmed]
    · rw [List.intercalate_cons_of_ne_nil hnil, List.append_assoc, hw.piecesFrom_append,
        List.cons_append, List.cons_append, List.nil_append, piecesFrom_comma_space,
        List.modifyHead_cons, List.append_nil, List.map_cons, hw.trimmed, map_trim_modifyHead_space,
        ih hargs hnil]

/-- Arguments that are joined are not white space, unless there is only an empty one. -/
lemma not_allBlank_intercalate {args : List Text} (hargs : ∀ w ∈ args, IsArgument w)
    (hne : args ≠ []) (hempty : args ≠ [[]]) : ¬ AllBlank ([',', ' '].intercalate args) := by
  obtain ⟨w, args, rfl⟩ := List.exists_cons_of_ne_nil hne
  intro hblank
  by_cases hnil : args = []
  · subst hnil
    rw [List.intercalate_singleton] at hblank
    have htrim := trim_isEmpty_iff.mpr hblank
    rw [(hargs w (by simp)).trimmed, List.isEmpty_iff] at htrim
    exact hempty (by rw [htrim])
  · rw [List.intercalate_cons_of_ne_nil hnil] at hblank
    exact absurd (hblank ',' (by simp)) (by decide)

/-- **Splitting undoes joining.** Texts that can stand between two commas come back as the arguments
of the text that they are joined to by commas and spaces, unless there is only an empty one.

**Proof sketch.** An argument leaves no string and no parenthesis open and has no top-level comma,
so the splitter cuts at the joining commas and nowhere else. What it cuts are the arguments, with a
space in front of all but the first. -/
theorem splitArguments_intercalate {args : List Text} (hargs : ∀ w ∈ args, IsArgument w)
    (hne : args ≠ []) (hempty : args ≠ [[]]) :
    splitArguments .nested ([',', ' '].intercalate args) = args := by
  rw [splitArguments_eq (not_allBlank_intercalate hargs hne hempty),
    map_trim_piecesFrom_intercalate hargs hne]

/-- A call with a string that holds a quote, a comma and a parenthesis, an empty text and a string
come back as they are. -/
theorem splitArguments_intercalate_quoted :
    (∀ w ∈ ["f(a, \"\\\",(\")".toList, [], "'é, '".toList], IsArgument w) ∧
      splitArguments .nested "f(a, \"\\\",(\"), , 'é, '".toList =
        ["f(a, \"\\\",(\")".toList, [], "'é, '".toList] := by
  have hargs : ∀ w ∈ ["f(a, \"\\\",(\")".toList, [], "'é, '".toList], IsArgument w := by
    decide +kernel
  have hjoin : "f(a, \"\\\",(\"), , 'é, '".toList =
      [',', ' '].intercalate ["f(a, \"\\\",(\")".toList, [], "'é, '".toList] := by
    decide +kernel
  refine ⟨hargs, ?_⟩
  rw [hjoin]
  exact splitArguments_intercalate hargs (by simp) (by simp)

end Gloss
