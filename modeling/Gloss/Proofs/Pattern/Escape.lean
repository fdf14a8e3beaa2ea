import Mathlib.Tactic.Tauto
import Gloss.Pattern.Reader
import Gloss.Proofs.Pattern.Reach

/-!
# Reading escaped texts

A text is put into the written form of a pattern by escaping the characters that have a meaning of
their own there. This module shows that reading gives the characters of the text back, one part for
each, whatever stands before and after it, and says what sequences of such parts lead over and
weigh.

## Main definitions

* `Expr.charParts`: the parts of the pattern of a given text.
* `Expr.totalWeight`: the weight of several patterns together.
* `Pattern.ReadsTo`: reading a part of a pattern leads from one state to another.
* `Pattern.State.pushParts`, `Pattern.textParts`: the state after several parts, and the parts of a
  given text.
* `Pattern.operators`: the characters that do not stand for themselves.

## Main results

* `Pattern.readsTo_plain`, `Pattern.readsTo_escape`: reading a text without operators, or an escaped
  text, gives that text.
* `Expr.seqs_append_iff`, `Expr.reaches_seqs_charParts_iff`: what sequences and given characters
  lead over.
* `Expr.weight_seqs`: the weight of a sequence.
-/

set_option relaxedAutoImplicit false
set_option autoImplicit false

namespace Gloss

namespace Expr

/-! ## Sequences -/

/-- The parts of the pattern of a given text, one for each character. -/
def charParts (t : Text) : List Expr :=
  t.map fun c => .char (.single c)

variable {es fs : List Expr} {e : Expr} {p q : Cursor}

/-- The last pattern of a sequence is the second part of a pair. -/
lemma seqs_concat (h : es ≠ []) : seqs (es ++ [e]) = .seq (seqs es) e := by
  obtain ⟨first, rest, rfl⟩ := List.exists_cons_of_ne_nil h
  simp [seqs]

/-- **A sequence of sequences** is passed through something in between, for every relation that
passes sequences so.

**Proof sketch.** Induction on the second sequence from its end. One part at the end of a sequence
is passed last. -/
lemma seqs_append_iff {α : Type} {R : Expr → α → α → Prop} (hempty : ∀ x y, R .empty x y ↔ y = x)
    (hseq : ∀ a b x y, R (.seq a b) x y ↔ ∃ m, R a x m ∧ R b m y) {x y : α} :
    R (seqs (es ++ fs)) x y ↔ ∃ m, R (seqs es) x m ∧ R (seqs fs) m y := by
  have hconcat : ∀ (es : List Expr) (e : Expr) (x y : α),
      R (seqs (es ++ [e])) x y ↔ ∃ m, R (seqs es) x m ∧ R e m y := by
    intro es e x y
    by_cases h : es = []
    · subst h
      simp [seqs, hempty]
    · rw [seqs_concat h, hseq]
  induction fs using List.reverseRecOn generalizing y with
  | nil => simp [seqs, hempty]
  | append_singleton fs f ih =>
    rw [← List.append_assoc, hconcat]
    simp only [ih, hconcat]
    constructor
    · rintro ⟨m, ⟨n, hes, hfs⟩, hf⟩
      exact ⟨n, hes, m, hfs, hf⟩
    · rintro ⟨n, hes, m, hfs, hf⟩
      exact ⟨m, ⟨n, hes, hfs⟩, hf⟩

/-- A sequence of sequences leads through a place in between. -/
lemma reaches_seqs_append :
    (seqs (es ++ fs)).Reaches p q ↔ ∃ m, (seqs es).Reaches p m ∧ (seqs fs).Reaches m q :=
  seqs_append_iff (fun _ _ => Iff.rfl) fun _ _ _ _ => Iff.rfl

/-- The parts of a given text lead over that text. -/
lemma reaches_seqs_charParts_iff {t : Text} : (seqs (charParts t)).Reaches p q ↔ p.Reads t q := by
  rw [← reaches_literal_iff]
  induction t generalizing p with
  | nil => rfl
  | cons c t ih =>
    have hsplit : charParts (c :: t) = [.char (.single c)] ++ charParts t := rfl
    rw [hsplit, reaches_seqs_append]
    simp only [ih]
    rfl

/-- A sequence of plain patterns is plain. -/
lemma isPlain_seqs (h : ∀ e ∈ es, e.isPlain = true) : (seqs es).isPlain = true := by
  induction es using List.reverseRecOn with
  | nil => rfl
  | append_singleton es e ih =>
    by_cases hes : es = []
    · subst hes
      exact h e (by simp)
    · rw [seqs_concat hes, isPlain, Bool.and_eq_true]
      exact ⟨ih fun f hf => h f (by simp [hf]), h e (by simp)⟩

/-- The weight of patterns together. -/
def totalWeight : List Expr → Nat
  | [] => 0
  | e :: es => e.weight + totalWeight es

/-- The weights of two lists of patterns add up. -/
@[simp]
lemma totalWeight_append (es fs : List Expr) :
    totalWeight (es ++ fs) = totalWeight es + totalWeight fs := by
  induction es with
  | nil => simp [totalWeight]
  | cons e es ih => simp only [List.cons_append, totalWeight, ih, Nat.add_assoc]

/-- What a pattern weighs is added to the total. -/
lemma weightOnto_eq (total : Nat) (e : Expr) : weightOnto total e = total + e.weight := by
  unfold weight
  induction e generalizing total with
  | seq a b iha ihb =>
    simp only [weightOnto]
    rw [iha, ihb, iha (weightOnto 0 b), ihb 0]
    omega
  | alt a b iha ihb =>
    simp only [weightOnto]
    rw [iha, ihb, iha (weightOnto _ b), ihb (0 + 72)]
    omega
  | option body greedy ih | group index body ih =>
    simp only [weightOnto]
    rw [ih, ih (0 + _)]
    omega
  | _ => simp [weightOnto]

/-- The weight of two patterns one after the other. -/
lemma weight_seq (a b : Expr) : (seq a b).weight = a.weight + b.weight := by
  rw [weight, weightOnto, weightOnto_eq, ← weight, Nat.add_comm]

/-- **The weight of a sequence** is that of its parts together. -/
lemma weight_seqs (h : es ≠ []) : (seqs es).weight = totalWeight es := by
  induction es using List.reverseRecOn with
  | nil => exact absurd rfl h
  | append_singleton es e ih =>
    by_cases hes : es = []
    · subst hes
      simp [seqs, totalWeight]
    · rw [seqs_concat hes, weight_seq, ih hes, totalWeight_append]
      rfl

/-- A given text weighs 32 for each of its bytes. -/
lemma totalWeight_charParts (t : Text) : totalWeight (charParts t) = 32 * Text.size t := by
  induction t with
  | nil => rfl
  | cons c t ih =>
    have hsplit : charParts (c :: t) = .char (.single c) :: charParts t := rfl
    have hchar : (Expr.char (.single c)).weight = 32 * c.utf8Size := by
      simp [weight, weightOnto, CharClass.single, CharClass.weight, CharClass.sole?]
    rw [hsplit, totalWeight, ih, hchar, Text.size_cons, Nat.mul_add]

end Expr

namespace Pattern

/-! ## Reading parts of a pattern -/

variable {s s' s'' : State} {t t' t'' : Text}

/-- Reading the text up to `t'` leads from the state `s` to the state `s'`. -/
def ReadsTo (s : State) (t : Text) (s' : State) (t' : Text) : Prop :=
  ∀ bound, t.length ≤ bound → ∃ bound', t'.length ≤ bound' ∧
    readFrom bound s t = readFrom bound' s' t'

/-- Reading nothing stays in the same state. -/
lemma ReadsTo.refl (s : State) (t : Text) : ReadsTo s t s t :=
  fun bound hbound => ⟨bound, hbound, rfl⟩

/-- What is read in two parts is read. -/
lemma ReadsTo.trans (h : ReadsTo s t s' t') (h' : ReadsTo s' t' s'' t'') : ReadsTo s t s'' t'' := by
  intro bound hbound
  obtain ⟨bound', hbound', heq⟩ := h bound hbound
  obtain ⟨bound'', hbound'', heq'⟩ := h' bound' hbound'
  exact ⟨bound'', hbound'', heq.trans heq'⟩

/-- One character is read, with what belongs to it. -/
lemma ReadsTo.step {c : Char} {rest : Text} (h : s.next c rest = .ok (s', t'))
    (hle : t'.length ≤ rest.length) : ReadsTo s (c :: rest) s' t' := by
  intro bound hbound
  cases bound with
  | zero => simp at hbound
  | succ bound =>
    refine ⟨bound, Nat.le_trans hle (Nat.le_of_succ_le_succ hbound), ?_⟩
    rw [readFrom, h]

/-- A pattern that is read up to its end. -/
lemma ReadsTo.readFrom_eq (h : ReadsTo s t s' []) {bound : Nat} (hbound : t.length ≤ bound) :
    readFrom bound s t = s'.finish := by
  obtain ⟨bound', -, heq⟩ := h bound hbound
  rw [heq, readFrom]

/-- A level with one branch, a sequence, is that branch. -/
lemma Level.choice_eq_branch {level : Level} {a b : Expr} (hbranches : level.branches = [])
    (hbranch : level.branch.expr = .seq a b) : level.choice = level.branch := by
  have hone : level.choice =
      { expr := .choice [level.branch.expr], depth := level.branch.depth } := by
    unfold Level.choice
    rw [hbranches]
    rfl
  have hseq : Expr.choice [.seq a b] = .seq a b := rfl
  rw [hone, hbranch, hseq, ← hbranch]

/-- Parts that are nested in a list are nested once more than the deepest of them at most. -/
lemma listDepth_le {depths : List Nat} {n : Nat} (h : ∀ d ∈ depths, d ≤ n) :
    listDepth depths ≤ n + 1 := by
  have hfold : ∀ (l : List Nat) (start : Nat), start ≤ n → (∀ d ∈ l, d ≤ n) →
      l.foldl max start ≤ n := by
    intro l
    induction l with
    | nil => exact fun start hstart _ => hstart
    | cons d l ih =>
      intro start hstart hl
      exact ih _ (Nat.max_le.mpr ⟨hstart, hl d (by simp)⟩) fun e he => hl e (by simp [he])
  unfold listDepth
  split
  · exact Nat.zero_le _
  · exact Nat.le_succ_of_le (h _ (by simp))
  · exact Nat.succ_le_succ (hfold _ 0 (Nat.zero_le n) h)

/-! ## Escaped texts -/

/-- The state after several parts. -/
def State.pushParts (s : State) (parts : List Part) : State :=
  parts.foldl State.pushPart s

/-- The parts of a given text. -/
def textParts (t : Text) : List Part :=
  (Expr.charParts t).map fun e => ⟨e, 0⟩

/-- Parts are pushed one list after the other. -/
@[simp]
lemma State.pushParts_append (s : State) (first later : List Part) :
    s.pushParts (first ++ later) = (s.pushParts first).pushParts later :=
  List.foldl_append

/-- What parts add to a state. -/
lemma State.pushParts_eq (s : State) (parts : List Part) :
    s.pushParts parts = { s with level := { s.level with
      items := (parts.map Item.part).reverse ++ s.level.items } } := by
  induction parts generalizing s with
  | nil => rfl
  | cons part parts ih =>
    have hstep : s.pushParts (part :: parts) = (s.pushPart part).pushParts parts := rfl
    rw [hstep, ih]
    simp [State.pushPart, Level.push]

/-- Pushed parts leave the flags. -/
@[simp]
lemma State.flags_pushParts (s : State) (parts : List Part) :
    (s.pushParts parts).flags = s.flags := by
  rw [State.pushParts_eq]

/-- The parts of a given text are its characters. -/
lemma map_expr_textParts (t : Text) : (textParts t).map Part.expr = Expr.charParts t := by
  rw [textParts, List.map_map]
  exact List.map_id _

/-- Given characters have no depth. -/
lemma depth_of_mem_textParts {t : Text} {part : Part} (h : part ∈ textParts t) :
    part.depth = 0 := by
  obtain ⟨e, -, rfl⟩ := List.mem_map.mp h
  rfl

/-- A character with a meaning of its own is read back from its escaped form. -/
lemma readEscape_of_isMeta {c : Char} (h : isMeta c = true) (rest : Text) :
    readEscape (c :: rest) = .ok (.char c, rest) := by
  have hmem : c ∈ ['\\', '.', '+', '*', '?', '(', ')', '|', '[', ']', '{', '}', '^',
      '$', '#', '&', '-', '~'] := by
    simpa only [isMeta, List.contains_iff_mem] using h
  simp only [List.mem_cons, List.not_mem_nil, or_false] at hmem
  rcases hmem with
      rfl | rfl | rfl | rfl | rfl | rfl | rfl | rfl | rfl | rfl | rfl | rfl | rfl | rfl | rfl |
    rfl | rfl | rfl
  all_goals rfl

/-- The characters that do not stand for themselves outside classes. -/
def operators : List Char :=
  ['(', ')', '|', '[', '?', '*', '+', '{', '.', '^', '$', '\\']

/-- A character that starts nothing else stands for itself. -/
lemma State.next_eq_push {c : Char} (h : c ∉ operators) (s : State) (rest : Text) :
    s.next c rest = .ok (s.push (s.flags.literal c), rest) := by
  unfold State.next
  split
  all_goals first
    | rfl
    | exact absurd h (by decide)

/-- Where case counts, a given character stands for itself only. -/
lemma Flags.literal_eq {flags : Flags} (h : flags.ignoreCase = false) (c : Char) :
    flags.literal c = .char (.single c) := by
  simp [Flags.literal, foldedIf, h]

/-- Operators have a meaning of their own. -/
lemma not_mem_operators {c : Char} (h : ¬ isMeta c = true) : c ∉ operators := by
  intro hc
  refine h (List.contains_iff_mem.mpr ?_)
  simp only [operators, List.mem_cons, List.not_mem_nil, or_false] at hc ⊢
  tauto

/-- A text without operators stands for itself, one part for each character. -/
lemma readsTo_plain (h : s.flags.ignoreCase = false) (ht : ∀ c ∈ t, c ∉ operators) (rest : Text) :
    ReadsTo s (t ++ rest) (s.pushParts (textParts t)) rest := by
  induction t generalizing s with
  | nil => exact ReadsTo.refl s rest
  | cons c t ih =>
    have hrest : ReadsTo (s.push (.char (.single c))) (t ++ rest)
        ((s.push (.char (.single c))).pushParts (textParts t)) rest :=
          ih h fun d hd => ht d (by simp [hd])
    refine ReadsTo.trans (ReadsTo.step ?_ (Nat.le_refl _)) hrest
    rw [State.next_eq_push (ht c (by simp)), Flags.literal_eq h]

/-- **Reading an escaped text gives that text**, one part for each character.

**Proof sketch.** Induction on the text. A character with a meaning is read with the backslash
before it, any other by itself; both give a part for the character. -/
lemma readsTo_escape (h : s.flags.ignoreCase = false) (t rest : Text) :
    ReadsTo s (escape t ++ rest) (s.pushParts (textParts t)) rest := by
  induction t generalizing s with
  | nil => exact ReadsTo.refl s rest
  | cons c t ih =>
    have hrest : ReadsTo (s.push (.char (.single c))) (escape t ++ rest)
        ((s.push (.char (.single c))).pushParts (textParts t)) rest := ih h
    refine ReadsTo.trans ?_ hrest
    -- A character takes one step either way: with a backslash before it, both are read at once.
    by_cases hc : isMeta c = true
    · have hescape : escape (c :: t) ++ rest = '\\' :: c :: (escape t ++ rest) := by
        simp [escape, hc]
      rw [hescape]
      refine ReadsTo.step ?_ (Nat.le_succ _)
      have hread := readEscape_of_isMeta hc (escape t ++ rest)
      simp only [State.next, hread, bind, Except.bind, pure, Except.pure, Flags.escaped,
        Flags.literal_eq h]
    · have hescape : escape (c :: t) ++ rest = c :: (escape t ++ rest) := by
        simp [escape, hc]
      rw [hescape]
      refine ReadsTo.step ?_ (Nat.le_refl _)
      rw [State.next_eq_push (not_mem_operators hc), Flags.literal_eq h]

/-- What follows a repetition does not make it lazy if it starts with an escaped text. -/
lemma readGreed_escape (t : Text) {c : Char} (hc : c ≠ '?') (rest : Text) :
    readGreed (escape t ++ c :: rest) = (true, escape t ++ c :: rest) := by
  have hhead : ∀ d ∈ (escape t ++ c :: rest).head?, d ≠ '?' := by
    cases t with
    | nil => simpa [escape] using hc
    | cons d t =>
      by_cases hd : isMeta d = true
      · simp [escape, hd]
      · have hne : d ≠ '?' := by
          rintro rfl
          exact hd rfl
        simpa [escape, hd] using hne
  unfold readGreed
  split
  · next heq =>
    rw [heq] at hhead
    exact absurd rfl (hhead '?' rfl)
  · rfl

end Pattern

end Gloss
