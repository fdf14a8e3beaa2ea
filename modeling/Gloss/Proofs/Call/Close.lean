import Gloss.Proofs.Call.Arguments
import Gloss.Proofs.Call.Bytes

/-!
# The closing parenthesis

The parenthesis that closes a pair is found by a loop over bytes with a state of quotes and a
counter of open parentheses. This module states that loop with a counter that must not fall below
zero, and shows that the search over characters gives its answers, from any byte index. The counter
is the number of open parentheses, counted over the bytes that belong to no string; so the search
finds the first parenthesis that balances the pair.

## Main definitions

* `openAfter`: the number of open parentheses after a text.
* `closeFrom?`: the loop over bytes, which fails if the counter falls below zero.
* `ClosesAt`: a byte is the first parenthesis that balances a pair.

## Main results

* `closeFrom?_cases`: the loop does not fail, and ends at the first parenthesis that balances the
  pair.
* `closeFrom?_bytes`: over the bytes of a text the loop gives what the search over characters gives.
* `matchingClose?_eq_some_iff_closesAt`: what the search for the closing parenthesis finds.
-/

set_option relaxedAutoImplicit false
set_option autoImplicit false

namespace Gloss

open Text

/-! ## The number of open parentheses -/

/-- The number of parentheses that are open after a text, `depth` being open before it: those that
open outside of strings are added, and those that close there are taken off. -/
def openAfter (q : QuoteState) (depth : Nat) (before : Option Char) (t : Text) : Int :=
  depth + (q.unquoted before t).count '(' - (q.unquoted before t).count ')'

/-- The character closes the last pair that is open. -/
def ClosesLast (q : QuoteState) (depth : Nat) (c : Char) : Prop :=
  q.quotes c = false ∧ c = ')' ∧ depth ≤ 1

section

variable {q : QuoteState} {depth : Nat} {before : Option Char} {c : Char}

/-- The empty text opens and closes nothing. -/
@[simp]
lemma openAfter_nil : openAfter q depth before [] = depth := by
  simp [openAfter, QuoteState.unquoted]

/-- Behind a character the count goes on from the depth after it. -/
lemma openAfter_cons (hdepth : 0 < depth) (t : Text) :
    openAfter q depth before (c :: t) =
      openAfter (q.next before c) (Nesting.nested.depthNext q depth c) (some c) t := by
  have hexact := Nesting.depthNext_exact (q := q) (c := c) before fun _ _ => hdepth
  rw [openAfter, openAfter, QuoteState.unquoted_cons, List.count_append, List.count_append]
  omega

/-- A pair stays open behind every character but the one that closes the last. -/
lemma depthNext_pos (hdepth : 0 < depth) (h : ¬ ClosesLast q depth c) :
    0 < Nesting.nested.depthNext q depth c := by
  simp only [ClosesLast, not_and, Nat.not_le] at h
  simp only [Nesting.depthNext, Nesting.depthAfter]
  split
  · exact hdepth
  · next hquotes =>
    split
    · omega
    · split
      · next hclose =>
        have := h (eq_false_of_ne_true hquotes) hclose
        omega
      · exact hdepth

/-- A character outside the ASCII range does not change the depth. -/
lemma depthNext_of_not_isAscii (hc : ¬ IsAscii c) : Nesting.nested.depthNext q depth c = depth := by
  have hopen : c ≠ '(' := ne_of_not_isAscii hc (by decide)
  have hclose : c ≠ ')' := ne_of_not_isAscii hc (by decide)
  simp [Nesting.depthNext, Nesting.depthAfter, hopen, hclose]

/-- A character outside the ASCII range closes no parenthesis. -/
lemma not_closesLast_of_not_isAscii (hc : ¬ IsAscii c) : ¬ ClosesLast q depth c :=
  fun h => ne_of_not_isAscii hc (by decide) h.2.1

/-! ## The loop over bytes -/

/-- The loop over the bytes behind an index, with the counter `depth` of open parentheses. It fails
if a parenthesis closes while the counter is zero; else it gives the index of the parenthesis that
brings the counter to zero, if there is one. -/
def closeFrom? (q : QuoteState) (depth : Nat) (before : Option Char) (index : Nat) :
    Text → Option (Option Nat)
  | [] => some none
  | b :: rest =>
    if q.quotes b then closeFrom? (q.next before b) depth (some b) (index + 1) rest
    else if b = '(' then closeFrom? (q.next before b) (depth + 1) (some b) (index + 1) rest
    else if b = ')' then
      if depth = 0 then none
      else if depth - 1 = 0 then some (some index)
      else closeFrom? (q.next before b) (depth - 1) (some b) (index + 1) rest
    else closeFrom? (q.next before b) depth (some b) (index + 1) rest

/-- Behind every byte but the one that closes the last pair, the loop goes on. -/
lemma closeFrom?_cons (h : ¬ ClosesLast q depth c) (index : Nat) (rest : Text) :
    closeFrom? q depth before index (c :: rest) =
      closeFrom? (q.next before c) (Nesting.nested.depthNext q depth c) (some c)
        (index + 1) rest := by
  simp only [ClosesLast, not_and, Nat.not_le] at h
  simp only [closeFrom?, Nesting.depthNext, Nesting.depthAfter]
  split
  · rfl
  · next hquotes =>
    split
    · rfl
    · split
      · next hclose =>
        have := h (eq_false_of_ne_true hquotes) hclose
        rw [if_neg (by omega), if_neg (by omega)]
      · rfl

/-- At the byte that closes the last pair, the loop ends. -/
lemma closeFrom?_close (hquotes : q.quotes ')' = false) (index : Nat) (rest : Text) :
    closeFrom? q 1 before index (')' :: rest) = some (some index) := by
  simp [closeFrom?, hquotes]

/-- A part of the bytes reaches to the first parenthesis that brings the number of open ones to
zero. -/
structure ClosesBehind (q : QuoteState) (depth : Nat) (before : Option Char) (bs a : Text) :
    Prop where
  /-- A closing parenthesis stands behind the part. -/
  paren : ∃ b, bs = a ++ ')' :: b
  /-- It belongs to no string. -/
  closed : q.run before a = none
  /-- Behind it no parenthesis is open. -/
  zero : openAfter q depth before (a ++ [')']) = 0
  /-- Up to it one is. -/
  positive : ∀ a', a' <+: a → 0 < openAfter q depth before a'

/-- There is one such parenthesis at most. -/
lemma ClosesBehind.unique {bs a a' : Text} (h : ClosesBehind q depth before bs a)
    (h' : ClosesBehind q depth before bs a') : a = a' := by
  -- Of two such parts, the longer one would hold the parenthesis behind the shorter one.
  have hwithin : ∀ {a a' m : Text} {b b' : Text}, ClosesBehind q depth before bs a →
      ClosesBehind q depth before bs a' → a' = a ++ m → ')' :: b = m ++ ')' :: b' → a = a' := by
    intro a a' m b b' h h' ha' hm
    cases m with
    | nil => rw [ha', List.append_nil]
    | cons d m =>
      obtain ⟨rfl, -⟩ := List.cons.inj hm
      have hpos := h'.positive (a ++ [')']) ⟨m, by rw [ha']; simp⟩
      rw [h.zero] at hpos
      exact absurd hpos (by decide)
  obtain ⟨b, hb⟩ := h.paren
  obtain ⟨b', hb'⟩ := h'.paren
  rcases List.append_eq_append_iff.mp (hb.symm.trans hb') with ⟨m, ha', hm⟩ | ⟨m, ha, hm⟩
  · exact hwithin h h' ha' hm
  · exact (hwithin h' h ha hm).symm

/-- Behind a byte that does not close the last pair, the part reaches as far as it does from
there. -/
lemma closesBehind_cons_iff (hdepth : 0 < depth) (h : ¬ ClosesLast q depth c) {bs a : Text} :
    ClosesBehind q depth before (c :: bs) a ↔ ∃ a', a = c :: a' ∧
      ClosesBehind (q.next before c) (Nesting.nested.depthNext q depth c) (some c) bs a' := by
  constructor
  · intro hcloses
    obtain ⟨b, hb⟩ := hcloses.paren
    cases a with
    | nil =>
      obtain ⟨rfl, -⟩ := List.cons.inj hb
      obtain rfl : q = none := hcloses.closed
      have hzero := hcloses.zero
      rw [List.nil_append, openAfter_cons hdepth, openAfter_nil] at hzero
      have := depthNext_pos hdepth h
      omega
    | cons d a' =>
      obtain ⟨rfl, hbs⟩ := List.cons.inj hb
      refine ⟨a', rfl, ⟨b, hbs⟩, hcloses.closed, ?_, fun a'' ha'' => ?_⟩
      · rw [← openAfter_cons hdepth]
        exact hcloses.zero
      · rw [← openAfter_cons hdepth]
        exact hcloses.positive _ (List.cons_prefix_cons.mpr ⟨rfl, ha''⟩)
  · rintro ⟨a', rfl, ⟨b, rfl⟩, hclosed, hzero, hpositive⟩
    refine ⟨⟨b, rfl⟩, hclosed, ?_, fun a'' ha'' => ?_⟩
    · rw [List.cons_append, openAfter_cons hdepth]
      exact hzero
    · cases a'' with
      | nil => rw [openAfter_nil]; omega
      | cons d a'' =>
        obtain ⟨rfl, hprefix⟩ := List.cons_prefix_cons.mp ha''
        rw [openAfter_cons hdepth]
        exact hpositive a'' hprefix

/-- **The loop does not fail, and ends at the first parenthesis that balances the pair.**

**Proof sketch.** Induction on the bytes. The counter is positive, and stays so behind every byte
but the one that closes the last pair, where the loop ends. Before that byte, the count over the
bytes that are left starts with the new counter. -/
lemma closeFrom?_cases (hdepth : 0 < depth) (index : Nat) (bs : Text) :
    (closeFrom? q depth before index bs = some none ∧ ∀ a, ¬ ClosesBehind q depth before bs a) ∨
      ∃ a, closeFrom? q depth before index bs = some (some (index + a.length)) ∧
        ClosesBehind q depth before bs a := by
  induction bs generalizing q depth before index with
  | nil =>
    refine .inl ⟨rfl, fun a h => ?_⟩
    obtain ⟨b, hb⟩ := h.paren
    simp at hb
  | cons c bs ih =>
    by_cases hlast : ClosesLast q depth c
    · obtain ⟨hquotes, rfl, hle⟩ := hlast
      obtain rfl : depth = 1 := by omega
      obtain ⟨rfl, -⟩ := QuoteState.eq_none_of_quotes hquotes
      refine .inr ⟨[], closeFrom?_close hquotes index bs, ⟨bs, rfl⟩, rfl, ?_, fun a ha => ?_⟩
      · rw [List.nil_append, openAfter_cons hdepth]
        rfl
      · rw [List.prefix_nil.mp ha, openAfter_nil]
        exact Int.one_pos
    · simp only [closesBehind_cons_iff hdepth hlast, closeFrom?_cons hlast]
      rcases ih (depthNext_pos hdepth hlast) (index + 1) with ⟨hnone, hall⟩ | ⟨a, hsome, hcloses⟩
      · refine .inl ⟨hnone, ?_⟩
        rintro a ⟨a', -, hcloses⟩
        exact hall a' hcloses
      · refine .inr ⟨c :: a, ?_, a, rfl, hcloses⟩
        rw [hsome, List.length_cons]
        congr 2
        omega

/-! ## Bytes and characters -/

/-- Of what stands before the bytes only a backslash counts. -/
lemma closeFrom?_congr {before' : Option Char} (h : before = some '\\' ↔ before' = some '\\')
    (index : Nat) (bs : Text) :
    closeFrom? q depth before index bs = closeFrom? q depth before' index bs := by
  cases bs with
  | nil => rfl
  | cons b bs => simp only [closeFrom?, QuoteState.next_congr h]

/-- The loop passes over bytes that are not ASCII. -/
lemma closeFrom?_append_of_not_isAscii (hq : ∀ d ∈ q, isQuote d = true) {a : Text}
    (ha : ∀ b ∈ a, ¬ IsAscii b) (index : Nat) (rest : Text) :
    closeFrom? q depth before index (a ++ rest) =
      closeFrom? q depth (a.getLast?.or before) (index + a.length) rest := by
  induction a generalizing before index with
  | nil => rfl
  | cons b a ih =>
    obtain ⟨hb, ha⟩ := List.forall_mem_cons.mp ha
    rw [List.cons_append, closeFrom?_cons (not_closesLast_of_not_isAscii hb),
      QuoteState.next_of_not_isAscii hq hb, depthNext_of_not_isAscii hb, ih ha,
      getLast?_cons_or, List.length_cons, Nat.add_right_comm, Nat.add_assoc]

/-- Behind every character but the one that closes the last pair, the search goes on. -/
lemma splitCloseFrom?_cons {deeper deeper' : Nat} (h : ¬ ClosesLast q (deeper + 1) c)
    (hdeeper : Nesting.nested.depthNext q (deeper + 1) c = deeper' + 1)
    (offset : Nat) (rest : Text) :
    splitCloseFrom? q deeper before offset (c :: rest) =
      (splitCloseFrom? (q.next before c) deeper' (some c) (offset + c.utf8Size) rest).map
        fun found => (c :: found.1, found.2) := by
  simp only [ClosesLast, not_and, Nat.not_le] at h
  simp only [Nesting.depthNext, Nesting.depthAfter] at hdeeper
  simp only [splitCloseFrom?]
  split
  · next hquotes =>
    rw [if_pos hquotes] at hdeeper
    rw [Nat.succ.inj hdeeper]
  · next hquotes =>
    rw [if_neg hquotes] at hdeeper
    split
    · next hopen =>
      rw [if_pos hopen] at hdeeper
      rw [Nat.succ.inj hdeeper]
    · next hopen =>
      rw [if_neg hopen] at hdeeper
      split
      · next hclose =>
        rw [if_pos hclose] at hdeeper
        have hlt := h (eq_false_of_ne_true hquotes) hclose
        obtain rfl : deeper = deeper' + 1 := by omega
        rfl
      · next hclose =>
        rw [if_neg hclose] at hdeeper
        rw [Nat.succ.inj hdeeper]

/-- **Over the bytes of a text the loop gives what the search over characters gives.**

**Proof sketch.** Induction on the text. A character of one byte is one round of the loop, and
closes the pair for both or for none. The bytes of any other character are rounds that only move on,
and there are as many of them as the character is wide. -/
lemma closeFrom?_bytes (hq : ∀ d ∈ q, isQuote d = true) (deeper offset : Nat) (t : Text) :
    closeFrom? q (deeper + 1) before offset (bytes t) =
      some ((splitCloseFrom? q deeper before offset t).map fun found => found.2.offset) := by
  induction t generalizing q deeper before offset with
  | nil => rfl
  | cons c t ih =>
    rw [bytes_cons]
    by_cases hc : IsAscii c
    · rw [bytes_singleton hc, List.singleton_append]
      by_cases hlast : ClosesLast q (deeper + 1) c
      · obtain ⟨hquotes, rfl, hle⟩ := hlast
        obtain rfl : deeper = 0 := by omega
        rw [closeFrom?_close hquotes]
        simp [splitCloseFrom?, hquotes]
      · obtain ⟨deeper', hdeeper⟩ := Nat.exists_eq_add_one.mpr (depthNext_pos (by omega) hlast)
        have hsize : c.utf8Size = 1 :=
          Char.utf8Size_eq_one_iff.mpr (UInt32.le_iff_toNat_le.mpr hc)
        rw [closeFrom?_cons hlast, splitCloseFrom?_cons hlast hdeeper, hdeeper, hsize,
          ih fun d hd => QuoteState.isQuote_of_next hq hd, Option.map_map]
        rfl
    · have hhigh : ∀ b ∈ bytes [c], ¬ IsAscii b := fun b => not_isAscii_of_mem_bytes hc
      have hlength : (bytes [c]).length = c.utf8Size := by simp
      rw [closeFrom?_append_of_not_isAscii hq hhigh,
        closeFrom?_congr (QuoteState.backslash_congr hc hhigh (bytes_ne_nil c)), ih hq,
        hlength, splitCloseFrom?_cons (not_closesLast_of_not_isAscii hc)
          (depthNext_of_not_isAscii hc),
        QuoteState.next_of_not_isAscii hq hc, Option.map_map]
      rfl

end

/-- The bytes behind an index are the rest of the character that it cuts, if it cuts one, and the
bytes behind the next place of the text.

**Proof sketch.** Induction on the text up to the index. If the index lies inside a character,
that character has several bytes, none of which is in the ASCII range, and the next place is
behind it. -/
lemma exists_drop_bytes_eq (t : Text) {start offset : Nat} (before : Option Char)
    (hle : offset ≤ start) :
    ∃ a, (∀ b ∈ a, ¬ IsAscii b) ∧
      (bytes t).drop (start - offset) = a ++ bytes (Cursor.seek start before offset t).rest ∧
      ((Cursor.seek start before offset t).rest ≠ [] →
        (Cursor.seek start before offset t).offset = start + a.length) := by
  induction t generalizing before offset with
  | nil => exact ⟨[], by simp, by simp [Cursor.seek, bytes_nil], fun h => absurd rfl h⟩
  | cons c t ih =>
    rw [Cursor.seek]
    by_cases hhere : start ≤ offset
    · obtain rfl : start = offset := Nat.le_antisymm hhere hle
      exact ⟨[], by simp, by simp, by simp⟩
    · rw [if_neg hhere, bytes_cons]
      have hsize : (bytes [c]).length = c.utf8Size := by simp
      by_cases hnext : offset + c.utf8Size ≤ start
      · rw [List.drop_append, List.drop_eq_nil_of_le (by omega), List.nil_append, hsize,
          Nat.sub_sub]
        exact ih (some c) hnext
      · -- The index lies inside the character, which then has several bytes.
        have hc : ¬ IsAscii c := by
          intro hc
          rw [bytes_singleton hc, List.length_singleton] at hsize
          omega
        have hseek : Cursor.seek start (some c) (offset + c.utf8Size) t =
            { before := some c, rest := t, offset := offset + c.utf8Size } := by
          cases t with
          | nil => rfl
          | cons d t => rw [Cursor.seek, if_pos (by omega)]
        rw [hseek]
        refine ⟨(bytes [c]).drop (start - offset), fun b hb => ?_, ?_, fun _ => ?_⟩
        · exact not_isAscii_of_mem_bytes hc (List.mem_of_mem_drop hb)
        · rw [List.drop_append_of_le_length (by omega)]
        · rw [List.length_drop, hsize]
          simp only
          omega

/-- From any byte index the loop gives what the search for the closing parenthesis gives. -/
lemma closeFrom?_drop_bytes (t : Text) (start : Nat) :
    closeFrom? none 1 none start ((bytes t).drop start) = some (matchingClose? t start) := by
  obtain ⟨a, ha, hdrop, hoffset⟩ := exists_drop_bytes_eq t none (Nat.zero_le start)
  rw [Nat.sub_zero] at hdrop
  rw [matchingClose?, splitClose?, hdrop, closeFrom?_append_of_not_isAscii (by simp) ha]
  generalize Cursor.seek start none 0 t = place at hoffset
  by_cases hrest : place.rest = []
  · rw [hrest]
    rfl
  · rw [← hoffset hrest, ← closeFrom?_bytes (by simp)]
    cases hbytes : bytes place.rest with
    | nil => rfl
    | cons b bs => simp [closeFrom?, QuoteState.next_none]

/-! ## The closing parenthesis -/

/-- The byte at `close` is the first parenthesis that balances a pair whose inside starts at
`start`. -/
structure ClosesAt (bs : Text) (start close : Nat) : Prop where
  /-- The byte does not stand before the inside of the pair. -/
  start_le : start ≤ close
  /-- It is a closing parenthesis. -/
  paren : bs[close]? = some ')'
  /-- It belongs to no string. -/
  unquoted : QuoteState.quotes (QuoteState.run none none (bs.extract start close)) ')' = false
  /-- Behind it no parenthesis is open. -/
  zero : openAfter none 1 none (bs.extract start (close + 1)) = 0
  /-- Behind every earlier byte one is. -/
  positive : ∀ i, start ≤ i → i < close → 0 < openAfter none 1 none (bs.extract start (i + 1))

section

variable {bs : Text} {start close : Nat}

/-- A piece of a list is the start of what is left without the elements in front. -/
lemma extract_add (n : Nat) : bs.extract start (start + n) = (bs.drop start).take n := by
  rw [List.extract_eq_take_drop, Nat.add_sub_cancel_left]

/-- The bytes up to the parenthesis that balances the pair reach to it. -/
lemma ClosesAt.exists_closesBehind (h : ClosesAt bs start close) :
    ∃ a, close = start + a.length ∧ ClosesBehind none 1 none (bs.drop start) a := by
  obtain ⟨n, rfl⟩ := Nat.exists_eq_add_of_le h.start_le
  have hparen : (bs.drop start)[n]? = some ')' := by
    rw [List.getElem?_drop]
    exact h.paren
  obtain ⟨hlt, hget⟩ := List.getElem?_eq_some_iff.mp hparen
  have hnext : (bs.drop start).take (n + 1) = (bs.drop start).take n ++ [')'] := by
    rw [List.take_add_one, hparen]
    rfl
  have hlength : ((bs.drop start).take n).length = n := by
    rw [List.length_take]
    omega
  refine ⟨(bs.drop start).take n, by rw [hlength], ⟨(bs.drop start).drop (n + 1), ?_⟩, ?_, ?_, ?_⟩
  · rw [← hget, List.getElem_cons_drop, List.take_append_drop]
  · rw [← extract_add]
    exact (QuoteState.eq_none_of_quotes h.unquoted).1
  · rw [← hnext, ← extract_add]
    exact h.zero
  · intro a ha
    have hle := ha.length_le
    rw [hlength] at hle
    rw [List.prefix_iff_eq_take.mp ha, List.take_take, Nat.min_eq_left hle]
    -- Before the first byte the pair is open; a longer part ends with a byte before the
    -- parenthesis.
    cases hsize : a.length with
    | zero => rw [List.take_zero, openAfter_nil]; decide
    | succ m =>
      rw [← extract_add, ← Nat.add_assoc]
      exact h.positive (start + m) (by omega) (by omega)

/-- A part that reaches to the parenthesis that balances the pair gives its index. -/
lemma ClosesBehind.closesAt {a : Text} (h : ClosesBehind none 1 none (bs.drop start) a) :
    ClosesAt bs start (start + a.length) := by
  obtain ⟨b, hb⟩ := h.paren
  have htake : ∀ n, n ≤ a.length → bs.extract start (start + n) = a.take n := by
    intro n hn
    rw [extract_add, hb, List.take_append_of_le_length hn]
  refine ⟨Nat.le_add_right _ _, ?_, ?_, ?_, fun i hle hlt => ?_⟩
  · rw [← List.getElem?_drop, hb]
    simp
  · rw [htake _ (Nat.le_refl _), List.take_length, h.closed]
    rfl
  · rw [Nat.add_assoc, extract_add, hb, List.take_length_add_append]
    exact h.zero
  · obtain ⟨n, rfl⟩ := Nat.exists_eq_add_of_le hle
    rw [Nat.add_assoc, htake _ (by omega)]
    exact h.positive _ (List.take_prefix _ _)

end

/-- **What the search for the closing parenthesis finds.** From any byte index on, it finds the
first parenthesis that belongs to no string and balances the pair: behind it no parenthesis is open,
counted over the bytes that belong to no string, and behind every earlier byte one is. It finds
nothing iff there is no such parenthesis. And the loop over bytes, whose counter must not fall below
zero, does not fail and gives the same.

**Proof sketch.** Over the bytes behind the index the loop gives what the search over characters
gives; the bytes of a character that the index cuts are passed over. The loop stops at the first
byte behind which nothing is open, and there is one such byte at most. -/
theorem matchingClose?_eq_some_iff_closesAt (t : Text) (start : Nat) :
    (∀ close, matchingClose? t start = some close ↔ ClosesAt t.bytes start close) ∧
    (matchingClose? t start = none ↔ ∀ close, ¬ ClosesAt t.bytes start close) ∧
    closeFrom? none 1 none start (t.bytes.drop start) = some (matchingClose? t start) := by
  have hloop := closeFrom?_drop_bytes t start
  have hcases : (closeFrom? none 1 none start (t.bytes.drop start) = some none ∧ _) ∨ _ :=
    closeFrom?_cases Nat.one_pos start (t.bytes.drop start)
  rw [hloop] at hcases
  simp only [Option.some.injEq] at hcases
  rcases hcases with ⟨hnone, hall⟩ | ⟨a, hsome, hcloses⟩
  · have hno : ∀ close, ¬ ClosesAt t.bytes start close := by
      intro close hclose
      obtain ⟨a, -, hcloses⟩ := hclose.exists_closesBehind
      exact hall a hcloses
    rw [hnone]
    exact ⟨fun close => iff_of_false (by simp) (hno close), iff_of_true rfl hno, hnone ▸ hloop⟩
  · have hclose : ClosesAt t.bytes start (start + a.length) := hcloses.closesAt
    rw [hsome]
    refine ⟨fun close => ?_, iff_of_false (by simp) fun hno => hno _ hclose, hsome ▸ hloop⟩
    rw [Option.some.injEq]
    constructor
    · rintro rfl
      exact hclose
    · intro h
      obtain ⟨a', rfl, hcloses'⟩ := h.exists_closesBehind
      rw [hcloses.unique hcloses']

/-- The search may start inside of a character, and passes over a quoted parenthesis and an inner
pair. -/
example : matchingClose? "é')'())".toList 1 = some 7 := by decide +kernel

end Gloss
