import Gloss.Proofs.Boundary
import Gloss.Proofs.Call.Quote
import Gloss.Text.Utf8

/-!
# Code as bytes

Offsets count bytes, while the scanners go over characters. What a scanner looks for (quotes,
backslashes, parentheses and commas) has one byte each, and no byte of any other character looks
like one of these. So a scanner that goes over the bytes of a text is in the same state at the end
of every character, and finds the same code.

## Main definitions

* `IsAscii`: a character of one byte.
* `Text.bytes`: the bytes of a text, each as the character with that code.

## Main results

* `Text.bytes_singleton`, `Text.not_isAscii_of_mem_bytes`: a character is its own byte, or none of
  its bytes is ASCII.
* `Text.getElem?_bytes_eq_some_iff`: where a character of one byte stands among the bytes.
* `QuoteState.run_bytes`, `QuoteState.unquoted_bytes`: bytes leave the same strings open, and the
  same code outside of strings.
-/

set_option relaxedAutoImplicit false
set_option autoImplicit false

namespace Gloss

/-- A character of one byte. -/
def IsAscii (c : Char) : Prop :=
  c.toNat ≤ 127

/-- Whether a character is in the ASCII range can be decided. -/
instance (c : Char) : Decidable (IsAscii c) :=
  inferInstanceAs (Decidable (c.toNat ≤ 127))

/-- A character outside the ASCII range is none inside it. -/
lemma ne_of_not_isAscii {c d : Char} (hc : ¬ IsAscii c) (hd : IsAscii d) : c ≠ d := by
  rintro rfl
  exact hc hd

namespace Text

/-! ## Bytes -/

/-- The bytes of the UTF-8 form of a text, each as the character with that code. -/
def bytes (t : Text) : Text :=
  t.toUtf8.map Char.ofUInt8

/-- The empty text has no bytes. -/
lemma bytes_nil : bytes [] = [] := rfl

/-- The bytes of a text come one part after the other. -/
@[simp]
lemma bytes_append (a b : Text) : bytes (a ++ b) = bytes a ++ bytes b := by
  simp [bytes, toUtf8]

/-- The bytes of the first character come first. -/
lemma bytes_cons (c : Char) (t : Text) : bytes (c :: t) = bytes [c] ++ bytes t :=
  bytes_append [c] t

/-- There are as many bytes as the size says. -/
@[simp]
lemma length_bytes (t : Text) : (bytes t).length = size t := by
  induction t with
  | nil => rfl
  | cons c t ih =>
    rw [bytes_cons, List.length_append, ih, size_cons]
    simp [bytes, toUtf8, String.length_utf8EncodeChar]

/-- Every character has a byte. -/
lemma bytes_ne_nil (c : Char) : bytes [c] ≠ [] := by
  have := Char.utf8Size_pos c
  rw [← List.length_pos_iff, length_bytes, size_cons, size_nil]
  omega

/-- A byte as a character has the number of the byte. -/
lemma toNat_ofUInt8 (b : UInt8) : (Char.ofUInt8 b).toNat = b.toNat :=
  UInt8.toNat_toUInt32 b

/-- A character of one byte is that byte. -/
lemma bytes_singleton {c : Char} (h : IsAscii c) : bytes [c] = [c] := by
  have hencode : String.utf8EncodeChar c = [UInt8.ofNat c.toNat] := by
    simp only [String.utf8EncodeChar]
    rw [if_pos (show c.val.toNat ≤ 127 from h)]
    rfl
  have hcode : Char.ofUInt8 (UInt8.ofNat c.toNat) = c := by
    refine Char.toNat_inj.mp ?_
    rw [toNat_ofUInt8, UInt8.toNat_ofNat']
    exact Nat.mod_eq_of_lt (Nat.lt_of_le_of_lt h (by decide))
  simp [bytes, toUtf8, hencode, hcode]

/-- No byte of any other character is ASCII. -/
lemma not_isAscii_of_mem_bytes {c b : Char} (hc : ¬ IsAscii c) (hb : b ∈ bytes [c]) :
    ¬ IsAscii b := by
  obtain ⟨code, hcode, rfl⟩ := List.mem_map.mp hb
  have hmem : code ∈ String.utf8EncodeChar c := by simpa [toUtf8] using hcode
  have hhigh : ∀ {n : Nat}, 128 ≤ n → n < 256 → code = UInt8.ofNat n →
      ¬ IsAscii (Char.ofUInt8 code) := by
    rintro n hle hlt rfl
    rw [IsAscii, toNat_ofUInt8, UInt8.toNat_ofNat', Nat.mod_eq_of_lt hlt]
    omega
  -- The first byte starts with the length of the character, the others with the bits `10`.
  simp only [String.utf8EncodeChar] at hmem
  rw [if_neg (show ¬ c.val.toNat ≤ 127 from hc)] at hmem
  split at hmem
  · simp only [List.mem_cons, List.not_mem_nil, or_false] at hmem
    rcases hmem with h | h
    all_goals exact hhigh (by omega) (by omega) h
  · split at hmem
    · simp only [List.mem_cons, List.not_mem_nil, or_false] at hmem
      rcases hmem with h | h | h
      all_goals exact hhigh (by omega) (by omega) h
    · simp only [List.mem_cons, List.not_mem_nil, or_false] at hmem
      rcases hmem with h | h | h | h
      all_goals exact hhigh (by omega) (by omega) h

/-- The bytes of the first of two parts. -/
lemma take_bytes_append (a b : Text) : (bytes (a ++ b)).take (size a) = bytes a := by
  rw [bytes_append, ← length_bytes, List.take_left]

/-- **Where a character of one byte stands among the bytes**: where it stands in the text.

**Proof sketch.** Induction on the text. The index lies among the bytes of the first character, and
these hold a character of one byte only if they are that character; or it lies behind them. -/
lemma getElem?_bytes_eq_some_iff {c : Char} (hc : IsAscii c) {t : Text} {i : Nat} :
    (bytes t)[i]? = some c ↔ ∃ a b, t = a ++ c :: b ∧ size a = i := by
  constructor
  · intro h
    induction t generalizing i with
    | nil => simp at h
    | cons d t ih =>
      rw [bytes_cons] at h
      by_cases hlt : i < size [d]
      · rw [List.getElem?_append_left (by rwa [length_bytes])] at h
        have hd : IsAscii d := by
          by_contra hd
          exact not_isAscii_of_mem_bytes hd (List.mem_of_getElem? h) hc
        rw [bytes_singleton hd, List.getElem?_singleton] at h
        obtain ⟨rfl, rfl⟩ : i = 0 ∧ d = c := by simpa using h
        exact ⟨[], t, rfl, rfl⟩
      · rw [List.getElem?_append_right (by rw [length_bytes]; omega), length_bytes] at h
        obtain ⟨a, b, rfl, hsize⟩ := ih h
        refine ⟨d :: a, b, rfl, ?_⟩
        simp only [size_cons, size_nil] at hlt hsize ⊢
        omega
  · rintro ⟨a, b, rfl, rfl⟩
    rw [bytes_append, List.getElem?_append_right (Nat.le_of_eq (length_bytes a)), length_bytes,
      Nat.sub_self, bytes_cons, bytes_singleton hc]
    rfl

/-- What stands before the rest of a text is the last character before it. -/
lemma getLast?_cons_or (c : Char) (a : Text) (before : Option Char) :
    (c :: a).getLast?.or before = a.getLast?.or (some c) := by
  rw [List.getLast?_cons]
  cases a.getLast? <;> rfl

end Text

/-! ## Strings and code -/

namespace QuoteState

open Text

variable {q : QuoteState} {before before' : Option Char} {c : Char} {a t : Text}

/-- Quotes are in the ASCII range. -/
lemma isAscii_of_isQuote (h : isQuote c = true) : IsAscii c := by
  simp only [isQuote, Bool.or_eq_true, beq_iff_eq] at h
  rcases h with rfl | rfl <;> decide

/-- A character outside the ASCII range is no quote. -/
lemma isQuote_of_not_isAscii (h : ¬ IsAscii c) : isQuote c = false :=
  eq_false_of_ne_true fun hquote => h (isAscii_of_isQuote hquote)

/-- Of what stands before a character only a backslash counts. -/
lemma next_congr (h : before = some '\\' ↔ before' = some '\\') :
    q.next before c = q.next before' c := by
  simp only [next, ne_eq, h]

/-- Of the character in front it only matters whether it is a backslash. -/
lemma run_congr (h : before = some '\\' ↔ before' = some '\\') (t : Text) :
    q.run before t = q.run before' t := by
  cases t with
  | nil => rfl
  | cons c t => rw [run_cons, run_cons, next_congr h]

/-- What is unquoted depends on the character in front only by whether it is a backslash. -/
lemma unquoted_congr (h : before = some '\\' ↔ before' = some '\\') (t : Text) :
    q.unquoted before t = q.unquoted before' t := by
  cases t with
  | nil => rfl
  | cons c t => rw [unquoted, unquoted, next_congr h]

/-- The code of a text in two parts. -/
lemma unquoted_append (a b : Text) :
    q.unquoted before (a ++ b) =
      q.unquoted before a ++ (q.run before a).unquoted (a.getLast?.or before) b := by
  induction a generalizing q before with
  | nil => rfl
  | cons c a ih =>
    rw [List.cons_append, unquoted, unquoted, run_cons, ih, getLast?_cons_or]
    split <;> rfl

/-- A character of several bytes changes no state. -/
lemma next_of_not_isAscii (hq : ∀ d ∈ q, isQuote d = true) (hc : ¬ IsAscii c) :
    q.next before c = q := by
  cases q with
  | none => rw [next_none, isQuote_of_not_isAscii hc]; rfl
  | some quote =>
    have hne : c ≠ quote := ne_of_not_isAscii hc (isAscii_of_isQuote (hq quote rfl))
    simp [next, hne]

/-- A character outside the ASCII range is quoted iff a string is open. -/
lemma quotes_of_not_isAscii (hc : ¬ IsAscii c) : q.quotes c = q.isSome := by
  rw [quotes, isQuote_of_not_isAscii hc, Bool.or_false]

/-- Characters outside the ASCII range neither open nor close a string. -/
lemma run_of_not_isAscii (hq : ∀ d ∈ q, isQuote d = true) (ha : ∀ b ∈ a, ¬ IsAscii b) :
    q.run before a = q := by
  induction a generalizing before with
  | nil => rfl
  | cons b a ih =>
    obtain ⟨hb, ha⟩ := List.forall_mem_cons.mp ha
    rw [run_cons, next_of_not_isAscii hq hb, ih ha]

/-- Behind characters of several bytes there is no backslash, as there is none behind one. -/
lemma backslash_congr (hc : ¬ IsAscii c) (ha : ∀ b ∈ a, ¬ IsAscii b) (hne : a ≠ []) :
    a.getLast?.or before = some '\\' ↔ some c = some '\\' := by
  rw [List.getLast?_eq_some_getLast hne, Option.some_or, Option.some.injEq, Option.some.injEq]
  exact iff_of_false (ne_of_not_isAscii (ha _ (List.getLast_mem hne)) (by decide))
    (ne_of_not_isAscii hc (by decide))

/-- **Bytes leave the same strings open** as the characters that they stand for. -/
lemma run_bytes (hq : ∀ d ∈ q, isQuote d = true) (t : Text) :
    q.run before (bytes t) = q.run before t := by
  induction t generalizing q before with
  | nil => rfl
  | cons c t ih =>
    rw [bytes_cons, run_cons]
    by_cases hc : IsAscii c
    · rw [bytes_singleton hc]
      exact ih fun d hd => isQuote_of_next hq hd
    · have hhigh : ∀ b ∈ bytes [c], ¬ IsAscii b := fun b => not_isAscii_of_mem_bytes hc
      rw [run_append, run_of_not_isAscii hq hhigh, next_of_not_isAscii hq hc,
        run_congr (backslash_congr hc hhigh (bytes_ne_nil c)), ih hq]

/-- Characters outside the ASCII range are unquoted iff no string is open. -/
lemma unquoted_of_not_isAscii (hq : ∀ d ∈ q, isQuote d = true) (ha : ∀ b ∈ a, ¬ IsAscii b) :
    q.unquoted before a = if q.isSome then [] else a := by
  induction a generalizing before with
  | nil => simp [unquoted]
  | cons b a ih =>
    obtain ⟨hb, ha⟩ := List.forall_mem_cons.mp ha
    rw [unquoted, next_of_not_isAscii hq hb, quotes_of_not_isAscii hb, ih ha]
    split <;> rfl

/-- **Bytes have the same code** as the characters that they stand for.

**Proof sketch.** Induction on the text. A character of one byte is read as itself. The bytes of any
other are no quotes and no backslashes, so they leave the state as the character does. -/
lemma unquoted_bytes (hq : ∀ d ∈ q, isQuote d = true) (t : Text) :
    q.unquoted before (bytes t) = bytes (q.unquoted before t) := by
  induction t generalizing q before with
  | nil => rfl
  | cons c t ih =>
    rw [bytes_cons, unquoted_append]
    by_cases hc : IsAscii c
    · rw [bytes_singleton hc]
      have hrest : (q.next before c).unquoted (some c) (bytes t) =
          bytes ((q.next before c).unquoted (some c) t) := ih fun d hd => isQuote_of_next hq hd
      simp only [unquoted, run_cons, run_nil, List.getLast?_singleton, Option.some_or, hrest]
      split
      · rfl
      · rw [bytes_cons, bytes_singleton hc]
    · have hhigh : ∀ b ∈ bytes [c], ¬ IsAscii b := fun b => not_isAscii_of_mem_bytes hc
      rw [run_of_not_isAscii hq hhigh, unquoted_of_not_isAscii hq hhigh,
        unquoted_congr (backslash_congr hc hhigh (bytes_ne_nil c)), ih hq, unquoted,
        next_of_not_isAscii hq hc, quotes_of_not_isAscii hc]
      split
      · rfl
      · exact (bytes_cons c _).symm

end QuoteState

end Gloss
