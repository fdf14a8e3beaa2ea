import Gloss.Call.Quote
import Gloss.Proofs.Words

/-!
# Strings in code

The state of a scanner after a text, and the characters of the text that are code. As long as no
string is open, what stands before a text does not matter, so a scanner that starts anew in the
middle of a text, outside its strings, reads the same strings. An argument that leaves no string
open is a string literal iff a scanner finds one string in it, from its first to its last character.

## Main definitions

* `QuoteState.run`: the state after a text.
* `QuoteState.unquoted`: the characters of a text that belong to no string.
* `IsOneString`: a text is one string from its first to its last character.

## Main results

* `QuoteState.run_append`: reading a text in two parts.
* `QuoteState.run_trim`: white space around a text that leaves no string open does not matter.
* `closesWithin_eq_false_iff`: a string stays open up to the end of a text.
* `stringLiteral?_isSome_iff`: which arguments are string literals.
-/

set_option relaxedAutoImplicit false
set_option autoImplicit false

namespace Gloss

open Text

namespace QuoteState

/-! ## The state after a text -/

/-- The state after a text, which stands after `before`. -/
def run (q : QuoteState) (before : Option Char) : Text → QuoteState
  | [] => q
  | c :: rest => run (q.next before c) (some c) rest

/-- The characters of a text that belong to no string. -/
def unquoted (q : QuoteState) (before : Option Char) : Text → Text
  | [] => []
  | c :: rest =>
    if q.quotes c then unquoted (q.next before c) (some c) rest
    else c :: unquoted (q.next before c) (some c) rest

variable {q : QuoteState} {before : Option Char} {c : Char}

/-- The empty text leaves a string as open as it is. -/
@[simp]
lemma run_nil : q.run before [] = q := rfl

/-- A text is gone through character by character. -/
@[simp]
lemma run_cons (rest : Text) : q.run before (c :: rest) = (q.next before c).run (some c) rest := rfl

/-- Reading a text in two parts. -/
lemma run_append (a b : Text) :
    q.run before (a ++ b) = (q.run before a).run (a.getLast?.or before) b := by
  induction a generalizing q before with
  | nil => rfl
  | cons c a ih =>
    rw [List.cons_append, run_cons, run_cons, ih, List.getLast?_cons]
    cases a.getLast? <;> rfl

/-- As long as no string is open it does not matter what stands before a character. -/
lemma next_none : next none before c = if isQuote c then some c else none := rfl

/-- As long as no string is open it does not matter what stands before a text. -/
lemma run_none (before before' : Option Char) (t : Text) :
    run none before t = run none before' t := by
  cases t <;> rfl

/-- A character of code leaves no string open. -/
lemma eq_none_of_quotes (h : q.quotes c = false) : q = none ∧ isQuote c = false := by
  rw [quotes, Bool.or_eq_false_iff] at h
  exact ⟨Option.not_isSome_iff_eq_none.mp (by simp [h.1]), h.2⟩

/-! ## White space -/

/-- White space is no quote. -/
lemma isQuote_of_isBlank (h : isBlank c = true) : isQuote c = false := by
  simp only [isQuote, Bool.or_eq_false_iff, beq_eq_false_iff_ne]
  constructor <;>
  · rintro rfl
    exact absurd h (by decide)

/-- A string is opened by a quote. -/
lemma isQuote_of_next {quote : Char} (hq : ∀ c ∈ q, isQuote c = true)
    (h : q.next before c = some quote) : isQuote quote = true := by
  unfold next at h
  split at h
  · next old =>
    split at h
    · simp at h
    · exact hq quote h
  · split at h
    · next hc => exact Option.some.inj h ▸ hc
    · simp at h

/-- The string that is open has been opened by a quote. -/
lemma isQuote_of_run (hq : ∀ c ∈ q, isQuote c = true) (t : Text) :
    ∀ quote ∈ q.run before t, isQuote quote = true := by
  induction t generalizing q before with
  | nil => exact hq
  | cons c t ih => exact ih fun quote hquote => isQuote_of_next hq hquote

/-- White space changes no state. -/
lemma run_of_allBlank {t : Text} (hq : ∀ c ∈ q, isQuote c = true) (ht : AllBlank t) :
    q.run before t = q := by
  induction t generalizing before with
  | nil => rfl
  | cons c t ih =>
    obtain ⟨hc, ht⟩ := List.forall_mem_cons.mp ht
    have hquote := isQuote_of_isBlank hc
    have hnext : q.next before c = q := by
      cases q with
      | none => rw [next_none, hquote]; rfl
      | some quote =>
        have hne : c ≠ quote := by
          rintro rfl
          rw [hq c rfl] at hquote
          exact Bool.noConfusion hquote
        simp [next, hne]
    rw [run_cons, hnext, ih ht]

/-- **White space around a text that leaves no string open does not matter.** -/
lemma run_trim {t : Text} (h : run none before t = none) : run none none (trim t) = none := by
  obtain ⟨a, b, ht, ha, hb, -, -⟩ := exists_eq_append_trim t
  rw [ht, List.append_assoc, run_append, run_of_allBlank (by simp) ha, run_append,
    run_of_allBlank (isQuote_of_run (by simp) _) hb] at h
  rwa [run_none none (a.getLast?.or before)]

end QuoteState

/-! ## String literals -/

/-- The text is one string from its first to its last character: a string opens at the first
character, is open after every part of the text up to the last character, and closes there. -/
structure IsOneString (p : Text) : Prop where
  /-- A string opens at the first character. -/
  opens : (QuoteState.run none none (p.take 1)).isSome = true
  /-- The string does not close before the last character. -/
  stays : ∀ a, a <+: p → a ≠ [] → a ≠ p → (QuoteState.run none none a).isSome = true
  /-- The string closes at the last character. -/
  closes : QuoteState.run none none p = none

/-- A quote that does not close the string leaves it as it is. -/
lemma QuoteState.next_some {quote : Char} {before : Option Char} {c : Char} :
    QuoteState.next (some quote) before c =
      if (c == quote && before != some '\\') = true then none else some quote := by
  simp [QuoteState.next]

/-- A string in which nothing closes it stays open. -/
lemma run_of_closesWithin {quote : Char} {before : Option Char} {t : Text}
    (h : closesWithin quote before t = false) :
    QuoteState.run (some quote) before t = some quote := by
  induction t generalizing before with
  | nil => rfl
  | cons c t ih =>
    rw [closesWithin, Bool.or_eq_false_iff] at h
    rw [QuoteState.run_cons, QuoteState.next_some, h.1]
    exact ih h.2

/-- A string stays open in a text iff no quote in the text closes it. -/
lemma closesWithin_eq_false_iff {quote : Char} {before : Option Char} {t : Text} :
    closesWithin quote before t = false ↔
      ∀ a, a <+: t → (QuoteState.run (some quote) before a).isSome = true := by
  induction t generalizing before with
  | nil => simp [closesWithin]
  | cons c t ih =>
    rw [closesWithin, Bool.or_eq_false_iff, ih]
    constructor
    · rintro ⟨hfirst, hrest⟩ a ha
      cases a with
      | nil => rfl
      | cons d a =>
        obtain ⟨rfl, hprefix⟩ := List.cons_prefix_cons.mp ha
        rw [QuoteState.run_cons, QuoteState.next_some, hfirst]
        exact hrest a hprefix
    · intro h
      have hfirst : (c == quote && before != some '\\') = false := by
        have hopen := h [c] (List.cons_prefix_cons.mpr ⟨rfl, List.nil_prefix⟩)
        rw [QuoteState.run_cons, QuoteState.next_some, QuoteState.run_nil] at hopen
        by_contra hcloses
        rw [if_pos (eq_true_of_ne_false hcloses)] at hopen
        simp at hopen
      refine ⟨hfirst, fun a ha => ?_⟩
      have hopen := h (c :: a) (List.cons_prefix_cons.mpr ⟨rfl, ha⟩)
      rwa [QuoteState.run_cons, QuoteState.next_some, hfirst] at hopen

/-- Of what stands before a text only a backslash counts. -/
lemma closesWithin_congr {quote : Char} {before before' : Option Char} (h : before ≠ some '\\')
    (h' : before' ≠ some '\\') (t : Text) :
    closesWithin quote before t = closesWithin quote before' t := by
  cases t with
  | nil => rfl
  | cons c t => rw [closesWithin, closesWithin, bne_iff_ne.mpr h, bne_iff_ne.mpr h']

/-- The contents of a string literal stand between two equal quotes, and do not close it. -/
lemma stringLiteral?_eq_some_iff {p s : Text} (htrim : trim p = p) :
    stringLiteral? p = some s ↔ ∃ quote, isQuote quote = true ∧ p = quote :: (s ++ [quote]) ∧
      closesWithin quote (some quote) s = false := by
  have hbefore : ∀ {quote : Char}, isQuote quote = true →
      closesWithin quote none s = closesWithin quote (some quote) s := by
    intro quote hquote
    refine closesWithin_congr (by simp) ?_ s
    rintro ⟨rfl⟩
    exact absurd hquote (by decide)
  rw [stringLiteral?, htrim]
  constructor
  · intro h
    cases p with
    | nil => simp at h
    | cons quote rest =>
      simp only at h
      split at h
      · next hall =>
        obtain ⟨hquote, hlast, hinside⟩ := hall
        obtain ⟨s', rfl⟩ := List.getLast?_eq_some_iff.mp hlast
        rw [List.dropLast_concat] at h hinside
        obtain rfl := Option.some.inj h
        exact ⟨quote, hquote, rfl, hbefore hquote ▸ hinside⟩
      · simp at h
  · rintro ⟨quote, hquote, rfl, hinside⟩
    simp [hquote, hbefore hquote, hinside]

/-- **Which arguments are string literals.** An argument without white space at its ends that leaves
no string open is a literal iff it is one string.

**Proof sketch.** A literal only promises that its last character is a quote, which may stand behind
a backslash. Since no string is left open, it does not. -/
lemma stringLiteral?_isSome_iff {p : Text} (htrim : trim p = p)
    (hclosed : QuoteState.run none none p = none) :
    (stringLiteral? p).isSome = true ↔ IsOneString p := by
  have hfirst : ∀ {quote : Char}, isQuote quote = true →
      QuoteState.next none none quote = some quote := by
    intro quote hquote
    rw [QuoteState.next_none, if_pos hquote]
  rw [Option.isSome_iff_exists]
  constructor
  · rintro ⟨s, hs⟩
    obtain ⟨quote, hquote, rfl, hinside⟩ := (stringLiteral?_eq_some_iff htrim).mp hs
    refine ⟨by simp [hfirst hquote], fun a ha hne hproper => ?_, hclosed⟩
    obtain ⟨c, a, rfl⟩ := List.exists_cons_of_ne_nil hne
    obtain ⟨rfl, hprefix⟩ := List.cons_prefix_cons.mp ha
    rw [QuoteState.run_cons, hfirst hquote]
    -- A part that is not the whole text ends before the last quote.
    rcases List.prefix_concat_iff.mp hprefix with rfl | hprefix
    · exact absurd rfl hproper
    · exact closesWithin_eq_false_iff.mp hinside a hprefix
  · rintro ⟨hopens, hstays, hcloses⟩
    cases p with
    | nil => simp at hopens
    | cons quote rest =>
      have hquote : isQuote quote = true := by
        by_contra hnot
        simp [QuoteState.next_none, hnot] at hopens
      rw [QuoteState.run_cons, hfirst hquote] at hcloses
      rcases List.eq_nil_or_concat rest with rfl | ⟨s, c, rfl⟩
      · simp at hcloses
      · rw [List.concat_eq_append] at *
        have hinside : closesWithin quote (some quote) s = false := by
          refine closesWithin_eq_false_iff.mpr fun a ha => ?_
          have hproper : quote :: a ≠ quote :: (s ++ [c]) := by
            intro heq
            have hle := ha.length_le
            rw [(List.cons.inj heq).2, List.length_append, List.length_singleton] at hle
            omega
          have hopen := hstays (quote :: a)
            (List.cons_prefix_cons.mpr ⟨rfl, ha.trans (List.prefix_append _ _)⟩) (by simp) hproper
          rwa [QuoteState.run_cons, hfirst hquote] at hopen
        -- The string is open up to the last character, which closes it, so it is the same quote.
        have hlast : c = quote := by
          rw [QuoteState.run_append, run_of_closesWithin hinside, QuoteState.run_cons,
            QuoteState.next_some] at hcloses
          by_contra hne
          simp [hne] at hcloses
        exact ⟨s, (stringLiteral?_eq_some_iff htrim).mpr ⟨quote, hquote, by rw [hlast], hinside⟩⟩

end Gloss
