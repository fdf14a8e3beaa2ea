import Gloss.Proofs.Call.Quote
import Gloss.Proofs.Call.Span

/-!
# Arguments of calls

The arguments of a call that is found in a text reach to the parenthesis that balances the opening
one, so they leave no string and no parenthesis open, and no parenthesis closes too many. The
splitter of arguments, which reads them from the beginning, therefore has the same strings and the
same depth, and every argument that it gives leaves no string open either.

## Main definitions

* `Nesting.depthAlong`: the depth that the splitter has reached after a text.
* `Balanced`: a text closes the strings and parentheses that are open, and nothing else.
* `CutsBehind`: a comma behind a text separates arguments.

## Main results

* `splitCloseFrom?_balanced`: what is found before the closing parenthesis is balanced.
* `piecesFrom_spec`: the pieces of a text stand between commas that separate arguments.
* `run_of_mem_piecesFrom`: the pieces of a text that leaves no string open leave none open.
* `Pattern.calls_quoting_agrees`: scanner, splitter and literals agree on the strings of arguments.
-/

set_option relaxedAutoImplicit false
set_option autoImplicit false

namespace Gloss

open Text

/-! ## Depth -/

/-- The depth after a character, which counts unless it belongs to a string. -/
def Nesting.depthNext (nesting : Nesting) (q : QuoteState) (depth : Nat) (c : Char) : Nat :=
  if q.quotes c then depth else nesting.depthAfter depth c

/-- The depth that the splitter has reached after a text. -/
def Nesting.depthAlong (nesting : Nesting) (q : QuoteState) (depth : Nat) (before : Option Char) :
    Text → Nat
  | [] => depth
  | c :: rest =>
    depthAlong nesting (q.next before c) (nesting.depthNext q depth c) (some c) rest

/-- A text closes the strings and parentheses that are open, and nothing else: no string and no
parenthesis is open after it, and after each of its parts the depth is the exact number of open
parentheses, since no parenthesis closes too many. -/
structure Balanced (q : QuoteState) (depth : Nat) (before : Option Char) (t : Text) : Prop where
  /-- No string is open. -/
  closed : q.run before t = none
  /-- No parenthesis is open. -/
  outer : Nesting.nested.depthAlong q depth before t = 0
  /-- The depth is the exact number of open parentheses. -/
  exact : ∀ a, a <+: t → Nesting.nested.depthAlong q depth before a +
    (q.unquoted before a).count ')' = depth + (q.unquoted before a).count '('

section

variable {q : QuoteState} {depth : Nat} {before : Option Char} {c : Char} {t : Text}

/-- The depth after a character is exact unless a parenthesis closes too many. -/
lemma Nesting.depthNext_exact (before : Option Char)
    (hopen : q.quotes c = false → c = ')' → 0 < depth) :
    Nesting.nested.depthNext q depth c + (q.unquoted before [c]).count ')' =
      depth + (q.unquoted before [c]).count '(' := by
  cases hquotes : q.quotes c with
  | true => simp [depthNext, QuoteState.unquoted, hquotes]
  | false =>
    by_cases hclose : c = ')'
    · have := hopen hquotes hclose
      subst hclose
      simp [depthNext, depthAfter, QuoteState.unquoted, hquotes]
      omega
    · by_cases hparen : c = '('
      · subst hparen
        simp [depthNext, depthAfter, QuoteState.unquoted, hquotes]
      · simp [depthNext, depthAfter, QuoteState.unquoted, hquotes, hclose, hparen]

/-- The code of a text is the code of its first character and that of the rest. -/
lemma QuoteState.unquoted_cons (rest : Text) :
    q.unquoted before (c :: rest) =
      q.unquoted before [c] ++ (q.next before c).unquoted (some c) rest := by
  simp only [unquoted]
  split <;> rfl

/-- A character in front of a balanced text, unless it is a parenthesis that closes too many. -/
lemma Balanced.cons
    (h : Balanced (q.next before c) (Nesting.nested.depthNext q depth c) (some c) t)
    (hopen : q.quotes c = false → c = ')' → 0 < depth) : Balanced q depth before (c :: t) where
  closed := h.closed
  outer := h.outer
  exact a ha := by
    cases a with
    | nil => rfl
    | cons d a =>
      obtain ⟨rfl, hprefix⟩ := List.cons_prefix_cons.mp ha
      have hrest := h.exact a hprefix
      have hfirst := Nesting.depthNext_exact before hopen
      rw [QuoteState.unquoted_cons, List.count_append, List.count_append, Nesting.depthAlong]
      omega

/-- The empty text is balanced. -/
lemma balanced_nil : Balanced none 0 before [] where
  closed := rfl
  outer := rfl
  exact a ha := by
    rw [List.prefix_nil.mp ha]
    rfl

/-- As long as no string is open it does not matter what stands before a text. -/
lemma Balanced.of_none (h : Balanced none depth before t) : Balanced none depth none t where
  closed := by rw [QuoteState.run_none none before, h.closed]
  outer := by
    have := h.outer
    cases t <;> exact this
  exact a ha := by
    have := h.exact a ha
    cases a <;> exact this

/-- **What is found before the closing parenthesis is balanced.**

**Proof sketch.** Induction on the text. A character that goes on leaves the depth exact, since a
closing parenthesis that is not quoted only goes on below the first level; the search ends at one on
the first level. -/
lemma splitCloseFrom?_balanced {deeper offset : Nat} {rest : Text} {found : Text × Cursor}
    (h : splitCloseFrom? q deeper before offset rest = some found) :
    Balanced q deeper before found.1 := by
  induction rest generalizing q deeper before offset found with
  | nil => simp [splitCloseFrom?] at h
  | cons c rest ih =>
    have honward : ∀ next, Nesting.nested.depthNext q deeper c = next →
        (q.quotes c = false → c = ')' → 0 < deeper) →
        (splitCloseFrom? (q.next before c) next (some c) (offset + c.utf8Size) rest).map
          (fun found => (c :: found.1, found.2)) = some found →
        Balanced q deeper before found.1 := by
      rintro next rfl hopen h
      obtain ⟨later, hlater, rfl⟩ := Option.map_eq_some_iff.mp h
      exact (ih hlater).cons hopen
    simp only [splitCloseFrom?] at h
    split at h
    · next hquotes => exact honward _ (by simp [Nesting.depthNext, hquotes]) (by simp [hquotes]) h
    · next hquotes =>
      split at h
      · next hparen =>
        subst hparen
        exact honward _ (by simp [Nesting.depthNext, Nesting.depthAfter, hquotes]) (by simp) h
      · next hparen =>
        split at h
        · next hclose =>
          subst hclose
          split at h
          · obtain rfl : _ = found := by simpa using h
            obtain ⟨rfl, -⟩ := QuoteState.eq_none_of_quotes (eq_false_of_ne_true hquotes)
            exact balanced_nil
          · exact honward _ (by simp [Nesting.depthNext, Nesting.depthAfter, hquotes]) (by simp) h
        · next hclose =>
          exact honward _ (by simp [Nesting.depthNext, Nesting.depthAfter, hquotes, hparen, hclose])
            (fun _ hc => absurd hc hclose) h

end

/-! ## Pieces -/

/-- A comma behind the text separates arguments: no string is open, and no parenthesis that
counts. -/
def CutsBehind (nesting : Nesting) (q : QuoteState) (depth : Nat) (before : Option Char)
    (a : Text) : Prop :=
  q.run before a = none ∧ nesting.depthAlong q depth before a = 0

/-- **The pieces of a text stand between commas that separate arguments.** The first piece starts
where the text does, every other one behind such a comma, and each ends before one or with the text.

**Proof sketch.** Induction on the text, for any state of quotes and any depth. At a separating
comma no string is open and the depth is zero, so that the splitter starts anew behind it; any other
character goes to the front of the first piece. -/
lemma piecesFrom_spec (nesting : Nesting) (q : QuoteState) (depth : Nat) (before : Option Char)
    (t : Text) :
    ∃ first more, piecesFrom nesting q depth before t = first :: more ∧
      (∃ b, t = first ++ b ∧ ∀ c ∈ b.head?, c = ',' ∧ CutsBehind nesting q depth before first) ∧
      ∀ piece ∈ more, ∃ a b, t = a ++ ',' :: (piece ++ b) ∧ CutsBehind nesting q depth before a ∧
        ∀ c ∈ b.head?, c = ',' ∧ CutsBehind nesting q depth before (a ++ ',' :: piece) := by
  induction t generalizing q depth before with
  | nil => exact ⟨[], [], rfl, ⟨[], rfl, by simp⟩, by simp⟩
  | cons c t ih =>
    rw [piecesFrom]
    split
    · next hcut =>
      simp only [Bool.and_eq_true, Bool.not_eq_true', beq_iff_eq] at hcut
      obtain ⟨⟨hquotes, rfl⟩, rfl⟩ := hcut
      obtain ⟨rfl, -⟩ := QuoteState.eq_none_of_quotes hquotes
      have hhere : CutsBehind nesting none 0 before [] := ⟨rfl, rfl⟩
      have hdepth : nesting.depthNext none 0 ',' = 0 := by cases nesting <;> rfl
      -- The comma leaves the state and the depth, so behind it the splitter starts anew.
      have hshift : ∀ {a}, CutsBehind nesting none 0 (some ',') a →
          CutsBehind nesting none 0 before (',' :: a) := by
        rintro a ⟨hrun, hzero⟩
        refine ⟨hrun, ?_⟩
        rw [Nesting.depthAlong, hdepth]
        exact hzero
      obtain ⟨first, more, hpieces, ⟨b, rfl, hb⟩, hmore⟩ := ih none 0 (some ',')
      refine ⟨[], first :: more, by rw [hpieces], ⟨',' :: (first ++ b), rfl, ?_⟩, ?_⟩
      · intro c hc
        exact ⟨(Option.some.inj hc).symm, hhere⟩
      · intro piece hpiece
        rcases List.mem_cons.mp hpiece with rfl | hpiece
        · exact ⟨[], b, rfl, hhere, fun c hc => ⟨(hb c hc).1, hshift (hb c hc).2⟩⟩
        · obtain ⟨a, b', heq, ha, hb'⟩ := hmore piece hpiece
          exact ⟨',' :: a, b', by rw [heq]; rfl, hshift ha,
            fun c hc => ⟨(hb' c hc).1, hshift (hb' c hc).2⟩⟩
    · have hshift : ∀ {a}, CutsBehind nesting (q.next before c) (nesting.depthNext q depth c)
          (some c) a → CutsBehind nesting q depth before (c :: a) := fun h => h
      obtain ⟨first, more, hpieces, ⟨b, rfl, hb⟩, hmore⟩ :=
        ih (q.next before c) (nesting.depthNext q depth c) (some c)
      rw [Nesting.depthNext] at hpieces
      simp only [hpieces]
      refine ⟨c :: first, more, rfl, ⟨b, rfl, fun d hd => ?_⟩, fun piece hpiece => ?_⟩
      · exact ⟨(hb d hd).1, hshift (hb d hd).2⟩
      · obtain ⟨a, b', heq, ha, hb'⟩ := hmore piece hpiece
        exact ⟨c :: a, b', by rw [heq]; rfl, hshift ha,
          fun d hd => ⟨(hb' d hd).1, hshift (hb' d hd).2⟩⟩

/-- **The pieces of a text that leaves no string open leave none open.**

**Proof sketch.** No string is open where a piece starts and where it ends: at a comma that
separates arguments, or at the ends of the text. -/
lemma run_of_mem_piecesFrom {nesting : Nesting} {t piece : Text}
    (hclosed : QuoteState.run none none t = none)
    (h : piece ∈ piecesFrom nesting none 0 none t) : QuoteState.run none none piece = none := by
  obtain ⟨first, more, hpieces, ⟨b, ht, hb⟩, hmore⟩ := piecesFrom_spec nesting none 0 none t
  rw [hpieces] at h
  rcases List.mem_cons.mp h with rfl | h
  · cases b with
    | nil => rwa [ht, List.append_nil] at hclosed
    | cons c b => exact (hb c rfl).2.1
  · obtain ⟨a, b, ht, ha, hb⟩ := hmore piece h
    -- Up to the end of the piece no string is open, and neither is one before its comma.
    have hend : QuoteState.run none none (a ++ ',' :: piece) = none := by
      cases b with
      | nil => rwa [ht, List.append_nil] at hclosed
      | cons c b => exact (hb c rfl).2.1
    rw [QuoteState.run_append, ha.1] at hend
    exact (QuoteState.run_none none (some ',') piece).trans hend

/-- An argument has no white space at its ends and leaves no string open. -/
lemma run_of_mem_splitArguments {nesting : Nesting} {t argument : Text}
    (hclosed : QuoteState.run none none t = none) (h : argument ∈ splitArguments nesting t) :
    trim argument = argument ∧ QuoteState.run none none argument = none := by
  unfold splitArguments at h
  split at h
  · simp at h
  · obtain ⟨piece, hpiece, rfl⟩ := List.mem_map.mp h
    exact ⟨trim_trim piece, QuoteState.run_trim (run_of_mem_piecesFrom hclosed hpiece)⟩

/-! ## Calls -/

/-- Every call is the call of a match. -/
lemma Pattern.exists_ofMatch?_of_mem_callsFrom {e : Expr} {resume : Nat} {before : Option Char}
    {offset : Nat} {rest : Text} {site : CallSite}
    (h : site ∈ callsFrom e resume before offset rest) : ∃ m, CallSite.ofMatch? m = some site := by
  induction rest generalizing resume before offset with
  | nil => simp [callsFrom] at h
  | cons c rest ih =>
    simp only [callsFrom] at h
    split at h
    · exact ih h
    · split at h
      · exact ih h
      · next m hm =>
        split at h
        · simp at h
        · next found hfound =>
          rcases List.mem_cons.mp h with rfl | h
          · exact ⟨m, hfound⟩
          · exact ih h

/-- The arguments of a call are balanced. -/
lemma Pattern.balanced_arguments {p : Pattern} {t : Text} {site : CallSite}
    (h : site ∈ p.calls t) : Balanced none 0 none site.arguments := by
  unfold calls at h
  split at h
  · obtain ⟨m, hm⟩ := exists_ofMatch?_of_mem_callsFrom h
    simp only [CallSite.ofMatch?] at hm
    split at hm
    · obtain ⟨found, hfound, rfl⟩ := Option.map_eq_some_iff.mp hm
      exact (splitCloseFrom?_balanced hfound).of_none
    · simp at hm
  · simp at h

/-- **Scanner, splitter and literals agree on the strings of arguments.** The arguments of a call
that is found in a text leave no string open; their unquoted parentheses never close too many and
are balanced in the end, so the depth of the splitter, which stops at zero, is always the exact one.
And an argument that the splitter gives, whether parentheses count or not, is a string literal iff
it is one string from its first to its last character; its contents then stand between two equal
quotes.

**Proof sketch.** What the scanner finds before the closing parenthesis is balanced, by induction on
the text. The splitter counts the same characters, so it cuts where no string is open, and its
pieces leave none open. A trimmed piece that leaves no string open is a literal iff its first quote
is closed by its last character. -/
theorem Pattern.calls_quoting_agrees {p : Pattern} {t : Text} {site : CallSite}
    (hsite : site ∈ p.calls t) :
    (QuoteState.run none none site.arguments = none ∧
      (∀ a, a <+: site.arguments →
        (QuoteState.unquoted none none a).count ')' ≤ (QuoteState.unquoted none none a).count '(' ∧
        Nesting.nested.depthAlong none 0 none a + (QuoteState.unquoted none none a).count ')' =
          (QuoteState.unquoted none none a).count '(') ∧
      (QuoteState.unquoted none none site.arguments).count ')' =
        (QuoteState.unquoted none none site.arguments).count '(') ∧
    ∀ nesting, ∀ argument ∈ splitArguments nesting site.arguments,
      ((stringLiteral? argument).isSome = true ↔ IsOneString argument) ∧
      ∀ s, stringLiteral? argument = some s →
        ∃ quote, isQuote quote = true ∧ argument = quote :: (s ++ [quote]) := by
  have hbalanced := balanced_arguments hsite
  refine ⟨⟨hbalanced.closed, fun a ha => ?_, ?_⟩, fun nesting argument hargument => ?_⟩
  · have hexact := hbalanced.exact a ha
    constructor <;> omega
  · have hexact := hbalanced.exact _ (List.prefix_refl _)
    rw [hbalanced.outer] at hexact
    omega
  · obtain ⟨htrim, hclosed⟩ := run_of_mem_splitArguments hbalanced.closed hargument
    refine ⟨stringLiteral?_isSome_iff htrim hclosed, fun s hs => ?_⟩
    obtain ⟨quote, hquote, heq, -⟩ := (stringLiteral?_eq_some_iff htrim).mp hs
    exact ⟨quote, hquote, heq⟩

/-- On its own, a text may be a literal though its last quote does not close the string. -/
example : stringLiteral? "\"a\\\"".toList = some "a\\".toList ∧
    QuoteState.run none none "\"a\\\"".toList ≠ none := by decide +kernel

/-- An argument of a call that holds a quote behind a backslash is one string, and the quoted
parenthesis in the other argument does not count. -/
theorem Pattern.calls_quoting_agrees_escaped_quote :
    ∃ p site, Pattern.read? "f\\(".toList = some p ∧
      site ∈ p.calls "f(\"a\\\"\", g(1, ')'))".toList ∧
      site.arguments = "\"a\\\"\", g(1, ')')".toList ∧
      "\"a\\\"\"".toList ∈ splitArguments .nested site.arguments ∧
      IsOneString "\"a\\\"\"".toList ∧
      (QuoteState.unquoted none none site.arguments).count ')' =
        (QuoteState.unquoted none none site.arguments).count '(' := by
  have hcheck : ((Pattern.read? "f\\(".toList).any fun p =>
      (p.calls "f(\"a\\\"\", g(1, ')'))".toList).any fun site =>
        site.arguments == "\"a\\\"\", g(1, ')')".toList &&
          (splitArguments .nested site.arguments).contains "\"a\\\"\"".toList) = true := by
    decide +kernel
  have hliteral : (stringLiteral? "\"a\\\"\"".toList).isSome = true := by decide +kernel
  simp only [Option.any_eq_true, List.any_eq_true, Bool.and_eq_true, beq_iff_eq,
    List.contains_iff_mem] at hcheck
  obtain ⟨p, hp, site, hsite, harguments, hargument⟩ := hcheck
  obtain ⟨⟨-, -, hcount⟩, hstrings⟩ := Pattern.calls_quoting_agrees hsite
  exact ⟨p, site, hp, hsite, harguments, hargument,
    (hstrings .nested _ hargument).1.mp hliteral, hcount⟩

end Gloss
