import Gloss.Proofs.Call.Arguments

/-!
# The search for calls

The calls of a text are found by a loop: the leftmost match of the head at or behind the place where
the search resumes, then the parenthesis that balances the one the head ends in, and so on behind
it. This module states that loop as a relation and shows that the search, which walks over the text
once, runs through it. So nothing is left out between two calls, and behind the last one the loop
has come to its end.

## Main definitions

* `Expr.Leftmost`: the leftmost match at or behind an offset.
* `Pattern.Scans`: the rounds of the loop and the calls that they find.
* `Pattern.resumeAfter`: the offset at which the search resumes.

## Main results

* `Pattern.callsFrom_scans`: the search runs through the rounds of the loop.
* `Pattern.Scans.leftmost`, `Pattern.Scans.ends`: what is found in the rounds, and how they end.
* `Pattern.calls_ordered_maximal`: calls are pieces of the text in their order, and none is missed.
-/

set_option relaxedAutoImplicit false
set_option autoImplicit false

namespace Gloss

open Text

/-! ## Leftmost matches -/

/-- The match is the leftmost one of the text at or behind an offset. -/
structure Expr.Leftmost (e : Expr) (t : Text) (resume : Nat) (m : Match) : Prop where
  /-- It is the match at its place. -/
  matchAt? : e.matchAt? m.start = some m
  /-- Its place is one of the text. -/
  start_in : Cursor.In t m.start
  /-- It does not start before the offset. -/
  resume_le : resume ≤ m.start.offset
  /-- No match starts between the offset and its place. -/
  gap : ∀ place, Cursor.In t place → resume ≤ place.offset → place.offset < m.start.offset →
    e.matchAt? place = none

/-- A match is the leftmost one if none starts before its place. -/
lemma Expr.leftmost_of_matchAt? {e : Expr} {t : Text} {resume : Nat} {here : Cursor} {m : Match}
    (hin : Cursor.In t here) (hm : e.matchAt? here = some m) (hresume : resume ≤ here.offset)
    (hgap : ∀ place, Cursor.In t place → resume ≤ place.offset → place.offset < here.offset →
      e.matchAt? place = none) : e.Leftmost t resume m := by
  obtain ⟨rfl, -⟩ := Expr.matchAt?_reads hm
  exact ⟨hm, hin, hresume, hgap⟩

/-- A match is no head of a call: it does not end in a parenthesis, as an empty one does not, or
that parenthesis is not balanced. -/
def Match.NoHead (t : Text) (m : Match) : Prop :=
  m.toPiece.text.getLast? ≠ some '(' ∨ matchingClose? t m.stop.offset = none

/-- The balancing parenthesis of a match is looked for behind it. -/
lemma matchingClose?_stop {e : Expr} {t : Text} {m : Match} (hm : e.matchAt? m.start = some m)
    (hin : Cursor.In t m.start) :
    matchingClose? t m.stop.offset = (splitClose? m.stop).map fun found => found.2.offset := by
  rw [matchingClose?, (hin.reads (Expr.matchAt?_reads hm).2).seek_eq]

/-- A match that gives no call is no head. -/
lemma CallSite.noHead_of_ofMatch? {e : Expr} {t : Text} {m : Match}
    (hm : e.matchAt? m.start = some m) (hin : Cursor.In t m.start) (h : ofMatch? m = none) :
    m.NoHead t := by
  simp only [ofMatch?] at h
  split at h
  · right
    rw [matchingClose?_stop hm hin, Option.map_eq_none_iff]
    simpa using h
  · next hparen => exact .inl hparen

/-- The head of a call is the match, and its parenthesis closes at the end of the call. -/
lemma CallSite.ofMatch?_close {e : Expr} {t : Text} {m : Match} {site : CallSite}
    (hm : e.matchAt? m.start = some m) (hin : Cursor.In t m.start)
    (h : ofMatch? m = some site) :
    m.start.offset = site.start ∧ m.toPiece.text = site.head ∧
      matchingClose? t (site.start + size site.head) = some site.close := by
  have hstop := (Expr.matchAt?_reads hm).2.offset
  have hclose := matchingClose?_stop hm hin
  simp only [ofMatch?] at h
  split at h
  · obtain ⟨found, hfound, rfl⟩ := Option.map_eq_some_iff.mp h
    rw [hfound, hstop] at hclose
    exact ⟨rfl, rfl, hclose⟩
  · simp at h

/-! ## Rounds -/

namespace Pattern

/-- The rounds of the loop from an offset on, and the calls that they find. -/
inductive Scans (e : Expr) (t : Text) : Nat → List CallSite → Prop where
  /-- No match starts at or behind the offset. -/
  | exhausted {resume : Nat} (h : ∀ place, Cursor.In t place → resume ≤ place.offset →
      e.matchAt? place = none) : Scans e t resume []
  /-- The leftmost match is no head of a call. -/
  | broken {resume : Nat} {m : Match} (hm : e.Leftmost t resume m) (h : m.NoHead t) :
      Scans e t resume []
  /-- The leftmost match is the head of a call, and the search resumes behind it. -/
  | call {resume : Nat} {m : Match} {site : CallSite} {sites : List CallSite}
      (hm : e.Leftmost t resume m) (h : CallSite.ofMatch? m = some site)
      (hsites : Scans e t site.stop sites) : Scans e t resume (site :: sites)

/-- **The search runs through the rounds of the loop.** Here the search has come to a place, and no
match starts at the places before it that are not before `resume`.

**Proof sketch.** Induction on the text behind the place. Between a place and the next one there is
no other, so a place without a match, or before `resume`, can be passed over. A match at the place
is the leftmost one. At the end of the text a match is empty. -/
lemma callsFrom_scans {e : Expr} {t : Text} {resume : Nat} {before : Option Char} {offset : Nat}
    {rest : Text} (hplace : Cursor.In t { before := before, rest := rest, offset := offset })
    (hgap : ∀ place, Cursor.In t place → resume ≤ place.offset → place.offset < offset →
      e.matchAt? place = none) :
    Scans e t resume (callsFrom e resume before offset rest) := by
  induction rest generalizing resume before offset with
  | nil =>
    by_cases hresume : resume ≤ offset
    · cases hm : e.matchAt? { before := before, rest := [], offset := offset } with
      | none =>
        refine .exhausted fun place hin hle => ?_
        rcases Nat.lt_or_eq_of_le (hplace.offset_le_of_rest_eq_nil hin rfl) with hlt | heq
        · exact hgap place hin hle hlt
        · rw [hin.eq_of_offset_eq hplace heq, hm]
      | some m =>
        have hempty : m.toPiece.text = [] :=
          (List.append_eq_nil_iff.mp (Expr.matchAt?_reads hm).2.rest.symm).1
        exact .broken (Expr.leftmost_of_matchAt? hplace hm hresume hgap) (.inl (by simp [hempty]))
    · refine .exhausted fun place hin hle => absurd ?_ hresume
      exact Nat.le_trans hle (hplace.offset_le_of_rest_eq_nil hin rfl)
  | cons c rest ih =>
    have hnext : Cursor.In t { before := some c, rest := rest, offset := offset + c.utf8Size } :=
      hplace.reads (Cursor.Reads.step rfl)
    -- A place that is before `resume` or has no match is passed over.
    have hpass : (resume ≤ offset →
        e.matchAt? { before := before, rest := c :: rest, offset := offset } = none) →
        Scans e t resume (callsFrom e resume (some c) (offset + c.utf8Size) rest) := by
      intro hhere
      refine ih hnext fun place hin hle hsoon => ?_
      rcases hplace.lt_or_eq_of_lt_step hin rfl hsoon with hlt | rfl
      · exact hgap place hin hle hlt
      · exact hhere hle
    rw [callsFrom]
    split
    · next hlt => exact hpass fun hle => absurd hle (Nat.not_le.mpr hlt)
    · next hresume =>
      split
      · next hm => exact hpass fun _ => hm
      · next m hm =>
        have hleftmost := Expr.leftmost_of_matchAt? hplace hm (Nat.le_of_not_lt hresume) hgap
        split
        · next hnone =>
          exact .broken hleftmost
            (CallSite.noHead_of_ofMatch? hleftmost.matchAt? hleftmost.start_in hnone)
        · next site hsite =>
          -- The call ends behind this place, so the search resumes at a later one.
          refine .call hleftmost hsite (ih hnext fun place hin hle hsoon => ?_)
          obtain ⟨hspans, hsame⟩ := CallSite.ofMatch?_spans hplace hm hsite
          have hlt : offset < site.stop := by
            have hstart : site.start = offset := hsame
            exact hstart ▸ hspans.start_lt_stop
          rcases hplace.lt_or_eq_of_lt_step hin rfl hsoon with hbefore | rfl
          · exact absurd (Nat.lt_of_lt_of_le hlt hle) (Nat.not_lt_of_lt hbefore)
          · exact absurd hle (Nat.not_le.mpr hlt)

/-- The calls of a text are found by the rounds from its start. -/
lemma calls_scans {p : Pattern} (hp : p.isCallHead = true) (t : Text) :
    Scans p.expr t 0 (p.calls t) := by
  rw [calls, if_pos hp]
  exact callsFrom_scans (Cursor.in_ofText t) fun place _ _ hlt => absurd hlt (Nat.not_lt_zero _)

/-- The offset at which the search resumes when calls have been found. -/
def resumeAfter (resume : Nat) : List CallSite → Nat
  | [] => resume
  | site :: sites => resumeAfter site.stop sites

section

variable {e : Expr} {t : Text} {resume : Nat} {sites : List CallSite}

/-- Every call is that of the leftmost match behind the calls before it. -/
lemma Scans.leftmost (h : Scans e t resume sites) {first later : List CallSite} {site : CallSite}
    (hsites : sites = first ++ site :: later) :
    ∃ m, e.Leftmost t (resumeAfter resume first) m ∧ CallSite.ofMatch? m = some site := by
  induction h generalizing first with
  | exhausted => simp at hsites
  | broken => simp at hsites
  | call hm hsite _ ih =>
    cases first with
    | nil =>
      obtain ⟨rfl, -⟩ := List.cons.inj hsites
      exact ⟨_, hm, hsite⟩
    | cons other first =>
      obtain ⟨rfl, hlater⟩ := List.cons.inj hsites
      exact ih hlater

/-- Behind the last call no match starts, or the leftmost one is no head of a call. -/
lemma Scans.ends (h : Scans e t resume sites) :
    (∀ place, Cursor.In t place → resumeAfter resume sites ≤ place.offset →
      e.matchAt? place = none) ∨
    ∃ m, e.Leftmost t (resumeAfter resume sites) m ∧ m.NoHead t := by
  induction h with
  | exhausted hnone => exact .inl hnone
  | broken hm hhead => exact .inr ⟨_, hm, hhead⟩
  | call _ _ _ ih => exact ih

/-- Every round moves on by a byte at least, and not beyond the end of the text. -/
lemma Scans.length_le (h : Scans e t resume sites) (hresume : resume ≤ size t) :
    resume + sites.length ≤ size t := by
  induction h with
  | exhausted => simpa using hresume
  | broken => simpa using hresume
  | call hm hsite _ ih =>
    have hspans := CallSite.ofMatch?_spans hm.start_in hm.matchAt? hsite
    have hlt := hspans.1.start_lt_stop
    have hle := hm.resume_le
    have := ih (le_size_of_isBoundary hspans.1.isBoundary_stop)
    rw [hspans.2] at hlt
    simp only [List.length_cons]
    omega

end

/-! ## Calls -/

/-- **Calls are pieces of the text in their order, and none is missed.** Each call is a head that
ends in a parenthesis, the arguments, and the parenthesis that balances that one; it ends before the
next one starts, and there are at most as many as the text has bytes. The head is the leftmost match
behind the calls before it, so no match starts between two calls or before the first one. Behind the
last call no match starts, or the leftmost one is empty, does not end in a parenthesis or is not
balanced.

**Proof sketch.** The search is the rounds of a loop, each of which starts behind the last call: no
match is left, the leftmost match is no head, or it is the head of a call. All parts are read off
these rounds, by induction on them. -/
theorem calls_ordered_maximal {p : Pattern} (hp : p.isCallHead = true) (t : Text) :
    ((p.calls t).Pairwise fun a b => a.stop ≤ b.start) ∧
    (p.calls t).length ≤ size t ∧
    (∀ site ∈ p.calls t, site.start < site.stop ∧ site.Spans t ∧
      Balanced none 0 none site.arguments ∧
      matchingClose? t (site.start + size site.head) = some site.close) ∧
    (∀ first site later, p.calls t = first ++ site :: later →
      ∃ m, p.expr.Leftmost t (resumeAfter 0 first) m ∧ m.start.offset = site.start ∧
        m.toPiece.text = site.head) ∧
    ((∀ place, Cursor.In t place → resumeAfter 0 (p.calls t) ≤ place.offset →
        p.expr.matchAt? place = none) ∨
      ∃ m, p.expr.Leftmost t (resumeAfter 0 (p.calls t)) m ∧
        (m.toPiece.text = [] ∨ m.toPiece.text.getLast? ≠ some '(' ∨
          matchingClose? t m.stop.offset = none)) := by
  have hscans := calls_scans hp t
  have hhead : ∀ {first site later}, p.calls t = first ++ site :: later →
      ∃ m, p.expr.Leftmost t (resumeAfter 0 first) m ∧ m.start.offset = site.start ∧
        m.toPiece.text = site.head ∧
        matchingClose? t (site.start + size site.head) = some site.close := by
    intro first site later hsites
    obtain ⟨m, hm, hsite⟩ := hscans.leftmost hsites
    exact ⟨m, hm, CallSite.ofMatch?_close hm.matchAt? hm.start_in hsite⟩
  refine ⟨calls_pairwise p t, ?_, fun site hsite => ?_, fun first site later hsites => ?_, ?_⟩
  · simpa using hscans.length_le (Nat.zero_le _)
  · obtain ⟨first, later, hsites⟩ := List.append_of_mem hsite
    obtain ⟨m, -, -, -, hclose⟩ := hhead hsites
    have hspans := calls_spans p t site hsite
    exact ⟨hspans.start_lt_stop, hspans, balanced_arguments hsite, hclose⟩
  · obtain ⟨m, hm, hstart, htext, -⟩ := hhead hsites
    exact ⟨m, hm, hstart, htext⟩
  · rcases hscans.ends with hnone | ⟨m, hm, hbad⟩
    · exact .inl hnone
    · exact .inr ⟨m, hm, .inr hbad⟩

/-- Of three heads in a text the first is that of a call, whose arguments hold the second; the third
one is not balanced, so the search ends there. -/
theorem calls_ordered_maximal_unbalanced :
    ∃ p, Pattern.read? "f\\(".toList = some p ∧ p.isCallHead = true ∧
      (p.calls "é f(f(')'))f(".toList).map (fun site => (site.start, site.close)) = [(3, 11)] ∧
      (∀ place, Cursor.In "é f(f(')'))f(".toList place → place.offset < 3 →
        p.expr.matchAt? place = none) := by
  have hcheck : ((Pattern.read? "f\\(".toList).any fun p => p.isCallHead &&
      ((p.calls "é f(f(')'))f(".toList).map fun site => (site.start, site.close)) == [(3, 11)]) =
      true := by
    decide +kernel
  simp only [Option.any_eq_true, Bool.and_eq_true, beq_iff_eq] at hcheck
  obtain ⟨p, hread, hp, hcalls⟩ := hcheck
  refine ⟨p, hread, hp, hcalls, fun place hin hlt => ?_⟩
  obtain ⟨site, hsite, hspan⟩ := List.map_eq_singleton_iff.mp hcalls
  obtain ⟨-, -, -, hgaps, -⟩ := calls_ordered_maximal hp "é f(f(')'))f(".toList
  obtain ⟨m, hm, hstart, -⟩ := hgaps [] site [] hsite
  refine hm.gap place hin (Nat.zero_le _) ?_
  rw [hstart, (Prod.mk.inj hspan).1]
  exact hlt

end Pattern

end Gloss
