import Gloss.Call.Site
import Gloss.Proofs.Pattern.Place

/-!
# The spans of calls

A call that is found in a text is a piece of the text: a head up to an opening parenthesis, then the
arguments, then the closing parenthesis. Since the next call is looked for behind the last one, the
calls of one kind share no byte.

## Main definitions

* `CallSite.Spans`: the call is a piece of a text.

## Main results

* `Pattern.calls_spans`: calls are pieces of the text.
* `Pattern.calls_pairwise`: every call ends before the next one starts.
-/

set_option relaxedAutoImplicit false
set_option autoImplicit false

namespace Gloss

open Text

/-- The arguments reach from the place inside the parentheses to the closing one. -/
lemma splitCloseFrom?_reads {q : QuoteState} {deeper : Nat} {before : Option Char} {offset : Nat}
    {rest : Text} {found : Text × Cursor}
    (h : splitCloseFrom? q deeper before offset rest = some found) :
    Cursor.Reads { before := before, rest := rest, offset := offset } found.1 found.2 ∧
      ∃ more, found.2.rest = ')' :: more := by
  induction rest generalizing q deeper before offset found with
  | nil => simp [splitCloseFrom?] at h
  | cons c rest ih =>
    -- Whatever the depth is after the character, the search goes on behind it.
    have honward : ∀ deeper,
        (splitCloseFrom? (q.next before c) deeper (some c) (offset + c.utf8Size) rest).map
          (fun found => (c :: found.1, found.2)) = some found →
        Cursor.Reads { before := before, rest := c :: rest, offset := offset } found.1 found.2 ∧
          ∃ more, found.2.rest = ')' :: more := by
      intro deeper h
      obtain ⟨later, hlater, rfl⟩ := Option.map_eq_some_iff.mp h
      obtain ⟨hreads, hclose⟩ := ih hlater
      exact ⟨Cursor.Reads.trans (Cursor.Reads.step rfl) hreads, hclose⟩
    simp only [splitCloseFrom?] at h
    split at h
    · exact honward _ h
    · split at h
      · exact honward _ h
      · split at h
        · next hc =>
          split at h
          · obtain rfl : _ = found := by simpa using h
            exact ⟨Cursor.Reads.refl _, rest, by rw [hc]⟩
          · exact honward _ h
        · exact honward _ h

namespace CallSite

/-- The call is a piece of the text: its head, which ends in the opening parenthesis, its arguments
and the closing parenthesis. -/
def Spans (t : Text) (site : CallSite) : Prop :=
  ∃ a b, t = a ++ site.head ++ site.arguments ++ ')' :: b ∧
    site.head.getLast? = some '(' ∧ site.start = size a ∧
    site.close = size (a ++ site.head ++ site.arguments)

variable {t : Text} {site : CallSite}

/-- A call starts at a boundary. -/
lemma Spans.isBoundary_start (h : site.Spans t) : t.isBoundary site.start = true := by
  obtain ⟨a, b, ht, -, hstart, -⟩ := h
  refine isBoundary_iff.mpr ⟨a, site.head ++ (site.arguments ++ ')' :: b), ?_, hstart.symm⟩
  rw [ht]
  simp only [List.append_assoc]

/-- The closing parenthesis stands at a boundary. -/
lemma Spans.isBoundary_close (h : site.Spans t) : t.isBoundary site.close = true := by
  obtain ⟨a, b, ht, -, -, hclose⟩ := h
  exact isBoundary_iff.mpr ⟨a ++ site.head ++ site.arguments, ')' :: b, ht, hclose.symm⟩

/-- The call ends behind the closing parenthesis, which has one byte. -/
lemma Spans.isBoundary_stop (h : site.Spans t) : t.isBoundary site.stop = true := by
  obtain ⟨a, b, ht, -, -, hclose⟩ := h
  refine isBoundary_iff.mpr ⟨a ++ site.head ++ site.arguments ++ [')'], b, ?_, ?_⟩
  · rw [ht]
    simp only [List.append_assoc, List.cons_append, List.nil_append]
  · rw [size_append, ← hclose]
    rfl

/-- A call starts before its closing parenthesis. -/
lemma Spans.start_lt_close (h : site.Spans t) : site.start < site.close := by
  obtain ⟨a, b, -, hhead, hstart, hclose⟩ := h
  have hne : size site.head ≠ 0 := by
    rw [Ne, size_eq_zero_iff]
    intro hnil
    simp [hnil] at hhead
  rw [hstart, hclose, size_append, size_append]
  omega

/-- A call is not empty. -/
lemma Spans.start_lt_stop (h : site.Spans t) : site.start < site.stop :=
  Nat.lt_succ_of_lt h.start_lt_close

/-- The call of a match is a piece of the text that starts where the match does. -/
lemma ofMatch?_spans {e : Expr} {place : Cursor} {m : Match} (hplace : Cursor.In t place)
    (hm : e.matchAt? place = some m) (h : ofMatch? m = some site) :
    site.Spans t ∧ site.start = place.offset := by
  obtain ⟨rfl, hhead⟩ := Expr.matchAt?_reads hm
  simp only [ofMatch?] at h
  split at h
  · next hparen =>
    obtain ⟨found, hfound, rfl⟩ := Option.map_eq_some_iff.mp h
    obtain ⟨harguments, more, hmore⟩ := splitCloseFrom?_reads hfound
    obtain ⟨a, ha, hoffset, -⟩ := hplace.exists_eq_append
    have hread := hhead.trans harguments
    refine ⟨⟨a, more, ?_, hparen, hoffset, ?_⟩, rfl⟩
    · rw [ha, hread.rest, hmore]
      simp only [List.append_assoc]
    · show found.2.offset = _
      rw [hread.offset, hoffset]
      simp only [size_append, Nat.add_assoc]
  · simp at h

end CallSite

namespace Pattern

variable {t : Text}

/-- **The calls behind a place.** They are pieces of the text, none of them starts before the offset
where the search resumes, and every one ends before the next one starts.

**Proof sketch.** Induction on the text behind the place. Once a call is found, the search resumes
at its end, so what is found later starts there or behind. -/
lemma callsFrom_spans {e : Expr} {resume : Nat} {before : Option Char} {offset : Nat} {rest : Text}
    (hplace : Cursor.In t { before := before, rest := rest, offset := offset }) :
    (∀ site ∈ callsFrom e resume before offset rest, site.Spans t ∧ resume ≤ site.start) ∧
      (callsFrom e resume before offset rest).Pairwise fun a b => a.stop ≤ b.start := by
  induction rest generalizing resume before offset with
  | nil => exact ⟨by simp [callsFrom], .nil⟩
  | cons c rest ih =>
    have hnext : Cursor.In t { before := some c, rest := rest, offset := offset + c.utf8Size } :=
      hplace.reads (Cursor.Reads.step rfl)
    simp only [callsFrom]
    split
    · exact ih hnext
    · next hresume =>
      split
      · exact ih hnext
      · next m hm =>
        split
        · exact ⟨by simp, .nil⟩
        · next site hsite =>
          obtain ⟨hspans, hstart⟩ := CallSite.ofMatch?_spans hplace hm hsite
          obtain ⟨hlater, hpairwise⟩ : (∀ other ∈ callsFrom e site.stop (some c)
              (offset + c.utf8Size) rest, other.Spans t ∧ site.stop ≤ other.start) ∧ _ := ih hnext
          have hle : resume ≤ site.start := by
            rw [hstart]
            exact Nat.le_of_not_lt hresume
          refine ⟨fun other hother => ?_, .cons (fun other hother => (hlater other hother).2)
            hpairwise⟩
          rcases List.mem_cons.mp hother with rfl | hother
          · exact ⟨hspans, hle⟩
          · have := hspans.start_lt_stop
            have := (hlater other hother).2
            exact ⟨(hlater other hother).1, by omega⟩

/-- Calls are pieces of the text. -/
lemma calls_spans (p : Pattern) (t : Text) : ∀ site ∈ p.calls t, site.Spans t := by
  intro site hsite
  simp only [calls] at hsite
  split at hsite
  · exact ((callsFrom_spans (Cursor.in_ofText t)).1 site hsite).1
  · simp at hsite

/-- Every call ends before the next one starts. -/
lemma calls_pairwise (p : Pattern) (t : Text) :
    (p.calls t).Pairwise fun a b => a.stop ≤ b.start := by
  simp only [calls]
  split
  · exact (callsFrom_spans (Cursor.in_ofText t)).2
  · exact .nil

end Pattern

end Gloss
