import Gloss.Proofs.Pattern.ClassExtent
import Gloss.Proofs.Pattern.Escape

/-!
# Reading a pattern step by step

Reading takes one item after the other from the front of a pattern. What is taken, and what it does
to what has been read, are told apart here: an item is taken in the same way from every text that
starts with it and goes on alike, and only then does it matter what has been read before.

## Main definitions

* `Pattern.Token`, `Pattern.readToken`: an item, and how it is taken from a text.
* `Pattern.State.apply`: what an item does to what has been read.
* `Pattern.Steps`: reading gets from one state and text to another.
* `Pattern.State.pushText`: the state behind a text that stands for itself.

## Main results

* `Pattern.State.next_eq`: a step takes an item and applies it.
* `Pattern.takesFrom_readToken`: how far the reader looks for an item.
* `Pattern.Steps.resume`: there is one way only to read a text.
* `Pattern.exists_steps_of_readFrom`, `Pattern.Steps.readsTo`: steps and reading as a whole.
* `Pattern.steps_escape`: the steps of an escaped text.
-/

set_option relaxedAutoImplicit false
set_option autoImplicit false

namespace Gloss

namespace Pattern

open Text

/-- What stands next in a pattern. -/
inductive Token where
  /-- An opening parenthesis with its header. -/
  | opening (o : Opening)
  /-- A closing parenthesis. -/
  | closing
  /-- A bar between branches. -/
  | bar
  /-- A part. -/
  | part (p : Part)
  /-- A repetition of the part before it. -/
  | repetition (least : Nat) (most : Option Nat) (greedy : Bool)

/-- A repetition with given bounds, and what follows it. -/
def readRepetition (least : Nat) (most : Option Nat) (t : Text) : Token × Text :=
  (.repetition least most (readGreed t).1, (readGreed t).2)

/-- Takes what starts with the character `c`. -/
def readToken (flags : Flags) (c : Char) (rest : Text) : Except PatternFault (Token × Text) :=
  match c with
  | '(' => do
    let (opening, after) ← readOpening flags rest
    return (.opening opening, after)
  | ')' => .ok (.closing, rest)
  | '|' => .ok (.bar, rest)
  | '[' => do
    let (part, after) ← readBracketed flags.ignoreCase rest
    return (.part { expr := .char part.set, depth := part.depth }, after)
  | '?' => .ok (readRepetition 0 (some 1) rest)
  | '*' => .ok (readRepetition 0 none rest)
  | '+' => .ok (readRepetition 1 none rest)
  | '{' => do
    let ((least, most), after) ← readBounds rest
    return readRepetition least most after
  | '.' => .ok (.part { expr := flags.dot, depth := 0 }, rest)
  | '^' => .ok (.part { expr := flags.start, depth := 0 }, rest)
  | '$' => .ok (.part { expr := flags.stop, depth := 0 }, rest)
  | '\\' => do
    let (escaped, after) ← readEscape rest
    return (.part { expr := flags.escaped escaped, depth := 0 }, after)
  | _ => .ok (.part { expr := flags.literal c, depth := 0 }, rest)

/-- What an item does to what has been read. -/
def State.apply (s : State) : Token → Except PatternFault State
  | .opening o => s.enter o
  | .closing => s.leave
  | .bar => .ok { s with level := s.level.nextBranch }
  | .part p => .ok (s.pushPart p)
  | .repetition least most greedy => s.repeatLast least most greedy

/-- A character that starts nothing else stands for itself. -/
lemma readToken_of_not_mem {c : Char} (h : c ∉ operators) (flags : Flags) (rest : Text) :
    readToken flags c rest = .ok (.part { expr := flags.literal c, depth := 0 }, rest) := by
  unfold readToken
  split
  all_goals first
    | rfl
    | exact absurd h (by decide)

/-- **A step takes an item and applies it.**

**Proof sketch.** By the character: each of those with a meaning of its own starts one kind of item,
and all others are read as they are. -/
lemma State.next_eq (s : State) (c : Char) (rest : Text) :
    s.next c rest = (readToken s.flags c rest).bind fun x =>
      (s.apply x.1).map fun s' => (s', x.2) := by
  by_cases hc : c ∈ operators
  · simp only [operators, List.mem_cons, List.not_mem_nil, or_false] at hc
    rcases hc with rfl | rfl | rfl | rfl | rfl | rfl | rfl | rfl | rfl | rfl | rfl | rfl
    all_goals simp only [State.next, readToken]
    · cases readOpening s.flags rest <;> rfl
    · rfl
    · rfl
    · cases readBracketed s.flags.ignoreCase rest <;> rfl
    · rfl
    · rfl
    · rfl
    · cases readBounds rest <;> rfl
    · rfl
    · rfl
    · rfl
    · cases readEscape rest <;> rfl
  · rw [State.next_eq_push hc, readToken_of_not_mem hc]
    rfl

/-- A step succeeds if an item is taken and can be applied. -/
lemma State.next_eq_ok_iff {s s' : State} {c : Char} {rest after : Text} :
    s.next c rest = .ok (s', after) ↔
      ∃ token, readToken s.flags c rest = .ok (token, after) ∧ s.apply token = .ok s' := by
  rw [State.next_eq]
  constructor
  · intro h
    obtain ⟨⟨token, behind⟩, hread, hmap⟩ := bind_eq_ok_iff.mp h
    cases happly : s.apply token with
    | error fault => simp [happly, Except.map] at hmap
    | ok s₁ =>
      obtain ⟨rfl, rfl⟩ : s₁ = s' ∧ behind = after := by simpa [happly, Except.map] using hmap
      exact ⟨token, hread, happly⟩
  · rintro ⟨token, hread, happly⟩
    simp [hread, happly, Except.bind, Except.map]

/-- A step fails if an item is taken and cannot be applied. -/
lemma State.next_eq_error {s : State} {c : Char} {rest after : Text} {token : Token}
    {fault : PatternFault} (hread : readToken s.flags c rest = .ok (token, after))
    (happly : s.apply token = .error fault) :
    s.next c rest = .error fault := by
  rw [State.next_eq, hread]
  simp [happly, Except.bind, Except.map]

/-! ## How far the reader looks -/

variable {t after : Text}

/-- What is read before some rests is read before fewer of them. -/
lemma TakesFrom.mono {α : Type} {read : Text → Except PatternFault (α × Text)}
    {p q : Text → Prop} {x : α} (h : TakesFrom read p t x after) (hpq : ∀ rest, q rest → p rest) :
    TakesFrom read q t x after := by
  obtain ⟨u, ht, htakes⟩ := h
  exact ⟨u, ht, fun rest hrest => htakes rest (hpq rest hrest)⟩

/-- What is made of what a reader takes is taken as that is. -/
lemma TakesFrom.map {α β : Type} {read : Text → Except PatternFault (α × Text)}
    {p : Text → Prop} {x : α} (h : TakesFrom read p t x after) (f : α → β) :
    TakesFrom (fun t => read t >>= fun x => pure (f x.1, x.2)) p t (f x) after := by
  obtain ⟨u, ht, htakes⟩ := h
  refine ⟨u, ht, fun rest hrest => ?_⟩
  exact bind_eq_ok_iff.mpr ⟨_, htakes rest hrest, rfl⟩

/-- Without a question mark a repetition is greedy. -/
lemma readGreed_of_glance (h : glance t ≠ .question) : readGreed t = (true, t) := by
  unfold readGreed
  split
  · exact absurd rfl h
  · rfl

/-- What is the same for every text takes nothing. -/
lemma takesFrom_ok {α : Type} (x : α) (p : Text → Prop) (t : Text) :
    TakesFrom (fun t => Except.ok (x, t)) p t x t :=
  ⟨[], rfl, fun _ _ => rfl⟩

/-- Behind a repetition it matters whether a question mark follows. -/
lemma takesFrom_readRepetition {least : Nat} {most : Option Nat} {token : Token}
    (h : readRepetition least most t = (token, after)) :
    TakesFrom (fun t => Except.ok (readRepetition least most t))
      (fun rest => glance rest = glance after) t
      token after := by
  by_cases hquestion : glance t = .question
  · obtain ⟨more, rfl⟩ : ∃ more, t = '?' :: more := by
      unfold glance at hquestion
      split at hquestion
      · exact ⟨_, rfl⟩
      · split at hquestion <;> cases hquestion
      · cases hquestion
      · cases hquestion
    obtain ⟨rfl, rfl⟩ := Prod.mk.inj h
    exact ⟨['?'], rfl, fun rest _ => rfl⟩
  · rw [readRepetition, readGreed_of_glance hquestion] at h
    obtain ⟨rfl, rfl⟩ := Prod.mk.inj h
    refine ⟨[], rfl, fun rest hrest => ?_⟩
    have hgreed := readGreed_of_glance (hrest.trans_ne hquestion)
    simp only [List.nil_append, readRepetition, hgreed]

/-- **How far the reader looks for an item.** The item is taken in the same way from every text that
starts with it and goes on alike.

**Proof sketch.** By the character, with what was shown for groups, classes, repetitions and
escapes. The other items are the character itself. -/
lemma takesFrom_readToken {flags : Flags} {c : Char} {token : Token}
    (h : readToken flags c t = .ok (token, after)) :
    TakesFrom (readToken flags c) (fun rest => glance rest = glance after) t token after := by
  by_cases hc : c ∈ operators
  · simp only [operators, List.mem_cons, List.not_mem_nil, or_false] at hc
    rcases hc with rfl | rfl | rfl | rfl | rfl | rfl | rfl | rfl | rfl | rfl | rfl | rfl
    · obtain ⟨⟨o, behind⟩, hread, heq⟩ := bind_eq_ok_iff.mp h
      obtain ⟨rfl, rfl⟩ := Prod.mk.inj (Except.ok.inj heq)
      exact (takesFrom_readOpening hread).map Token.opening
    · obtain ⟨rfl, rfl⟩ := Prod.mk.inj (Except.ok.inj h)
      exact takesFrom_ok _ _ t
    · obtain ⟨rfl, rfl⟩ := Prod.mk.inj (Except.ok.inj h)
      exact takesFrom_ok _ _ t
    · obtain ⟨⟨part, behind⟩, hread, heq⟩ := bind_eq_ok_iff.mp h
      obtain ⟨rfl, rfl⟩ := Prod.mk.inj (Except.ok.inj heq)
      exact ((takesFrom_readBracketed hread).mono fun _ _ => trivial).map
        fun part => Token.part { expr := .char part.set, depth := part.depth }
    · exact takesFrom_readRepetition (Except.ok.inj h)
    · exact takesFrom_readRepetition (Except.ok.inj h)
    · exact takesFrom_readRepetition (Except.ok.inj h)
    · obtain ⟨⟨⟨least, most⟩, behind⟩, hread, heq⟩ := bind_eq_ok_iff.mp h
      obtain ⟨u, rfl, hbounds⟩ := takesFrom_readBounds hread
      obtain ⟨v, rfl, htakes⟩ := takesFrom_readRepetition (Except.ok.inj heq)
      refine ⟨u ++ v, by simp, fun rest hrest => ?_⟩
      rw [List.append_assoc]
      exact bind_eq_ok_iff.mpr ⟨_, hbounds _ trivial, htakes rest hrest⟩
    · obtain ⟨rfl, rfl⟩ := Prod.mk.inj (Except.ok.inj h)
      exact takesFrom_ok _ _ t
    · obtain ⟨rfl, rfl⟩ := Prod.mk.inj (Except.ok.inj h)
      exact takesFrom_ok _ _ t
    · obtain ⟨rfl, rfl⟩ := Prod.mk.inj (Except.ok.inj h)
      exact takesFrom_ok _ _ t
    · obtain ⟨⟨escaped, behind⟩, hread, heq⟩ := bind_eq_ok_iff.mp h
      obtain ⟨rfl, rfl⟩ := Prod.mk.inj (Except.ok.inj heq)
      exact ((takesFrom_readEscape hread).mono fun _ hrest _ => hrest).map
        fun escaped => Token.part { expr := flags.escaped escaped, depth := 0 }
  · rw [readToken_of_not_mem hc] at h
    obtain ⟨rfl, rfl⟩ := Prod.mk.inj (Except.ok.inj h)
    exact ⟨[], rfl, fun rest _ => readToken_of_not_mem hc flags rest⟩

/-! ## Steps -/

/-- Reading gets from the state `s` with the text `t` left to the state `s'` with `t'` left. -/
inductive Steps : State → Text → State → Text → Prop
  | refl (s : State) (t : Text) : Steps s t s t
  | step {s s' s'' : State} {c : Char} {rest t' t'' : Text} (hnext : s.next c rest = .ok (s', t'))
      (hsteps : Steps s' t' s'' t'') : Steps s (c :: rest) s'' t''

variable {s s' s'' : State} {t' t'' : Text}

/-- Steps go on after each other. -/
lemma Steps.trans (h : Steps s t s' t') (h' : Steps s' t' s'' t'') : Steps s t s'' t'' := by
  induction h with
  | refl => exact h'
  | step hnext _ ih => exact .step hnext (ih h')

/-- One step is a run. -/
lemma Steps.single {c : Char} {rest : Text} (h : s.next c rest = .ok (s', t')) :
    Steps s (c :: rest) s' t' :=
  .step h (.refl s' t')

/-- What a step does, and that it does the same where the text goes on alike. -/
lemma exists_of_next {c : Char} {rest : Text} (h : s.next c rest = .ok (s', after)) :
    ∃ token u, rest = u ++ after ∧ s.apply token = .ok s' ∧
      ∀ rest', glance rest' = glance after →
        readToken s.flags c (u ++ rest') = .ok (token, rest') := by
  obtain ⟨token, hread, happly⟩ := State.next_eq_ok_iff.mp h
  obtain ⟨u, rfl, htakes⟩ := takesFrom_readToken hread
  exact ⟨token, u, rfl, happly, htakes⟩

/-- A step leaves less of the text. -/
lemma length_of_next {c : Char} {rest : Text} (h : s.next c rest = .ok (s', after)) :
    after.length ≤ rest.length := by
  obtain ⟨-, u, rfl, -⟩ := exists_of_next h
  simp

/-- What is left is the end of the text. -/
lemma Steps.suffix (h : Steps s t s' t') : t' <:+ t := by
  induction h with
  | refl => exact List.suffix_refl _
  | step hnext _ ih =>
    obtain ⟨-, u, rfl, -⟩ := exists_of_next hnext
    exact (ih.trans (List.suffix_append u _)).trans (List.suffix_cons _ _)

/-- **There is one way only to read a text**: what is read later is read from what is read before.

**Proof sketch.** Induction on the shorter reading. The first steps of both are the same, since a
step is a function of the state and the text. -/
lemma Steps.resume (h : Steps s t s' t') (h' : Steps s t s'' t'') (hle : t''.length ≤ t'.length) :
    Steps s' t' s'' t'' := by
  induction h with
  | refl => exact h'
  | step hnext hsteps ih =>
    cases h' with
    | refl =>
      have hrest := length_of_next hnext
      have hlater := hsteps.suffix.length_le
      simp at hle
      omega
    | step hnext' hsteps' =>
      obtain ⟨rfl, rfl⟩ := Prod.mk.inj (Except.ok.inj (hnext.symm.trans hnext'))
      exact ih hsteps' hle

/-- There are no steps at the end of a text. -/
lemma exists_steps_nil_iff : (∃ s', Steps s [] s' t') ↔ t' = [] := by
  constructor
  · rintro ⟨s', hsteps⟩
    cases hsteps
    rfl
  · rintro rfl
    exact ⟨s, .refl s []⟩

/-- Where the first item starts, and where the others do. -/
lemma exists_steps_cons_iff {c : Char} :
    (∃ s', Steps s (c :: t) s' t') ↔
      t' = c :: t ∨ ∃ s₁ after, s.next c t = .ok (s₁, after) ∧ ∃ s', Steps s₁ after s' t' := by
  constructor
  · rintro ⟨s', hsteps⟩
    cases hsteps with
    | refl => exact .inl rfl
    | step hnext hsteps => exact .inr ⟨_, _, hnext, _, hsteps⟩
  · rintro (rfl | ⟨s₁, after, hnext, s', hsteps⟩)
    · exact ⟨s, .refl s _⟩
    · exact ⟨s', .step hnext hsteps⟩

/-- Steps are part of reading as a whole. -/
lemma Steps.readsTo (h : Steps s t s' t') : ReadsTo s t s' t' := by
  induction h with
  | refl => exact ReadsTo.refl _ _
  | step hnext _ ih => exact (ReadsTo.step hnext (length_of_next hnext)).trans ih

/-- What is read as a whole is read in steps. -/
lemma exists_steps_of_readFrom {bound : Nat} {x : Part × List (Text × Nat)}
    (h : readFrom bound s t = .ok x) :
    ∃ s', Steps s t s' [] ∧ s'.finish = .ok x := by
  induction bound generalizing s t with
  | zero =>
    cases t with
    | nil => exact ⟨s, .refl s [], h⟩
    | cons c t => cases h
  | succ bound ih =>
    cases t with
    | nil => exact ⟨s, .refl s [], h⟩
    | cons c t =>
      rw [readFrom] at h
      split at h
      · cases h
      · next s₁ behind hnext =>
        obtain ⟨s', hsteps, hfinish⟩ := ih h
        exact ⟨s', .step hnext hsteps, hfinish⟩

/-- The state behind a text that stands for itself. -/
def State.pushText (s : State) (t : Text) : State :=
  s.pushParts (t.map fun c => { expr := s.flags.literal c, depth := 0 })

/-- An escaped text is read character by character, whatever flags hold. -/
lemma steps_escape (t : Text) (s : State) (rest : Text) :
    Steps s (escape t ++ rest) (s.pushText t) rest := by
  induction t generalizing s with
  | nil => exact .refl s rest
  | cons c t ih =>
    -- A character takes one step either way: with a backslash before it, both are read at once.
    have hfirst : Steps s (escape (c :: t) ++ rest) (s.push (s.flags.literal c))
        (escape t ++ rest) := by
      by_cases hc : isMeta c = true
      · have hescape : escape (c :: t) ++ rest = '\\' :: c :: (escape t ++ rest) := by
          simp [escape, hc]
        have hread : readToken s.flags '\\' (c :: (escape t ++ rest)) =
            .ok (.part ⟨s.flags.literal c, 0⟩, escape t ++ rest) :=
          bind_eq_ok_iff.mpr ⟨_, readEscape_of_isMeta hc _, rfl⟩
        rw [hescape]
        exact .single (State.next_eq_ok_iff.mpr ⟨_, hread, rfl⟩)
      · have hescape : escape (c :: t) ++ rest = c :: (escape t ++ rest) := by simp [escape, hc]
        rw [hescape]
        exact .single (State.next_eq_push (not_mem_operators hc) s _)
    exact hfirst.trans (ih _)

end Pattern

end Gloss
