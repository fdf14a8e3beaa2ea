import Gloss.Pattern.Search
import Gloss.Proofs.Boundary

/-!
# Places that patterns reach

A pattern only ever goes over characters that stand in the text, one after the other. So every place
it comes to is a place of the text, and what lies between two such places is a piece of the text.

## Main definitions

* `Cursor.Reads`: going on over a text leads from one place to another.
* `Cursor.In`: the place is one of a text.
* `Cursor.Onward`: a property of places that is kept by going over a character.

## Main results

* `Expr.ends_onward`: every property of that kind is kept by every pattern.
* `Expr.matchAt?_reads`: a match goes over a piece of the text.
* `Expr.find?_in`, `Expr.findAll_in`: matches start at places of the text.
-/

set_option relaxedAutoImplicit false
set_option autoImplicit false

namespace Gloss

open Text

namespace Cursor

/-! ## Going on over a text -/

/-- Going on over the text `w` leads from `p` to `q`. -/
structure Reads (p : Cursor) (w : Text) (q : Cursor) : Prop where
  /-- The text is what comes next. -/
  rest : p.rest = w ++ q.rest
  /-- Its bytes are counted. -/
  offset : q.offset = p.offset + size w
  /-- Its last character, if it has one, is the character before the new place. -/
  before : q.before = w.getLast?.or p.before

variable {p q r : Cursor} {v w : Text}

/-- Nothing leads to where one is. -/
lemma Reads.refl (p : Cursor) : p.Reads [] p :=
  ⟨rfl, rfl, rfl⟩

/-- One step goes over one character. -/
lemma Reads.step {c : Char} {rest : Text} (h : p.rest = c :: rest) : p.Reads [c] (p.step c rest) :=
  ⟨h, by simp [Cursor.step], rfl⟩

/-- Going over one text and then over another is going over both. -/
lemma Reads.trans (h₁ : p.Reads v q) (h₂ : q.Reads w r) : p.Reads (v ++ w) r where
  rest := by rw [h₁.rest, h₂.rest, List.append_assoc]
  offset := by rw [h₂.offset, h₁.offset, size_append, Nat.add_assoc]
  before := by rw [h₂.before, h₁.before, List.getLast?_append, Option.or_assoc]

/-- Going over nothing leads nowhere else. -/
lemma reads_nil_iff : p.Reads [] q ↔ q = p := by
  constructor
  · intro h
    obtain ⟨before, rest, offset⟩ := q
    have h₁ : p.rest = rest := h.rest
    have h₂ : offset = p.offset := h.offset
    have h₃ : before = p.before := h.before
    rw [← h₁, h₂, h₃]
  · rintro rfl
    exact Reads.refl q

/-- Going over a text starts by going over its first character. -/
lemma reads_cons_iff {c d : Char} {rest : Text} (h : p.rest = c :: rest) :
    p.Reads (d :: w) q ↔ d = c ∧ (p.step c rest).Reads w q := by
  constructor
  · intro hr
    have heq : c :: rest = d :: (w ++ q.rest) := h.symm.trans hr.rest
    obtain ⟨rfl, rfl⟩ := List.cons.inj heq
    refine ⟨rfl, rfl, ?_, ?_⟩
    · rw [hr.offset, size_cons, Cursor.step, Nat.add_assoc]
    · rw [hr.before, Cursor.step, List.getLast?_cons]
      cases w.getLast? <;> rfl
  · rintro ⟨rfl, hr⟩
    exact (Reads.step h).trans hr

/-- One can go over a text that comes next. -/
lemma exists_reads {rest : Text} (h : p.rest = w ++ rest) : ∃ q, p.Reads w q ∧ q.rest = rest :=
  ⟨{ before := w.getLast?.or p.before, rest := rest, offset := p.offset + size w },
    ⟨h, rfl, rfl⟩, rfl⟩

/-- Going over two texts leads through a place between them. -/
lemma reads_append_iff : p.Reads (v ++ w) r ↔ ∃ q, p.Reads v q ∧ q.Reads w r := by
  constructor
  · intro h
    obtain ⟨q, hq, hrest⟩ := exists_reads (h.rest.trans (List.append_assoc v w r.rest))
    refine ⟨q, hq, hrest, ?_, ?_⟩
    · rw [h.offset, hq.offset, size_append, Nat.add_assoc]
    · rw [h.before, hq.before, List.getLast?_append, Option.or_assoc]
  · rintro ⟨q, hv, hw⟩
    exact hv.trans hw

/-- A place is given by the place where one started and its offset. -/
lemma Reads.eq_of_offset_eq (h₁ : p.Reads v q) (h₂ : p.Reads w r) (h : q.offset = r.offset) :
    q = r := by
  have hsize : size v = size w := by
    have := h₁.offset
    have := h₂.offset
    omega
  obtain ⟨rfl, hrest⟩ := split_unique (h₁.rest.symm.trans h₂.rest) hsize
  obtain ⟨before, rest, offset⟩ := q
  obtain ⟨before', rest', offset'⟩ := r
  have hbefore : before = before' := h₁.before.trans h₂.before.symm
  simp only [mk.injEq]
  exact ⟨hbefore, hrest, h⟩

/-- The text between two places is the one that was gone over. -/
lemma Reads.textTo (h : p.Reads w q) : p.textTo q = w := by
  have hlength : (w ++ q.rest).length - q.rest.length = w.length := by
    rw [List.length_append]
    omega
  rw [Cursor.textTo, h.rest, hlength, List.take_left]

/-! ## Places of a text -/

/-- The place is one of the text. -/
def In (t : Text) (p : Cursor) : Prop :=
  ∃ a, (ofText t).Reads a p

/-- The start of a text is one of its places. -/
lemma in_ofText (t : Text) : In t (ofText t) :=
  ⟨[], Reads.refl _⟩

/-- Going on from a place of a text leads to another. -/
lemma In.reads {t : Text} (h : In t p) (hr : p.Reads w q) : In t q := by
  obtain ⟨a, ha⟩ := h
  exact ⟨a ++ w, ha.trans hr⟩

/-- What comes before a place and after it is the text. -/
lemma In.exists_eq_append {t : Text} (h : In t p) :
    ∃ a, t = a ++ p.rest ∧ p.offset = size a ∧ p.before = a.getLast? := by
  obtain ⟨a, ha⟩ := h
  refine ⟨a, ha.rest, ?_, ?_⟩
  · simpa [ofText] using ha.offset
  · simpa [ofText] using ha.before

/-- The offset of a place is a boundary. -/
lemma In.isBoundary {t : Text} (h : In t p) : t.isBoundary p.offset = true := by
  obtain ⟨a, ha, hoffset, -⟩ := h.exists_eq_append
  exact isBoundary_iff.mpr ⟨a, p.rest, ha, hoffset.symm⟩

/-- A text has one place at an offset. -/
lemma In.eq_of_offset_eq {t : Text} (hp : In t p) (hq : In t q) (h : p.offset = q.offset) :
    p = q := by
  obtain ⟨a, ha⟩ := hp
  obtain ⟨b, hb⟩ := hq
  exact ha.eq_of_offset_eq hb h

/-- There is no place inside a character. -/
lemma In.step_offset_le {t : Text} (hp : In t p) (hq : In t q) {c : Char} {rest : Text}
    (hrest : p.rest = c :: rest) (hlt : p.offset < q.offset) :
    p.offset + c.utf8Size ≤ q.offset := by
  obtain ⟨a, ha, hpa, -⟩ := hp.exists_eq_append
  obtain ⟨b, hb, hqb, -⟩ := hq.exists_eq_append
  obtain ⟨m, rfl, hm⟩ := exists_eq_append_of_size_le (ha.symm.trans hb) (by omega)
  cases m with
  | nil => simp at hqb; omega
  | cons d m =>
    obtain ⟨rfl, -⟩ := List.cons.inj (hrest.symm.trans hm)
    simp only [size_append, size_cons] at hqb
    omega

/-- The places before the next one are those before this one, and this one. -/
lemma In.lt_or_eq_of_lt_step {t : Text} (hp : In t p) (hq : In t q) {c : Char} {rest : Text}
    (hrest : p.rest = c :: rest) (hlt : q.offset < p.offset + c.utf8Size) :
    q.offset < p.offset ∨ q = p := by
  rcases Nat.lt_trichotomy q.offset p.offset with hbefore | heq | hbehind
  · exact .inl hbefore
  · exact .inr (hq.eq_of_offset_eq hp heq)
  · exact absurd (hp.step_offset_le hq hrest hbehind) (Nat.not_le.mpr hlt)

/-- No place comes behind the end of the text. -/
lemma In.offset_le_of_rest_eq_nil {t : Text} (hp : In t p) (hq : In t q) (hnil : p.rest = []) :
    q.offset ≤ p.offset := by
  obtain ⟨a, ha, hsize, -⟩ := hp.exists_eq_append
  obtain ⟨b, hb, hsize', -⟩ := hq.exists_eq_append
  have ht := congrArg size (ha.symm.trans hb)
  rw [hnil, List.append_nil, size_append] at ht
  omega

/-- Looking for an offset leads to the place behind the text that comes before it. -/
lemma reads_seek (before : Option Char) (offset : Nat) (w rest : Text) :
    Reads { before := before, rest := w ++ rest, offset := offset } w
      (seek (offset + size w) before offset (w ++ rest)) := by
  induction w generalizing before offset with
  | nil =>
    have hseek : seek (offset + size []) before offset ([] ++ rest) =
        { before := before, rest := rest, offset := offset } := by
      cases rest <;> simp [seek]
    rw [hseek]
    exact Reads.refl _
  | cons c w ih =>
    have hpos := Char.utf8Size_pos c
    have hnot : ¬ offset + c.utf8Size + size w ≤ offset := by omega
    rw [size_cons, ← Nat.add_assoc, List.cons_append, seek, if_neg hnot]
    exact (Reads.step rfl).trans (ih (some c) (offset + c.utf8Size))

/-- Looking for the offset of a place leads to the place. -/
lemma In.seek_eq {t : Text} (h : In t p) : seek p.offset none 0 t = p := by
  obtain ⟨a, rfl, hoffset, -⟩ := h.exists_eq_append
  have hseek := reads_seek none 0 a p.rest
  rw [Nat.zero_add, ← hoffset] at hseek
  refine In.eq_of_offset_eq ⟨a, hseek⟩ h ?_
  rw [hseek.offset, hoffset, Nat.zero_add]

/-- The property is kept by going over a character. -/
def Onward (P : Cursor → Prop) : Prop :=
  ∀ p c rest, p.rest = c :: rest → P p → P (p.step c rest)

/-- Such a property is kept by going over a text. -/
lemma Onward.reads {P : Cursor → Prop} (hP : Onward P) (h : p.Reads w q) (hp : P p) : P q := by
  induction w generalizing p with
  | nil =>
    obtain rfl := reads_nil_iff.mp h
    exact hp
  | cons c w ih =>
    obtain ⟨-, hr⟩ := (reads_cons_iff h.rest).mp h
    exact ih hr (hP p c _ h.rest hp)

/-- That a place is reached from another one is such a property. -/
lemma onward_reads (p : Cursor) : Onward fun q => ∃ w, p.Reads w q := by
  rintro q c rest hrest ⟨w, hw⟩
  exact ⟨w ++ [c], hw.trans (Reads.step hrest)⟩

end Cursor

/-! ## Runs go on -/

namespace Run

variable {P : Cursor → Prop} {r s : Run}

/-- A step goes over a character of the class. -/
lemma step?_eq_some {set : CharClass} (h : r.step? set = some s) :
    ∃ c rest, r.place.rest = c :: rest ∧ set.mem c = true ∧
      s = { r with place := r.place.step c rest } := by
  simp only [step?] at h
  split at h
  · simp at h
  · next c rest hrest =>
    split at h
    · next hmem => exact ⟨c, rest, hrest, hmem, by simpa using h.symm⟩
    · simp at h

/-- What holds onward holds after a step. -/
lemma step?_onward (hP : Cursor.Onward P) {set : CharClass} (h : r.step? set = some s)
    (hr : P r.place) : P s.place := by
  obtain ⟨c, rest, hrest, -, rfl⟩ := step?_eq_some h
  exact hP _ c rest hrest hr

/-- An anchor leaves a run where it is. -/
lemma anchor?_eq_some {a : Anchor} (h : r.anchor? a = some s) : s = r := by
  simp only [anchor?] at h
  split at h
  · simpa using h.symm
  · simp at h

/-- The run `s` has gone over the text `w` from the run `r` on, all characters being of a class. -/
def GoesOver (set : CharClass) (r : Run) (w : Text) (s : Run) : Prop :=
  r.place.Reads w s.place ∧ s.groups = r.groups ∧ ∀ c ∈ w, set.mem c = true

/-- Going over nothing leaves a run where it is. -/
lemma goesOver_nil_iff {set : CharClass} : GoesOver set r [] s ↔ r = s := by
  constructor
  · rintro ⟨hreads, hgroups, -⟩
    have hplace := Cursor.reads_nil_iff.mp hreads
    obtain ⟨place, groups⟩ := r
    obtain ⟨place', groups'⟩ := s
    simp only [mk.injEq]
    exact ⟨hplace.symm, hgroups.symm⟩
  · rintro rfl
    exact ⟨Cursor.Reads.refl _, rfl, by simp⟩

/-- A run goes over a text character by character. -/
lemma goesOver_cons_iff {set : CharClass} {c d : Char} {rest w : Text}
    (hrest : r.place.rest = c :: rest) :
    GoesOver set r (d :: w) s ↔
      d = c ∧ set.mem c = true ∧ GoesOver set { r with place := r.place.step c rest } w s := by
  simp only [GoesOver, Cursor.reads_cons_iff hrest, List.forall_mem_cons]
  constructor
  · rintro ⟨⟨rfl, hreads⟩, hgroups, hd, hall⟩
    exact ⟨rfl, hd, hreads, hgroups, hall⟩
  · rintro ⟨rfl, hd, hreads, hgroups, hall⟩
    exact ⟨⟨rfl, hreads⟩, hgroups, hd, hall⟩

/-- The runs along a class, by the number of characters that they have gone over.

**Proof sketch.** Induction on the rest of the text. The run after one character more comes next if
that character is of the class. -/
lemma along_getElem?_eq_some_iff {set : CharClass} {rest : Text} {n : Nat}
    (hrest : r.place.rest = rest) :
    (along set r rest)[n]? = some s ↔ ∃ w, w.length = n ∧ GoesOver set r w s := by
  induction rest generalizing r n with
  | nil =>
    cases n with
    | zero => simp [along, goesOver_nil_iff]
    | succ n =>
      simp only [along, List.getElem?_cons_succ, List.getElem?_nil, reduceCtorEq, false_iff]
      rintro ⟨w, hw, hreads, -⟩
      have := congrArg List.length (hrest.symm.trans hreads.rest)
      rw [List.length_nil, List.length_append, hw] at this
      omega
  | cons c rest ih =>
    rw [along]
    cases n with
    | zero => split <;> simp [goesOver_nil_iff]
    | succ n =>
      have hcons : (∃ w : Text, w.length = n + 1 ∧ GoesOver set r w s) ↔
          set.mem c = true ∧ ∃ w : Text, w.length = n ∧
            GoesOver set { r with place := r.place.step c rest } w s := by
        constructor
        · rintro ⟨w, hw, hover⟩
          obtain ⟨d, w, rfl⟩ := List.exists_cons_of_length_eq_add_one hw
          obtain ⟨-, hc, hover⟩ := (goesOver_cons_iff hrest).mp hover
          exact ⟨hc, w, by simpa using hw, hover⟩
        · rintro ⟨hc, w, hw, hover⟩
          exact ⟨c :: w, by simp [hw], (goesOver_cons_iff hrest).mpr ⟨rfl, hc, hover⟩⟩
      rw [hcons]
      split
      · next hc =>
        rw [List.getElem?_cons_succ, ih rfl]
        exact (and_iff_right hc).symm
      · next hc => simp [hc]

/-- **A repetition of characters** goes over any text of characters of the class whose length it
admits.

**Proof sketch.** The runs are listed by length, and those that are too short or too long are
dropped. -/
lemma mem_chars_iff {set : CharClass} {least : Nat} {most : Option Nat} {greedy : Bool} :
    s ∈ chars set least most greedy r ↔
      ∃ w, GoesOver set r w s ∧ least ≤ w.length ∧ ∀ m ∈ most, w.length ≤ m := by
  cases most with
  | none =>
    have hmem : s ∈ chars set least none greedy r ↔ s ∈ (along set r r.place.rest).drop least := by
      cases greedy <;> simp [chars]
    rw [hmem, List.mem_iff_getElem?]
    simp only [List.getElem?_drop, along_getElem?_eq_some_iff rfl]
    constructor
    · rintro ⟨n, w, hw, hover⟩
      exact ⟨w, hover, by omega, by simp⟩
    · rintro ⟨w, hover, hle, -⟩
      exact ⟨w.length - least, w, by omega, hover⟩
  | some most =>
    have hmem : s ∈ chars set least (some most) greedy r ↔
        s ∈ ((along set r r.place.rest).take (most + 1)).drop least := by
      cases greedy <;> simp [chars]
    rw [hmem, List.mem_iff_getElem?]
    simp only [List.getElem?_drop, List.getElem?_take]
    constructor
    · rintro ⟨n, hn⟩
      split at hn
      · next hlt =>
        obtain ⟨w, hw, hover⟩ := (along_getElem?_eq_some_iff rfl).mp hn
        refine ⟨w, hover, by omega, fun m hm => ?_⟩
        obtain rfl := Option.mem_some_iff.mp hm
        omega
      · simp at hn
    · rintro ⟨w, hover, hle, hmost⟩
      have := hmost most rfl
      refine ⟨w.length - least, ?_⟩
      rw [if_pos (by omega)]
      exact (along_getElem?_eq_some_iff rfl).mpr ⟨w, by omega, hover⟩

/-- Leaving runs out adds none. -/
lemma mem_of_mem_distinctFrom {seen : Std.TreeSet Nat} {rs : List Run}
    (hs : s ∈ distinctFrom seen rs) : s ∈ rs := by
  induction rs generalizing seen with
  | nil => exact hs
  | cons r rs ih =>
    simp only [distinctFrom] at hs
    split at hs
    · exact List.mem_cons_of_mem _ (ih hs)
    · rcases List.mem_cons.mp hs with rfl | hs
      · exact List.mem_cons_self
      · exact List.mem_cons_of_mem _ (ih hs)

/-- Leaving out runs at places that were met adds none. -/
lemma mem_of_mem_distinct {rs : List Run} (hs : s ∈ distinct rs) : s ∈ rs := by
  simp only [distinct] at hs
  split at hs
  · exact hs
  · exact hs
  · exact mem_of_mem_distinctFrom hs

end Run

/-! ## Machines go on -/

section Machine

variable {P : Cursor → Prop} {steps : Array Step}

/-- A step of a machine goes over one character or none. -/
lemma Thread.follow_onward (hP : Cursor.Onward P) {t : Thread} (ht : P t.run.place) (step : Step) :
    ∀ u ∈ t.follow step, P u.run.place := by
  intro u hu
  cases step with
  | char set =>
    obtain ⟨s, hs, rfl⟩ : ∃ s, t.run.step? set = some s ∧ t.advance s = u := by
      simpa [Thread.follow] using hu
    exact Run.step?_onward hP hs ht
  | anchor a =>
    obtain ⟨s, hs, rfl⟩ : ∃ s, t.run.anchor? a = some s ∧ t.advance s = u := by
      simpa [Thread.follow] using hu
    obtain rfl := Run.anchor?_eq_some hs
    exact ht
  | enter =>
    obtain rfl := List.mem_singleton.mp hu
    exact ht
  | leave index =>
    simp only [Thread.follow] at hu
    split at hu
    · obtain rfl := List.mem_singleton.mp hu
      exact ht
    · obtain rfl := List.mem_singleton.mp hu
      exact ht
  | split first second =>
    simp only [Thread.follow, List.mem_cons, List.not_mem_nil, or_false] at hu
    rcases hu with rfl | rfl <;> exact ht
  | jump target =>
    obtain rfl := List.mem_singleton.mp hu
    exact ht

/-- What is found by a walk through a machine was found before or was reached by its threads. -/
lemma exploreFrom_onward (hP : Cursor.Onward P) {bound : Nat} {pending : List Thread}
    {met : StepSet} {found : List Run} (hpending : ∀ t ∈ pending, P t.run.place)
    (hfound : ∀ s ∈ found, P s.place) :
    ∀ s ∈ exploreFrom steps bound pending met found, P s.place := by
  fun_induction exploreFrom steps bound pending met found with
  | case1 => exact hfound
  | case2 => exact hfound
  | case3 bound t pending met found here hmet ih =>
    exact ih (fun u hu => hpending u (List.mem_cons_of_mem _ hu)) hfound
  | case4 bound t pending met found here hmet hend ih =>
    refine ih (fun u hu => hpending u (List.mem_cons_of_mem _ hu)) fun s hs => ?_
    rcases List.mem_cons.mp hs with rfl | hs
    · exact hpending t List.mem_cons_self
    · exact hfound s hs
  | case5 bound t pending met found here hmet step hstep ih =>
    refine ih (fun u hu => ?_) hfound
    rcases List.mem_append.mp hu with hu | hu
    · exact Thread.follow_onward hP (hpending t List.mem_cons_self) step u hu
    · exact hpending u (List.mem_cons_of_mem _ hu)

/-- What holds onward holds of all runs that are explored. -/
lemma explore_onward (hP : Cursor.Onward P) {r : Run} (hr : P r.place) :
    ∀ s ∈ explore steps r, P s.place := by
  intro s hs
  refine exploreFrom_onward hP (fun t ht => ?_) (by simp) s (List.mem_reverse.mp hs)
  obtain rfl := List.mem_singleton.mp ht
  exact hr

end Machine

/-! ## Patterns go on -/

namespace Expr

/-- **Patterns go on.** A property of places that is kept by going over a character is kept by every
pattern.

**Proof sketch.** Induction on the pattern. A repetition is walked by its machine, whose steps go
over one character or none. -/
lemma ends_onward {P : Cursor → Prop} (hP : Cursor.Onward P) (e : Expr) {r : Run}
    (hr : P r.place) : ∀ s ∈ e.ends r, P s.place := by
  induction e generalizing r with
  | empty =>
    intro s hs
    obtain rfl := List.mem_singleton.mp hs
    exact hr
  | char set =>
    intro s hs
    exact Run.step?_onward hP (Option.mem_toList.mp hs) hr
  | anchor a =>
    intro s hs
    obtain rfl := Run.anchor?_eq_some (Option.mem_toList.mp hs)
    exact hr
  | seq a b iha ihb =>
    intro s hs
    obtain ⟨m, hm, hs⟩ := List.mem_flatMap.mp (Run.mem_of_mem_distinct hs)
    exact ihb (iha hr m hm) s hs
  | alt a b iha ihb =>
    intro s hs
    rcases List.mem_append.mp hs with hs | hs
    · exact iha hr s hs
    · exact ihb hr s hs
  | chars set least most greedy =>
    intro s hs
    obtain ⟨w, ⟨hreads, -⟩, -⟩ := Run.mem_chars_iff.mp hs
    exact hP.reads hreads hr
  | option body greedy ih =>
    intro s hs
    have hs : s ∈ body.ends r ∨ s = r := by
      cases greedy <;> simpa [ends, or_comm] using hs
    rcases hs with hs | rfl
    · exact ih hr s hs
    · exact hr
  | rep body least most greedy ih =>
    exact explore_onward hP hr
  | group index body ih =>
    intro s hs
    obtain ⟨m, hm, rfl⟩ := List.mem_map.mp hs
    exact ih hr m hm

variable {e : Expr} {m : Match}

/-- A match starts where it is looked for and goes over a piece of the text. -/
lemma matchAt?_reads {place : Cursor} (h : e.matchAt? place = some m) :
    m.start = place ∧ place.Reads m.toPiece.text m.stop := by
  simp only [matchAt?] at h
  split at h
  · obtain ⟨r, hr, rfl⟩ := Option.map_eq_some_iff.mp h
    obtain ⟨w, hw⟩ := ends_onward (Cursor.onward_reads place) e ⟨[], Cursor.Reads.refl place⟩ r
      (List.mem_of_mem_head? hr)
    refine ⟨rfl, ?_⟩
    rw [Piece.text, hw.textTo]
    exact hw
  · simp at h

/-- The leftmost match starts at a place behind the one where the search starts. -/
lemma findFrom?_reads {before : Option Char} {offset : Nat} {rest : Text}
    (h : e.findFrom? before offset rest = some m) :
    e.matchAt? m.start = some m ∧
      ∃ w, Cursor.Reads { before := before, rest := rest, offset := offset } w m.start := by
  induction rest generalizing before offset with
  | nil =>
    simp only [findFrom?] at h
    obtain ⟨hstart, -⟩ := matchAt?_reads h
    rw [hstart]
    exact ⟨h, [], Cursor.Reads.refl _⟩
  | cons c rest ih =>
    simp only [findFrom?] at h
    split at h
    · next hm =>
      obtain rfl : _ = m := by simpa using h
      obtain ⟨hstart, -⟩ := matchAt?_reads hm
      rw [hstart]
      exact ⟨hm, [], Cursor.Reads.refl _⟩
    · obtain ⟨hm, w, hw⟩ := ih h
      exact ⟨hm, c :: w, Cursor.Reads.trans (Cursor.Reads.step rfl) hw⟩

/-- The leftmost match in a text starts at a place of the text. -/
lemma find?_in {t : Text} (h : e.find? t = some m) :
    e.matchAt? m.start = some m ∧ Cursor.In t m.start :=
  findFrom?_reads h

/-- The next match at a place is the match at that place. -/
lemma nextAt?_eq_some {last : Option Nat} {place : Cursor} (h : e.nextAt? last place = some m) :
    e.matchAt? place = some m := by
  simp only [nextAt?] at h
  split at h
  · simp at h
  · split at h
    · next hm =>
      split at h
      · simp at h
      · rw [hm]
        exact h
    · simp at h

/-- All matches start at places behind the one where the search starts. -/
lemma findAllFrom_reads {last : Option Nat} {before : Option Char} {offset : Nat} {rest : Text} :
    ∀ m ∈ e.findAllFrom last before offset rest, e.matchAt? m.start = some m ∧
      ∃ w, Cursor.Reads { before := before, rest := rest, offset := offset } w m.start := by
  have hfirst : ∀ {last place m}, e.nextAt? last place = some m →
      e.matchAt? m.start = some m ∧ ∃ w, Cursor.Reads place w m.start := by
    intro last place m h
    have hm := nextAt?_eq_some h
    obtain ⟨hstart, -⟩ := matchAt?_reads hm
    rw [hstart]
    exact ⟨hm, [], Cursor.Reads.refl _⟩
  induction rest generalizing last before offset with
  | nil =>
    intro m hm
    exact hfirst (Option.mem_toList.mp hm)
  | cons c rest ih =>
    intro m hm
    simp only [findAllFrom] at hm
    have hlater : ∀ last, m ∈ e.findAllFrom last (some c) (offset + c.utf8Size) rest →
        e.matchAt? m.start = some m ∧
          ∃ w, Cursor.Reads { before := before, rest := c :: rest, offset := offset } w
            m.start := by
      intro last hm
      obtain ⟨hmatch, w, hw⟩ := ih m hm
      exact ⟨hmatch, c :: w, Cursor.Reads.trans (Cursor.Reads.step rfl) hw⟩
    split at hm
    · next first hnext =>
      rcases List.mem_cons.mp hm with rfl | hm
      · exact hfirst hnext
      · exact hlater _ hm
    · exact hlater _ hm

/-- All matches of a text start at places of the text. -/
lemma findAll_in {t : Text} : ∀ m ∈ e.findAll t,
    e.matchAt? m.start = some m ∧ Cursor.In t m.start :=
  findAllFrom_reads

end Expr

end Gloss
