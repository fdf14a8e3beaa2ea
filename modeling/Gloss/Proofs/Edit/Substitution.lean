import Gloss.Edit.Assemble
import Gloss.Proofs.Boundary

/-!
# Changing a text in one pass

What a list of changes means, without an order in which they are applied: one pass over the text
from left to right, in which every offset is an offset of the unchanged text. At each place come
the blocks that go there, then the new text of the replacement that starts there, then the
character itself unless a replacement covers it.

Changes that are applied one after the other, from the end of the text to its start, give the same
text, since each of them leaves everything before it as it was.

## Main definitions

* `Replacement`, `Block`: a piece of a text with its new text; a text with the offset it goes to.
* `substituteFrom`: the text after all changes, by one pass from left to right.
* `Pending.Lies`, `Pending.Fits`: a change whose ends are boundaries of a text; a replacement that
  fits is not empty.
* `Descending`: changes that lie before all changes in front of them in the list.

## Main results

* `applyEdits_of_descending`: descending changes, applied one after the other, are one pass.
-/

set_option relaxedAutoImplicit false
set_option autoImplicit false

namespace Gloss

open Text

/-! ## One pass over a text -/

/-- A piece of a text that gets a new text. -/
structure Replacement where
  /-- Where the piece starts. -/
  start : Nat
  /-- Where it ends. -/
  stop : Nat
  /-- The new text. -/
  text : Text
  deriving Repr, DecidableEq

/-- The byte at an offset belongs to the piece. -/
def Replacement.covers (r : Replacement) (offset : Nat) : Bool :=
  r.start ≤ offset && offset < r.stop

/-- A text that is put into another. -/
structure Block where
  /-- Where it goes. -/
  offset : Nat
  /-- The text. -/
  text : Text
  deriving Repr, DecidableEq

/-- The blocks that go to an offset, in their order. -/
def blocksAt (blocks : List Block) (here : Nat) : Text :=
  (blocks.filter fun b => b.offset == here).flatMap Block.text

/-- The new text for a piece that starts at an offset. -/
def newTextAt (replacements : List Replacement) (here : Nat) : Text :=
  (replacements.filter fun r => r.start == here).flatMap Replacement.text

/-- The text from the offset `here` on, after all changes. -/
def substituteFrom (replacements : List Replacement) (blocks : List Block) (here : Nat) :
    Text → Text
  | [] => blocksAt blocks here
  | c :: rest =>
    blocksAt blocks here ++ newTextAt replacements here ++
      (if replacements.any fun r => r.covers here then [] else [c]) ++
      substituteFrom replacements blocks (here + c.utf8Size) rest

/-- The pass over the start of a text, up to the place behind it and without what goes there. -/
def passOver (replacements : List Replacement) (blocks : List Block) (here : Nat) : Text → Text
  | [] => []
  | c :: rest =>
    blocksAt blocks here ++ newTextAt replacements here ++
      (if replacements.any fun r => r.covers here then [] else [c]) ++
      passOver replacements blocks (here + c.utf8Size) rest

section Pass

variable {R R' : List Replacement} {B B' : List Block}

/-- The pass goes over the first part of a text and then over the second. -/
lemma substituteFrom_append (R : List Replacement) (B : List Block) (here : Nat) (a b : Text) :
    substituteFrom R B here (a ++ b) =
      passOver R B here a ++ substituteFrom R B (here + size a) b := by
  induction a generalizing here with
  | nil => simp [passOver]
  | cons c a ih =>
    simp only [List.cons_append, substituteFrom, passOver, ih, size_cons, List.append_assoc,
      Nat.add_assoc]

/-- A text is passed over part by part. -/
lemma passOver_append (R : List Replacement) (B : List Block) (here : Nat) (a b : Text) :
    passOver R B here (a ++ b) = passOver R B here a ++ passOver R B (here + size a) b := by
  induction a generalizing here with
  | nil => simp [passOver]
  | cons c a ih =>
    simp only [List.cons_append, passOver, ih, size_cons, List.append_assoc, Nat.add_assoc]

/-- The pass over a whole text ends with the blocks that go to its end. -/
lemma substituteFrom_eq_passOver (R : List Replacement) (B : List Block) (here : Nat) (t : Text) :
    substituteFrom R B here t = passOver R B here t ++ blocksAt B (here + size t) := by
  simpa [substituteFrom] using substituteFrom_append R B here t []

/-- The pass over a text only looks at the changes at the offsets of that text. -/
lemma passOver_congr {here : Nat} {t : Text}
    (hB : ∀ x, here ≤ x → x < here + size t → blocksAt B x = blocksAt B' x)
    (hR : ∀ x, here ≤ x → x < here + size t → newTextAt R x = newTextAt R' x ∧
      (R.any fun r => r.covers x) = R'.any fun r => r.covers x) :
    passOver R B here t = passOver R' B' here t := by
  induction t generalizing here with
  | nil => rfl
  | cons c t ih =>
    have hc := Char.utf8Size_pos c
    simp only [size_cons] at hB hR
    obtain ⟨hnew, hany⟩ := hR here (by omega) (by omega)
    have hrest : passOver R B (here + c.utf8Size) t = passOver R' B' (here + c.utf8Size) t :=
      ih (fun x h₁ h₂ => hB x (by omega) (by omega)) (fun x h₁ h₂ => hR x (by omega) (by omega))
    simp only [passOver, hB here (by omega) (by omega), hnew, hany, hrest]

/-- The whole pass only looks at the changes at the offsets of the text, its end included. -/
lemma substituteFrom_congr {here : Nat} {t : Text} (hB : ∀ x, blocksAt B x = blocksAt B' x)
    (hR : ∀ x, newTextAt R x = newTextAt R' x ∧
      (R.any fun r => r.covers x) = R'.any fun r => r.covers x) :
    substituteFrom R B here t = substituteFrom R' B' here t := by
  rw [substituteFrom_eq_passOver, substituteFrom_eq_passOver, hB,
    passOver_congr (fun x _ _ => hB x) (fun x _ _ => hR x)]

/-- Behind the last change the text stays as it is. -/
lemma substituteFrom_of_quiet {here : Nat} (t : Text) (hB : ∀ x, here < x → blocksAt B x = [])
    (hR : ∀ x, here ≤ x → newTextAt R x = [] ∧ (R.any fun r => r.covers x) = false) :
    substituteFrom R B here t = blocksAt B here ++ t := by
  induction t generalizing here with
  | nil => simp [substituteFrom]
  | cons c t ih =>
    have hc := Char.utf8Size_pos c
    obtain ⟨hnew, hany⟩ := hR here (Nat.le_refl here)
    rw [substituteFrom, hnew, hany,
      ih (fun x h => hB x (by omega)) (fun x h => hR x (by omega)),
      hB (here + c.utf8Size) (by omega)]
    simp

/-- Of a piece that is replaced nothing stays, if no blocks go inside and no other piece starts
there. -/
lemma passOver_of_covered {here : Nat} (w : Text)
    (hB : ∀ x, here ≤ x → x < here + size w → blocksAt B x = [])
    (hR : ∀ x, here ≤ x → x < here + size w → newTextAt R x = [] ∧
      (R.any fun r => r.covers x) = true) :
    passOver R B here w = [] := by
  induction w generalizing here with
  | nil => rfl
  | cons c w ih =>
    have hc := Char.utf8Size_pos c
    simp only [size_cons] at hB hR
    obtain ⟨hnew, hany⟩ := hR here (by omega) (by omega)
    have hrest : passOver R B (here + c.utf8Size) w = [] :=
      ih (fun x h₁ h₂ => hB x (by omega) (by omega)) (fun x h₁ h₂ => hR x (by omega) (by omega))
    simp [passOver, hB here (by omega) (by omega), hnew, hany, hrest]

end Pass

/-! ## Changes one after the other -/

namespace Pending

/-- The replacement that a change is. -/
def replacement (p : Pending) : Replacement :=
  { start := p.start, stop := p.stop, text := p.text }

/-- The block that a change puts into the text. -/
def block (p : Pending) : Block :=
  { offset := p.start, text := p.text }

/-- The ends of a change are boundaries of the text, in their order. -/
structure Lies (t : Text) (p : Pending) : Prop where
  /-- The start is a boundary. -/
  start : t.isBoundary p.start = true
  /-- The end is a boundary. -/
  stop : t.isBoundary p.stop = true
  /-- The start does not lie behind the end. -/
  start_le_stop : p.start ≤ p.stop
  /-- An insertion takes no place. -/
  insertion : p.insertion = true → p.stop = p.start

/-- The ends of a change are boundaries of the text. An insertion has one end, a replacement has
two. -/
structure Fits (t : Text) (p : Pending) : Prop extends Lies t p where
  /-- A replacement takes some place. -/
  replacement : p.insertion = false → p.start < p.stop

/-- A change that lies in the first part of a text lies so in that part alone. -/
lemma Lies.of_append {a b : Text} {p : Pending} (h : p.Lies (a ++ b)) (hle : p.stop ≤ size a) :
    p.Lies a where
  start := isBoundary_of_append h.start (Nat.le_trans h.start_le_stop hle)
  stop := isBoundary_of_append h.stop hle
  start_le_stop := h.start_le_stop
  insertion := h.insertion

/-- The first byte of an edit is counted from one. -/
@[simp]
lemma edit_start_ne_zero (p : Pending) : p.edit.start ≠ 0 := by
  cases hp : p.insertion <;> simp [edit, hp, Edit.insert, Edit.replace]

/-- An edit starts where its change does. -/
@[simp]
lemma edit_offset (p : Pending) : p.edit.offset = p.start := by
  cases hp : p.insertion <;> simp [edit, hp, Edit.insert, Edit.replace, Edit.offset]

/-- An edit has the text of its change. -/
lemma edit_text (p : Pending) : p.edit.text = p.text := by
  cases hp : p.insertion <;> simp [edit, hp, Edit.insert, Edit.replace]

/-- The edit of a change ends where the change ends. -/
lemma Lies.edit_stop {t : Text} {p : Pending} (h : p.Lies t) : p.edit.stop = p.stop := by
  have hle := h.start_le_stop
  cases hp : p.insertion with
  | true =>
    have hs := h.insertion hp
    simp [edit, hp, Edit.insert, Edit.stop, Edit.offset, hs]
  | false =>
    simp only [edit, hp, Edit.replace, Edit.stop, Edit.offset, Bool.false_eq_true, ↓reduceIte]
    omega

end Pending

/-- An edit between two boundaries puts its text in the place of what stands between them. -/
lemma applyEdit_split (a w b : Text) {e : Edit} (h₀ : e.start ≠ 0) (hs : e.offset = size a)
    (he : e.stop = size (a ++ w)) : applyEdit (a ++ w ++ b) e = .ok (a ++ e.text ++ b) := by
  have hcut : (a ++ w ++ b).cut? (size a) = some (a, w ++ b) := by
    rw [List.append_assoc]
    exact cut?_append a (w ++ b)
  have hcut' : (a ++ w ++ b).cut? (size (a ++ w)) = some (a ++ w, b) := cut?_append (a ++ w) b
  have hin : ¬ (size (a ++ w) < size a ∨ size (a ++ w ++ b) < size (a ++ w)) := by
    simp only [size_append]
    omega
  simp only [applyEdit, h₀, ↓reduceIte, checkRange, hs, he, hin, isBoundary, hcut, hcut',
    Option.isSome_some, Bool.and_self, spliced]

/-- Every change lies before all changes in front of it. -/
def Descending (changes : List Pending) : Prop :=
  changes.Pairwise fun p q => q.stop ≤ p.start

/-- The replacements among changes. -/
def replacementsOf (changes : List Pending) : List Replacement :=
  (changes.filter fun p => !p.insertion).map Pending.replacement

/-- The blocks among changes. -/
def blocksOf (changes : List Pending) : List Block :=
  (changes.filter fun p => p.insertion).map Pending.block

/-- Nothing goes to an offset that no block has. -/
lemma blocksAt_eq_nil {B : List Block} {x : Nat} (h : ∀ b ∈ B, b.offset ≠ x) :
    blocksAt B x = [] := by
  have hf : (B.filter fun b => b.offset == x) = [] := by
    rw [List.filter_eq_nil_iff]
    intro b hb
    simpa using h b hb
  rw [blocksAt, hf, List.flatMap_nil]

/-- There is no new text at an offset where no replaced piece starts. -/
lemma newTextAt_eq_nil {R : List Replacement} {x : Nat} (h : ∀ r ∈ R, r.start ≠ x) :
    newTextAt R x = [] := by
  have hf : (R.filter fun r => r.start == x) = [] := by
    rw [List.filter_eq_nil_iff]
    intro r hr
    simpa using h r hr
  rw [newTextAt, hf, List.flatMap_nil]

/-- An offset is free if it lies outside all replaced pieces. -/
lemma any_covers_eq_false {R : List Replacement} {x : Nat}
    (h : ∀ r ∈ R, x < r.start ∨ r.stop ≤ x) : (R.any fun r => r.covers x) = false := by
  rw [List.any_eq_false]
  intro r hr
  have := h r hr
  simp only [Replacement.covers, Bool.and_eq_true, decide_eq_true_eq, not_and]
  omega

/-- The blocks of two lists that go to one place come one list after the other. -/
@[simp]
lemma blocksAt_append (B B' : List Block) (x : Nat) :
    blocksAt (B ++ B') x = blocksAt B x ++ blocksAt B' x := by
  simp [blocksAt]

/-- The replacements of two lists that start at one place come one list after the other. -/
@[simp]
lemma newTextAt_append (R R' : List Replacement) (x : Nat) :
    newTextAt (R ++ R') x = newTextAt R x ++ newTextAt R' x := by
  simp [newTextAt]

section Last

variable {R : List Replacement} {B : List Block} {a : Text}

/-- All changes end in the first part of the text. -/
structure EndBefore (R : List Replacement) (B : List Block) (limit : Nat) : Prop where
  /-- The replaced pieces do, and none of them is empty. -/
  replacements : ∀ r ∈ R, r.start < r.stop ∧ r.stop ≤ limit
  /-- The blocks go to offsets that do not lie behind it. -/
  blocks : ∀ b ∈ B, b.offset ≤ limit

/-- Behind the limit there is nothing to change. -/
lemma EndBefore.quiet {limit : Nat} (h : EndBefore R B limit) {x : Nat} (hx : limit ≤ x) :
    newTextAt R x = [] ∧ (R.any fun r => r.covers x) = false := by
  refine ⟨newTextAt_eq_nil fun r hr => ?_, any_covers_eq_false fun r hr => ?_⟩
  · have := h.replacements r hr
    omega
  · have := h.replacements r hr
    omega

/-- No block goes to an offset behind the limit. -/
lemma EndBefore.blocksAt_eq_nil {limit : Nat} (h : EndBefore R B limit) {x : Nat}
    (hx : limit < x) : blocksAt B x = [] :=
  Gloss.blocksAt_eq_nil fun b hb => by
    have := h.blocks b hb
    omega

/-- A block behind all other changes is put there last. -/
lemma substituteFrom_last_block (h : EndBefore R B (size a)) (b new : Text) :
    substituteFrom R (B ++ [{ offset := size a, text := new }]) 0 (a ++ b) =
      substituteFrom R B 0 a ++ new ++ b := by
  set last : Block := { offset := size a, text := new } with hlast
  have hat : ∀ x, x ≠ size a → blocksAt [last] x = [] := fun x hx =>
    Gloss.blocksAt_eq_nil fun b hb => by
      obtain rfl := List.mem_singleton.mp hb
      exact hx.symm
  have hhere : blocksAt [last] (size a) = new := by simp [blocksAt, hlast]
  have hbefore : passOver R (B ++ [last]) 0 a = passOver R B 0 a :=
    passOver_congr (fun x _ hx => by rw [blocksAt_append, hat x (by omega), List.append_nil])
      (fun x _ _ => ⟨rfl, rfl⟩)
  have hbehind : substituteFrom R (B ++ [last]) (size a) b = blocksAt (B ++ [last]) (size a) ++ b :=
    substituteFrom_of_quiet b (fun x hx => by
      rw [blocksAt_append, h.blocksAt_eq_nil hx, hat x (by omega), List.append_nil])
      (fun x hx => h.quiet hx)
  rw [substituteFrom_append, Nat.zero_add, hbefore, hbehind, substituteFrom_eq_passOver R B 0 a,
    Nat.zero_add, blocksAt_append, hhere]
  simp

/-- A replacement behind all other changes takes the place of its piece.

**Proof sketch.** Up to the piece the new replacement is not met. At its start come the blocks that
go there and then the new text; the rest of the piece is covered; behind it nothing changes. -/
lemma substituteFrom_last_replacement (h : EndBefore R B (size a)) {w : Text} (hw : w ≠ [])
    (b new : Text) :
    substituteFrom (R ++ [{ start := size a, stop := size (a ++ w), text := new }]) B 0
        (a ++ w ++ b) = substituteFrom R B 0 a ++ new ++ b := by
  obtain ⟨c, w, rfl⟩ := List.exists_cons_of_ne_nil hw
  have hc := Char.utf8Size_pos c
  set last : Replacement := { start := size a, stop := size (a ++ c :: w), text := new } with hlast
  have hstop : last.stop = size a + c.utf8Size + size w := by
    simp [hlast, Nat.add_assoc]
  have hnew : ∀ x, x ≠ size a → newTextAt [last] x = [] := fun x hx =>
    newTextAt_eq_nil fun r hr => by
      obtain rfl := List.mem_singleton.mp hr
      exact hx.symm
  have hhere : newTextAt [last] (size a) = new := by simp [newTextAt, hlast]
  have hcover : ∀ x, size a ≤ x → x < last.stop →
      ((R ++ [last]).any fun r => r.covers x) = true := by
    intro x h₁ h₂
    have hlast : last.covers x = true := by
      simp only [Replacement.covers, Bool.and_eq_true, decide_eq_true_eq]
      exact ⟨h₁, h₂⟩
    simp [hlast]
  have hfree : ∀ x, x < size a → ([last].any fun r => r.covers x) = false := fun x hx =>
    any_covers_eq_false fun r hr => by
      obtain rfl := List.mem_singleton.mp hr
      exact .inl hx
  have hbehind : ∀ x, last.stop ≤ x → ([last].any fun r => r.covers x) = false := fun x hx =>
    any_covers_eq_false fun r hr => by
      obtain rfl := List.mem_singleton.mp hr
      exact .inr hx
  have hbefore : passOver (R ++ [last]) B 0 a = passOver R B 0 a :=
    passOver_congr (fun x _ _ => rfl) (fun x _ hx => ⟨by
      rw [newTextAt_append, hnew x (by omega), List.append_nil], by
      rw [List.any_append, hfree x (by omega), Bool.or_false]⟩)
  have hinside : passOver (R ++ [last]) B (size a + c.utf8Size) w = [] :=
    passOver_of_covered w (fun x h₁ _ => h.blocksAt_eq_nil (by omega)) (fun x h₁ h₂ => ⟨by
      rw [newTextAt_append, (h.quiet (by omega)).1, hnew x (by omega), List.append_nil],
      hcover x (by omega) (by omega)⟩)
  have hend : substituteFrom (R ++ [last]) B last.stop b = b := by
    rw [substituteFrom_of_quiet b (fun x hx => h.blocksAt_eq_nil (by omega)) (fun x hx => ⟨by
      rw [newTextAt_append, (h.quiet (by omega)).1, hnew x (by omega), List.append_nil], by
      rw [List.any_append, (h.quiet (by omega)).2, hbehind x hx, Bool.or_false]⟩)]
    have hnone : blocksAt B last.stop = [] := h.blocksAt_eq_nil (by omega)
    rw [hnone, List.nil_append]
  rw [List.append_assoc, substituteFrom_append, Nat.zero_add, hbefore, List.cons_append,
    substituteFrom, hcover (size a) (Nat.le_refl _) (by omega), newTextAt_append,
    (h.quiet (Nat.le_refl _)).1, hhere, substituteFrom_append, hinside, ← hstop, hend,
    substituteFrom_eq_passOver R B 0 a, Nat.zero_add]
  simp

end Last

/-- The last of descending changes, for the text in front of the others. -/
lemma endBefore_of_descending {t : Text} {changes : List Pending} {limit : Nat}
    (hfit : ∀ p ∈ changes, p.Fits t) (hle : ∀ p ∈ changes, p.stop ≤ limit) :
    EndBefore (replacementsOf changes.reverse) (blocksOf changes.reverse) limit where
  replacements := by
    intro r hr
    obtain ⟨p, hp, rfl⟩ := List.mem_map.mp hr
    obtain ⟨hp, hins⟩ := List.mem_filter.mp hp
    rw [List.mem_reverse] at hp
    exact ⟨(hfit p hp).replacement (by simpa using hins), hle p hp⟩
  blocks := by
    intro b hb
    obtain ⟨p, hp, rfl⟩ := List.mem_map.mp hb
    obtain ⟨hp, hins⟩ := List.mem_filter.mp hp
    rw [List.mem_reverse] at hp
    have hs := (hfit p hp).insertion (by simpa using hins)
    have := hle p hp
    simp only [Pending.block]
    omega

/-- **Descending changes are one pass.** Applied one after the other, with more text behind, they
give what one pass over the unchanged text gives.

**Proof sketch.** Induction on the list, over all texts. The first change lies behind all others.
It splits the text, and once it is applied the others only see the part in front of it, to which
the induction hypothesis applies with everything behind that part as the additional text. -/
lemma applyEdits_of_descending {t : Text} {changes : List Pending} (hd : Descending changes)
    (hfit : ∀ p ∈ changes, p.Fits t) (more : Text) :
    applyEdits (t ++ more) (changes.map Pending.edit) =
      .ok (substituteFrom (replacementsOf changes.reverse) (blocksOf changes.reverse) 0 t ++
        more) := by
  induction changes generalizing t more with
  | nil =>
    rw [substituteFrom_of_quiet t (fun _ _ => rfl) (fun _ _ => ⟨rfl, rfl⟩)]
    rfl
  | cons p changes ih =>
    obtain ⟨hlast, hd⟩ := List.pairwise_cons.mp hd
    have hp := hfit p (by simp)
    obtain ⟨a, w, b, rfl, ha, hw⟩ := exists_split_of_le hp.start hp.stop hp.start_le_stop
    have hrest : ∀ q ∈ changes, q.Fits a := fun q hq => by
      have hq' : q.Fits (a ++ (w ++ b)) := by
        rw [← List.append_assoc]
        exact hfit q (by simp [hq])
      exact ⟨hq'.toLies.of_append (by rw [ha]; exact hlast q hq), hq'.replacement⟩
    have hend : EndBefore (replacementsOf changes.reverse) (blocksOf changes.reverse) (size a) :=
      endBefore_of_descending hrest (by rw [ha]; exact hlast)
    have hone : applyEdit (a ++ w ++ b ++ more) p.edit = .ok (a ++ (p.text ++ b ++ more)) := by
      have := applyEdit_split a w (b ++ more) p.edit_start_ne_zero
        (by rw [p.edit_offset, ha]) (by rw [hp.edit_stop, hw])
      simpa [p.edit_text] using this
    have hsub : substituteFrom (replacementsOf (p :: changes).reverse)
        (blocksOf (p :: changes).reverse) 0 (a ++ w ++ b) =
          substituteFrom (replacementsOf changes.reverse) (blocksOf changes.reverse) 0 a ++
            p.text ++ b := by
      cases hins : p.insertion with
      | true =>
        have hs := hp.insertion hins
        obtain rfl : w = [] := by
          rw [size_append] at hw
          exact size_eq_zero_iff.mp (by omega)
        have := substituteFrom_last_block hend b p.text
        simpa [replacementsOf, blocksOf, List.filter_append, hins, Pending.block, ha] using this
      | false =>
        have hne : w ≠ [] := by
          rintro rfl
          have := hp.replacement hins
          simp at hw
          omega
        have := substituteFrom_last_replacement hend hne b p.text
        rw [hw] at this
        simpa [replacementsOf, blocksOf, List.filter_append, hins, Pending.replacement, ha]
          using this
    have hstep : applyEdits (a ++ w ++ b ++ more) ((p :: changes).map Pending.edit) =
        applyEdits (a ++ (p.text ++ b ++ more)) (changes.map Pending.edit) := by
      simp only [applyEdits, List.map_cons, List.foldlM_cons, hone]
      rfl
    rw [hstep, ih hd hrest, hsub]
    simp

end Gloss
