import Mathlib.Data.List.Infix
import Gloss.Proofs.Pattern.Alike

/-!
# Templates of patterns

A template is a text with places into which other texts are put. If it is a pattern with a sample in
its places, and an item starts at each of them, then it is one with other texts there too: with
every text that is read as parts that are not nested too deeply and does not give the name of a
group once more.

## Main definitions

* `Text.between`: the pieces of a template between its places.
* `Pattern.OpenPlaces`: an item starts at every place of a template.
* `Pattern.Fills`: a text that is read as parts wherever an item can start.

## Main results

* `Text.replace_eq_intercalate`: filling a template puts the text between its pieces.
* `Pattern.fills_escape`, `Pattern.fills_nameGroup`: an escaped text fills places, and so does the
  group that stands for any name.
* `Pattern.Fills.run`: a template is read alike with both texts in its places, or gives a name
  twice.
* `Pattern.read_name`, `Pattern.read_nameGroup`: what a template is read as with them in its places.
-/

set_option relaxedAutoImplicit false
set_option autoImplicit false

namespace Gloss

namespace Text

/-- The pieces of a text between the occurrences of `old`, from left to right; the first `skip`
characters belong to the last occurrence. -/
def betweenFrom (old : Text) : (skip : Nat) → Text → List Text
  | _, [] => [[]]
  | skip + 1, _ :: rest => betweenFrom old skip rest
  | 0, c :: rest =>
    if old.isPrefixOf (c :: rest) then [] :: betweenFrom old (old.length - 1) rest
    else (betweenFrom old 0 rest).modifyHead (c :: ·)

/-- The pieces of a text between the occurrences of `old`. There is one piece more than there are
occurrences. -/
def between (old t : Text) : List Text :=
  betweenFrom old 0 t

/-- There is always a piece between the occurrences. -/
lemma betweenFrom_ne_nil (old : Text) (skip : Nat) (t : Text) : betweenFrom old skip t ≠ [] := by
  fun_induction betweenFrom old skip t with
  | case1 => simp
  | case2 skip c rest ih => exact ih
  | case3 c rest hplace ih => simp
  | case4 c rest hplace ih =>
    obtain ⟨first, more, heq⟩ := List.exists_cons_of_ne_nil ih
    rw [heq]
    simp

/-- Replacing all occurrences puts the new text between the pieces. -/
lemma replaceFrom_eq_intercalate (old new : Text) (skip : Nat) (t : Text) :
    replaceFrom old new skip t = new.intercalate (betweenFrom old skip t) := by
  fun_induction betweenFrom old skip t with
  | case1 => rw [replaceFrom, List.intercalate_singleton]
  | case2 skip c rest ih => rw [replaceFrom, ih]
  | case3 c rest hplace ih =>
    rw [replaceFrom, if_pos hplace, ih, List.intercalate_cons_of_ne_nil (betweenFrom_ne_nil _ _ _)]
    simp
  | case4 c rest hplace ih =>
    obtain ⟨first, more, heq⟩ := List.exists_cons_of_ne_nil (betweenFrom_ne_nil old 0 rest)
    rw [replaceFrom, if_neg hplace, ih, heq]
    exact List.intercalate_cons_cons_left.symm

/-- **Filling a template puts the text between its pieces.** -/
lemma replace_eq_intercalate (old new t : Text) :
    replace old new t = new.intercalate (between old t) :=
  replaceFrom_eq_intercalate old new 0 t

end Text

namespace Pattern

/-- An item of the pattern `t` starts where `rest` is left of it. -/
def StartsItem (t rest : Text) : Prop :=
  ∃ s, Steps State.start t s rest

/-- With the sample in its places, an item starts at every place of the template with the given
pieces. -/
def OpenPlaces (sample : Text) (pieces : List Text) : Prop :=
  ∀ later, later <:+ pieces.tail → later ≠ [] →
    StartsItem (sample.intercalate pieces) (sample ++ sample.intercalate later)

/-- What is left of a text wherever an item starts. Every step reads a character, so `bound` is at
least the number of characters. -/
def itemRests : (bound : Nat) → State → Text → List Text
  | bound + 1, s, c :: rest =>
    (c :: rest) ::
      match s.next c rest with
      | .error _ => []
      | .ok (s, after) => itemRests bound s after
  | _, _, t => [t]

/-- The rests of a text at which an item starts are those that steps lead to. -/
lemma mem_itemRests_iff {bound : Nat} {s : State} {t rest : Text} (hbound : t.length ≤ bound) :
    rest ∈ itemRests bound s t ↔ ∃ s', Steps s t s' rest := by
  induction bound generalizing s t with
  | zero =>
    obtain rfl := List.eq_nil_of_length_eq_zero (Nat.le_zero.mp hbound)
    rw [itemRests, List.mem_singleton, exists_steps_nil_iff]
    simp
  | succ bound ih =>
    cases t with
    | nil =>
      rw [itemRests, List.mem_singleton, exists_steps_nil_iff]
      simp
    | cons c t =>
      rw [itemRests, List.mem_cons, exists_steps_cons_iff]
      split
      · next fault hnext => simp [hnext]
      · next s₁ after hnext =>
        have hafter : after.length ≤ bound :=
          Nat.le_trans (length_of_next hnext) (Nat.le_of_succ_le_succ hbound)
        simp [hnext, ih hafter]

/-- Whether an item starts at a rest can be decided. -/
instance (t rest : Text) : Decidable (StartsItem t rest) :=
  decidable_of_iff (rest ∈ itemRests t.length State.start t) (mem_itemRests_iff (Nat.le_refl _))

/-- Whether all places are open can be decided. -/
instance (sample : Text) (pieces : List Text) : Decidable (OpenPlaces sample pieces) :=
  decidable_of_iff (∀ later ∈ pieces.tail.tails, later ≠ [] →
    StartsItem (sample.intercalate pieces) (sample ++ sample.intercalate later))
    (by simp only [OpenPlaces, List.mem_tails])

variable {e : Nat} {added more : List Text} {name w sample : Text} {s s' s₁ s₂ : State}

/-- Wherever parts can stand, the text `w` is read as parts of depth `e` at most and adds the names
`added`, or is refused because they are given already. -/
structure Fills (e : Nat) (added : List Text) (w : Text) : Prop where
  /-- Items before it do not go on with it. -/
  glance_eq : ∀ rest, glance (w ++ rest) = .other
  /-- Where several parts are put after a state, it can be read after a state that is alike. -/
  steps : ∀ (more : List Text) (s s' : State) (parts : List Part) (rest : Text), 2 ≤ parts.length →
    State.Alike e more s s' →
      (∃ s₁', Steps s' (w ++ rest) s₁' rest ∧
        State.Alike e (added ++ more) (s.pushParts parts) s₁') ∨
        (Refused s' (w ++ rest) ∧ ¬ (added ++ more ++ s.groupNames).Nodup)

/-- Escaped texts do not start with a question mark or a brace. -/
lemma glance_escape {t : Text} (ht : t ≠ []) (rest : Text) :
    glance (escape t ++ rest) = .other := by
  obtain ⟨c, t, rfl⟩ := List.exists_cons_of_ne_nil ht
  by_cases hc : isMeta c = true
  · have hescape : escape (c :: t) ++ rest = '\\' :: c :: (escape t ++ rest) := by simp [escape, hc]
    rw [hescape]
    rfl
  · have hescape : escape (c :: t) ++ rest = c :: (escape t ++ rest) := by simp [escape, hc]
    have hquestion : c ≠ '?' := fun h => hc (h ▸ rfl)
    have hbrace : c ≠ '{' := fun h => hc (h ▸ rfl)
    rw [hescape]
    unfold glance
    split <;> simp_all

/-- **An escaped text fills places.** -/
lemma fills_escape (hne : name ≠ []) : Fills e [] (escape name) := by
  refine ⟨glance_escape hne, fun more s s' parts rest hparts h => .inl ?_⟩
  exact ⟨_, steps_escape name s' rest, h.pushParts hparts (by simpa using hne) (by simp)⟩

/-! ## Filled templates -/

/-- The names that a text adds in several places. -/
def namesIn (places : Nat) (added : List Text) : List Text :=
  (List.replicate places added).flatten

/-- One more place adds the names once more. -/
lemma namesIn_succ_append (places : Nat) (added more : List Text) :
    namesIn (places + 1) added ++ more = namesIn places added ++ (added ++ more) := by
  simp [namesIn, List.replicate_succ']

/-- A template with the text in its places ends as its later pieces do. -/
lemma suffix_intercalate {later pieces : List Text} (h : later <:+ pieces)
    (hne : later ≠ []) (p : Text) :
    w ++ w.intercalate later <:+ w.intercalate (p :: pieces) := by
  induction pieces generalizing p with
  | nil => exact absurd (List.suffix_nil.mp h) hne
  | cons q pieces ih =>
    rw [List.intercalate_cons_of_ne_nil (by simp)]
    rcases List.suffix_cons_iff.mp h with rfl | h
    · exact (List.suffix_append p _).trans (by simp)
    · exact (ih h q).trans (List.suffix_append _ _)

/-- A piece of a template and the place behind it are read alike with both texts in the place. -/
lemma Fills.piece (hw : Fills e added w) (hsample : 2 ≤ name.length) {p rest rest' : Text}
    (hpiece : Steps s (p ++ (escape name ++ rest)) s₁ (escape name ++ rest))
    (h : State.Alike e more s s') :
    (∃ s₁', Steps s' (p ++ (w ++ rest')) s₁' rest' ∧
      State.Alike e (added ++ more) (s₁.pushText name) s₁') ∨
      (Refused s' (p ++ (w ++ rest')) ∧ ¬ (added ++ more ++ s₁.groupNames).Nodup) := by
  have hne : name ≠ [] := List.ne_nil_of_length_pos (by omega)
  have hglance : glance (w ++ rest') = glance (escape name ++ rest) := by
    rw [hw.glance_eq, glance_escape hne]
  rcases hpiece.alike rfl hglance h with ⟨s₁', hpiece', h₁⟩ | ⟨hrefused, hnodup⟩
  · have hparts : 2 ≤ (name.map fun c => Part.mk (s₁.flags.literal c) 0).length := by
      simpa using hsample
    rcases hw.steps more s₁ s₁' _ rest' hparts h₁ with ⟨s₂', hplace, h₂⟩ | ⟨hrefused, hnodup⟩
    · exact .inl ⟨s₂', hpiece'.trans hplace, h₂⟩
    · exact .inr ⟨hrefused.of_steps hpiece', hnodup⟩
  · refine .inr ⟨hrefused, fun hall => hnodup (hall.sublist ?_)⟩
    exact (List.sublist_append_right added more).append_right _

/-- **A template is read alike with both texts in its places**, or gives a name twice.

**Proof sketch.** By induction on its pieces. A piece is read alike up to its place; there the
sample is read as its characters, and the other text as parts that may stand for them. Both readings
then stand before the next piece. -/
lemma Fills.run (hw : Fills e added w) (hsample : 2 ≤ name.length) {pieces : List Text}
    (hne : pieces ≠ []) (hopen : ∀ later, later <:+ pieces.tail → later ≠ [] →
      ∃ s₁, Steps s ((escape name).intercalate pieces) s₁
        (escape name ++ (escape name).intercalate later))
    (hend : Steps s ((escape name).intercalate pieces) s₂ []) (h : State.Alike e more s s') :
    (∃ s₂', Steps s' (w.intercalate pieces) s₂' [] ∧
        State.Alike e (namesIn (pieces.length - 1) added ++ more) s₂ s₂') ∨
      (Refused s' (w.intercalate pieces) ∧
        ¬ (namesIn (pieces.length - 1) added ++ more ++ s₂.groupNames).Nodup) := by
  induction pieces generalizing s s' more with
  | nil => exact absurd rfl hne
  | cons p pieces ih =>
    cases pieces with
    | nil =>
      rw [List.intercalate_singleton] at hend ⊢
      have hpiece := hend.alike (List.append_nil p).symm (Eq.refl (glance [])) h
      simpa [namesIn] using hpiece
    | cons q pieces =>
      have hsplit : ∀ x : Text, x.intercalate (p :: q :: pieces) =
          p ++ (x ++ x.intercalate (q :: pieces)) := by
        intro x
        rw [List.intercalate_cons_of_ne_nil (by simp), List.append_assoc]
      have hnames : namesIn ((p :: q :: pieces).length - 1) added ++ more =
          namesIn ((q :: pieces).length - 1) added ++ (added ++ more) :=
        namesIn_succ_append pieces.length added more
      obtain ⟨s₁, hpiece⟩ := hopen (q :: pieces) (List.suffix_refl _) (by simp)
      have hbefore : Steps s _ (s₁.pushText name) ((escape name).intercalate (q :: pieces)) :=
        hpiece.trans (steps_escape name s₁ _)
      have hbehind := hbefore.resume hend (Nat.zero_le _)
      rw [hsplit] at hpiece
      rw [hnames, hsplit]
      rcases hw.piece hsample hpiece h with ⟨s₁', hpiece', h₁⟩ | ⟨hrefused, hnodup⟩
      · have hopen' : ∀ later, later <:+ pieces → later ≠ [] → ∃ s₃,
            Steps (s₁.pushText name) ((escape name).intercalate (q :: pieces)) s₃
              (escape name ++ (escape name).intercalate later) := by
          intro later hsuffix hne
          obtain ⟨s₃, hsteps⟩ := hopen later (hsuffix.trans (List.suffix_cons q pieces)) hne
          exact ⟨s₃, hbefore.resume hsteps (suffix_intercalate hsuffix hne q).length_le⟩
        rcases ih (by simp) hopen' hbehind h₁ with ⟨s₂', hend', h₂⟩ | ⟨hrefused, hnodup⟩
        · exact .inl ⟨s₂', hpiece'.trans hend', h₂⟩
        · exact .inr ⟨hrefused.of_steps hpiece', hnodup⟩
      · refine .inr ⟨hrefused, fun hall => hnodup (hall.sublist ?_)⟩
        have hlater := (hpiece.resume (hsplit _ ▸ hend) (Nat.zero_le _)).groupNames_suffix.sublist
        exact (List.sublist_append_right _ _).append hlater

/-- Two readings of one text start alike. -/
lemma State.Alike.start : State.Alike e [] State.start State.start :=
  ⟨rfl, Level.Alike.fresh none none {}, .nil, .rfl, List.nodup_nil⟩

/-- The name of the group that stands for any name. -/
def anyName : Text :=
  "name".toList

/-- What stands for any name: a group that remembers it. -/
def nameGroup : Text :=
  "(?P<name>[A-Za-z_]\\w*)".toList

/-- The characters of a name are read as two parts. -/
lemma steps_nameCharacters (s : State) (rest : Text) :
    ∃ p q : Part, p.depth = 2 ∧ q.depth = 1 ∧
      Steps s ('[' :: 'A' :: '-' :: 'Z' :: 'a' :: '-' :: 'z' :: '_' :: ']' :: '\\' :: 'w' ::
        '*' :: ')' :: rest)
        (s.pushParts [p, q]) (')' :: rest) := by
  obtain ⟨part, hdepth, hread⟩ : ∃ part, part.depth = 2 ∧ readToken s.flags '['
      ('A' :: '-' :: 'Z' :: 'a' :: '-' :: 'z' :: '_' :: ']' :: '\\' :: 'w' :: '*' :: ')' :: rest) =
        .ok (.part part, '\\' :: 'w' :: '*' :: ')' :: rest) := ⟨_, rfl, rfl⟩
  refine ⟨part, ⟨.repeated (.char .word) 0 none (true != s.flags.swapGreed), 1⟩, hdepth, rfl, ?_⟩
  refine .step (State.next_eq_ok_iff.mpr ⟨_, hread, rfl⟩) (.step rfl (.step rfl (.refl _ _)))

/-- What is taken of the group that stands for any name first. -/
lemma readToken_nameGroup (flags : Flags) (rest : Text) :
    ∃ t, nameGroup ++ rest = '(' :: t ∧
      readToken flags '(' t =
        .ok (.opening (.capture (some anyName)),
          '[' :: 'A' :: '-' :: 'Z' :: 'a' :: '-' :: 'z' :: '_' :: ']' :: '\\' :: 'w' :: '*' ::
            ')' :: rest) := by
  have hgroup : nameGroup = ['(', '?', 'P', '<', 'n', 'a', 'm', 'e', '>', '[', 'A', '-',
      'Z', 'a', '-', 'z', '_', ']', '\\', 'w', '*', ')'] := by decide
  have hname : anyName = ['n', 'a', 'm', 'e'] := by decide
  rw [hgroup, hname]
  exact ⟨_, rfl, rfl⟩

/-- The group that stands for any name is read as one part, which is four deep. -/
lemma steps_nameGroup (hname : anyName ∉ s.groupNames) (rest : Text) :
    ∃ g : Part, g.depth = 4 ∧ Steps s (nameGroup ++ rest)
      (State.pushParts
        { s with names := (anyName, s.nextGroup) :: s.names, nextGroup := s.nextGroup + 1 } [g])
      rest := by
  obtain ⟨t, heq, hread⟩ := readToken_nameGroup s.flags rest
  have hnew : ¬ (s.names.lookup anyName).isSome = true := fun h => hname (isSome_lookup_iff.mp h)
  have hopen := State.next_eq_ok_iff.mpr ⟨_, hread, if_neg hnew⟩
  obtain ⟨p, q, hp, hq, hinner⟩ :=
    steps_nameCharacters { s.openGroup (some s.nextGroup) s.flags with
    nextGroup := s.nextGroup + 1
    names := (anyName, s.nextGroup) :: s.names } rest
  rw [heq]
  refine ⟨_, ?_, (Steps.step hopen hinner).trans (.single rfl)⟩
  simp [Level.group, Level.choice, Level.branch, State.pushParts_eq, State.openGroup,
    Item.depth, listDepth, hp, hq]

/-- **The group that stands for any name fills places**, unless a group has its name already.

**Proof sketch.** The group is read as a whole. It adds its name to the names of the groups if none
has it, and otherwise it is refused for that reason. -/
lemma fills_nameGroup : Fills 4 [anyName] nameGroup := by
  refine ⟨fun rest => ?_, fun more s s' parts rest hparts h => ?_⟩
  · obtain ⟨t, heq, -⟩ := readToken_nameGroup {} rest
    rw [heq]
    rfl
  · by_cases hname : anyName ∈ s'.groupNames
    · obtain ⟨t, heq, hread⟩ := readToken_nameGroup s'.flags rest
      refine .inr ⟨?_, fun hnodup => ?_⟩
      · rw [heq]
        exact .of_next (State.next_eq_error hread (if_pos (isSome_lookup_iff.mpr hname)))
      · exact (List.nodup_cons.mp hnodup).1 (h.names.mem_iff.mp hname)
    · obtain ⟨g, hg, hsteps⟩ := steps_nameGroup hname rest
      refine .inl ⟨_, hsteps, (h.addName hname _ _).pushParts hparts (by simp) ?_⟩
      simp [hg]

/-! ## Reading filled templates -/

/-- **A template that is a pattern with the sample in its places** can be read with another text in
its places, if all names of groups are different then; else it is refused because they are not.

**Proof sketch.** Reading the template with the sample goes step by step, and the other text takes
the place of the sample in it. So it is read to the end and finishes alike, or it stops at a name
that two groups have. -/
lemma Fills.readFrom (hw : Fills e added w) (hsample : 2 ≤ name.length) {pieces : List Text}
    (hne : pieces ≠ []) (hopen : OpenPlaces (escape name) pieces) {p : Pattern}
    (hread : read ((escape name).intercalate pieces) = .ok p) :
    ((namesIn (pieces.length - 1) added ++ p.names.map Prod.fst).Nodup ∧ ∃ part names,
        Pattern.readFrom (w.intercalate pieces).length State.start (w.intercalate pieces) =
          .ok (part, names) ∧
          part.depth ≤ depthLimit + e) ∨
      (¬ (namesIn (pieces.length - 1) added ++ p.names.map Prod.fst).Nodup ∧
        read (w.intercalate pieces) = .error .repeatedGroupName) := by
  unfold read at hread
  split at hread
  · next part names hfrom =>
    split_ifs at hread with hdeep hlarge
    obtain rfl := Except.ok.inj hread
    obtain ⟨s₂, hend, hfinish⟩ := exists_steps_of_readFrom hfrom
    obtain rfl := names_of_finish hfinish
    rcases hw.run hsample hne hopen hend State.Alike.start with
        ⟨s₂', hend', h₂⟩ | ⟨hrefused, hnodup⟩
    · obtain ⟨part', hfinish', hdepth⟩ := h₂.finish hfinish
      have hnodup := h₂.nodup_append
      rw [List.append_nil] at hnodup
      refine .inl ⟨hnodup, part', s₂'.names, ?_, by omega⟩
      rw [hend'.readsTo.readFrom_eq (Nat.le_refl _), hfinish']
    · rw [List.append_nil] at hnodup
      refine .inr ⟨hnodup, ?_⟩
      rw [read, hrefused _ (Nat.le_refl _)]
  · cases hread

/-- A text that can be read to its end is a pattern, unless it is too large or nested too deeply. -/
lemma read_of_readFrom {t : Text} {part : Part} {names : List (Text × Nat)}
    (h : Pattern.readFrom t.length State.start t = .ok (part, names)) :
    (∃ p, read t = .ok p) ∨ read t = .error .tooLarge ∨
      (read t = .error .tooDeep ∧ depthLimit < part.depth) := by
  unfold read
  rw [h]
  dsimp only
  split_ifs with hdeep hlarge
  · exact .inr (.inr ⟨rfl, hdeep⟩)
  · exact .inr (.inl rfl)
  · exact .inl ⟨_, rfl⟩

section

variable {pieces : List Text} {p : Pattern}

/-- The names of the groups of a template are all different. -/
lemma nodup_names (hsample : 2 ≤ sample.length) (hne : pieces ≠ [])
    (hopen : OpenPlaces (escape sample) pieces)
    (hread : read ((escape sample).intercalate pieces) = .ok p) : (p.names.map Prod.fst).Nodup := by
  have hfills : Fills 0 [] (escape sample) := fills_escape (List.ne_nil_of_length_pos (by omega))
  rcases hfills.readFrom hsample hne hopen hread with ⟨hnodup, -⟩ | ⟨-, hrefused⟩
  · simpa [namesIn] using hnodup
  · rw [hread] at hrefused
    cases hrefused

/-- **With a name in its places** a template that is a pattern with the sample there is one too,
unless it is too large then. -/
lemma read_name (hsample : 2 ≤ sample.length) (hne : pieces ≠ [])
    (hopen : OpenPlaces (escape sample) pieces)
    (hread : read ((escape sample).intercalate pieces) = .ok p) (hname : name ≠ []) :
    (∃ q, read ((escape name).intercalate pieces) = .ok q) ∨
      read ((escape name).intercalate pieces) = .error .tooLarge := by
  have hfills : Fills 0 [] (escape name) := fills_escape hname
  rcases hfills.readFrom hsample hne hopen hread with ⟨-, part, names, hfrom, hdepth⟩ | ⟨hnodup, -⟩
  · rcases read_of_readFrom hfrom with hok | hlarge | ⟨-, hdeep⟩
    · exact .inl hok
    · exact .inr hlarge
    · omega
  · exact absurd (by simpa [namesIn] using nodup_names hsample hne hopen hread) hnodup

/-- Names that are different stay so with others in front of them iff none of those is given twice
then. -/
lemma nodup_namesIn_append_iff {names : List Text} (hnames : names.Nodup)
    (places : Nat) (a : Text) :
    (namesIn places [a] ++ names).Nodup ↔ places + names.count a ≤ 1 := by
  have hreplicate : namesIn places [a] = List.replicate places a := by simp [namesIn]
  rw [hreplicate, List.nodup_iff_count_le_one]
  constructor
  · intro h
    simpa using h a
  · intro h b
    by_cases hb : b = a
    · subst hb
      simpa using h
    · have hcount := List.nodup_iff_count_le_one.mp hnames b
      simpa [List.count_replicate, Ne.symm hb] using hcount

/-- **With the group for any name in its places** a template that is a pattern with the sample there
is refused if that gives the name of the group twice; else it is one too, unless it is too large or
nested too deeply.

**Proof sketch.** This is `Fills.readFrom` for the group. The name of the group comes once for each
place, and the names of the template are all different, so names are repeated iff this name is. -/
lemma read_nameGroup (hsample : 2 ≤ sample.length) (hne : pieces ≠ [])
    (hopen : OpenPlaces (escape sample) pieces)
    (hread : read ((escape sample).intercalate pieces) = .ok p) :
    (pieces.length - 1 + (p.names.map Prod.fst).count anyName ≤ 1 ∧
        ((∃ q, read (nameGroup.intercalate pieces) = .ok q) ∨
          read (nameGroup.intercalate pieces) = .error .tooLarge ∨
          read (nameGroup.intercalate pieces) = .error .tooDeep)) ∨
      (2 ≤ pieces.length - 1 + (p.names.map Prod.fst).count anyName ∧
        read (nameGroup.intercalate pieces) = .error .repeatedGroupName) := by
  have hnames :=
    nodup_namesIn_append_iff (nodup_names hsample hne hopen hread) (pieces.length - 1) anyName
  rcases fills_nameGroup.readFrom hsample hne hopen hread with
    ⟨hnodup, part, names, hfrom, -⟩ | ⟨hnodup, hrefused⟩
  · refine .inl ⟨hnames.mp hnodup, ?_⟩
    exact (read_of_readFrom hfrom).imp_right (Or.imp_right And.left)
  · exact .inr ⟨by have := mt hnames.mpr hnodup; omega, hrefused⟩

end

end Pattern

end Gloss
