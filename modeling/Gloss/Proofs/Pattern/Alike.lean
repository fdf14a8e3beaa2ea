import Mathlib.Data.List.Forall2
import Gloss.Proofs.Pattern.Steps

/-!
# Patterns that are read alike

Two patterns that differ in a few places only are read step by step alike, as long as an item starts
at each place. What has been read differs then in what it means, in some names of groups and in how
deeply it is nested, but the same groups are open, the same flags hold and there is something to
repeat in both or in neither.

## Main definitions

* `Pattern.DepthsAlike`, `Pattern.Level.Alike`, `Pattern.State.Alike`: the second of two lists,
  levels and states is nested at most so much deeper, and has some more names.
* `Pattern.Refused`: a text is refused because it gives a name twice.

## Main results

* `Pattern.State.Alike.apply`: an item leads from states that are alike to states that are alike,
  unless it gives a name that only the second has.
* `Pattern.Steps.alike`: so do several.
-/

set_option relaxedAutoImplicit false
set_option autoImplicit false

namespace Gloss

namespace Pattern

/-! ## Depths -/

/-- The second list of depths is at most `e` deeper than the first, and as a list no deeper
otherwise. -/
structure DepthsAlike (e : Nat) (ds ds' : List Nat) : Prop where
  /-- Every depth of the second is at most `e` more than one of the first. -/
  deep : ∀ d' ∈ ds', ∃ d ∈ ds, d' ≤ d + e
  /-- The second is a list of several only if the first is. -/
  several : 2 ≤ ds'.length → 2 ≤ ds.length

variable {e : Nat} {ds ds' : List Nat}

/-- The maximum along a list is at least its start and all elements. -/
lemma le_foldl_max (ds : List Nat) (start : Nat) :
    start ≤ ds.foldl max start ∧ ∀ d ∈ ds, d ≤ ds.foldl max start := by
  induction ds generalizing start with
  | nil => simp
  | cons d ds ih =>
    obtain ⟨hstart, hds⟩ := ih (max start d)
    refine ⟨Nat.le_trans (Nat.le_max_left start d) hstart, fun d' hd' => ?_⟩
    rcases List.mem_cons.mp hd' with rfl | hd'
    · exact Nat.le_trans (Nat.le_max_right start d') hstart
    · exact hds d' hd'

/-- A list of several is nested once more than each of them. -/
lemma lt_listDepth {d : Nat} (hd : d ∈ ds) (hlength : 2 ≤ ds.length) : d < listDepth ds := by
  unfold listDepth
  split
  · cases hd
  · simp at hlength
  · exact Nat.lt_succ_of_le ((le_foldl_max ds 0).2 d hd)

/-- No depth of a list is greater than that of the list. -/
lemma le_listDepth {d : Nat} (hd : d ∈ ds) : d ≤ listDepth ds := by
  by_cases hlength : 2 ≤ ds.length
  · exact Nat.le_of_lt (lt_listDepth hd hlength)
  · obtain ⟨d', rfl⟩ : ∃ d', ds = [d'] := by
      refine List.length_eq_one_iff.mp ?_
      have hpos := List.length_pos_of_mem hd
      omega
    obtain rfl := List.mem_singleton.mp hd
    exact Nat.le_refl d

/-- Alike lists of depths have depths that differ by no more than their elements. -/
lemma DepthsAlike.listDepth_le (h : DepthsAlike e ds ds') : listDepth ds' ≤ listDepth ds + e := by
  by_cases hlength : 2 ≤ ds'.length
  · have hdeep : ∀ d' ∈ ds', d' ≤ listDepth ds - 1 + e := by
      intro d' hd'
      obtain ⟨d, hd, hle⟩ := h.deep d' hd'
      have hlt := lt_listDepth hd (h.several hlength)
      omega
    have hpos : 1 ≤ listDepth ds := by
      obtain ⟨d', hd'⟩ := List.exists_mem_of_length_pos (Nat.lt_of_lt_of_le Nat.two_pos hlength)
      obtain ⟨d, hd, -⟩ := h.deep d' hd'
      exact Nat.lt_of_le_of_lt (Nat.zero_le d) (lt_listDepth hd (h.several hlength))
    have hle := Pattern.listDepth_le hdeep
    omega
  · cases ds' with
    | nil => exact Nat.zero_le _
    | cons d' ds' =>
      obtain rfl : ds' = [] := by
        rw [List.length_cons] at hlength
        exact List.eq_nil_of_length_eq_zero (by omega)
      obtain ⟨d, hd, hle⟩ := h.deep d' (by simp)
      exact Nat.le_trans hle (Nat.add_le_add_right (le_listDepth hd) e)

/-- Lists of depths that are at most `e` deeper one by one. -/
lemma DepthsAlike.of_forall₂ (h : List.Forall₂ (fun d d' => d' ≤ d + e) ds ds') :
    DepthsAlike e ds ds' := by
  refine ⟨?_, fun hlength => h.length_eq ▸ hlength⟩
  induction h with
  | nil => simp
  | cons hle _ ih =>
    intro d' hd'
    rcases List.mem_cons.mp hd' with rfl | hd'
    · exact ⟨_, by simp, hle⟩
    · obtain ⟨d, hd, hle⟩ := ih d' hd'
      exact ⟨d, by simp [hd], hle⟩

/-! ## Levels -/

/-- The items are of one kind, and the second is at most `e` deeper. -/
structure Item.Alike (e : Nat) (x y : Item) : Prop where
  kind : y = .flags ↔ x = .flags
  depth : y.depth ≤ x.depth + e

/-- The same flags hold behind the levels, there is something to repeat in both or in neither, and
the second is at most `e` deeper. -/
structure Level.Alike (e : Nat) (level level' : Level) : Prop where
  outerFlags : level'.outerFlags = level.outerFlags
  branches : List.Forall₂ (fun d d' => d' ≤ d + e) (level.branches.map Part.depth)
    (level'.branches.map Part.depth)
  top : Option.Rel (Item.Alike e) level.items.head? level'.items.head?
  items : DepthsAlike e (level.items.map Item.depth) (level'.items.map Item.depth)

variable {level level' : Level}

/-- Parts whose depths differ little are alike as items. -/
lemma Item.Alike.of_part {p p' : Part} (h : p'.depth ≤ p.depth + e) :
    Item.Alike e (.part p) (.part p') :=
  ⟨by simp, h⟩

/-- Levels that have just been opened. -/
lemma Level.Alike.fresh (index index' : Option Nat) (flags : Flags) :
    Level.Alike e { index := index, outerFlags := flags, branches := [], items := [] }
      { index := index', outerFlags := flags, branches := [], items := [] } :=
  ⟨rfl, .nil, .none, ⟨by simp, by simp⟩⟩

/-- One more item on both sides. -/
lemma Level.Alike.cons (h : Level.Alike e level level') {x y : Item} (hxy : Item.Alike e x y) :
    Level.Alike e { level with items := x :: level.items }
      { level' with items := y :: level'.items } := by
  refine ⟨h.outerFlags, h.branches, .some hxy, ⟨?_, ?_⟩⟩
  · intro d' hd'
    rcases List.mem_cons.mp hd' with rfl | hd'
    · exact ⟨x.depth, by simp, hxy.depth⟩
    · obtain ⟨d, hd, hle⟩ := h.items.deep d' hd'
      exact ⟨d, List.mem_cons_of_mem _ hd, hle⟩
  · have htop := h.top
    cases hitems : level.items <;> cases hitems' : level'.items <;> simp_all

/-- Levels stay alike when alike parts are pushed. -/
lemma Level.Alike.push (h : Level.Alike e level level') {p p' : Part}
    (hp : p'.depth ≤ p.depth + e) :
    Level.Alike e (level.push p) (level'.push p') :=
  h.cons (.of_part hp)

/-- The branches of alike levels have depths that differ little. -/
lemma Level.Alike.depth_branch (h : Level.Alike e level level') :
    level'.branch.depth ≤ level.branch.depth + e :=
  h.items.listDepth_le

/-- The choices of alike levels have depths that differ little. -/
lemma Level.Alike.depth_choice (h : Level.Alike e level level') :
    level'.choice.depth ≤ level.choice.depth + e := by
  have hall : List.Forall₂ (fun d d' => d' ≤ d + e)
      ((level.branch :: level.branches).map Part.depth)
      ((level'.branch :: level'.branches).map Part.depth) := .cons h.depth_branch h.branches
  unfold Level.choice
  simp only [List.map_reverse]
  exact (DepthsAlike.of_forall₂ (List.forall₂_reverse_iff.mpr hall)).listDepth_le

/-- Levels stay alike when their next branch is begun. -/
lemma Level.Alike.nextBranch (h : Level.Alike e level level') :
    Level.Alike e level.nextBranch level'.nextBranch := by
  refine ⟨h.outerFlags, .cons h.depth_branch h.branches, .none, ?_, ?_⟩
  all_goals simp [Level.nextBranch]

/-- There is something to repeat in both levels. -/
lemma Level.Alike.exists_top (h : Level.Alike e level level') {p : Part} {items : List Item}
    (hitems : level.items = .part p :: items) :
    ∃ p' items', level'.items = .part p' :: items' ∧ p'.depth ≤ p.depth + e := by
  have htop := h.top
  rw [hitems, List.head?_cons] at htop
  cases hitems' : level'.items with
  | nil =>
    rw [hitems'] at htop
    cases htop
  | cons y items' =>
    rw [hitems', List.head?_cons] at htop
    obtain ⟨hkind, hdepth⟩ : Item.Alike e (.part p) y := by
      cases htop
      assumption
    cases y with
    | flags => exact absurd (hkind.mp rfl) (by simp)
    | part p' => exact ⟨p', items', rfl, hdepth⟩

/-- The last part is replaced by one that is no less deep. -/
lemma Level.Alike.replaceTop (h : Level.Alike e level level') {p p' q q' : Part}
    {items items' : List Item} (hitems : level.items = .part p :: items)
    (hitems' : level'.items = .part p' :: items') (hpq : p.depth ≤ q.depth)
    (hq : q'.depth ≤ q.depth + e) :
    Level.Alike e { level with items := .part q :: items }
      { level' with items := .part q' :: items' } := by
  have hdepths := h.items
  rw [hitems, hitems', List.map_cons, List.map_cons] at hdepths
  refine ⟨h.outerFlags, h.branches, .some (.of_part hq), ?_, by simpa using hdepths.several⟩
  intro d' hd'
  rcases List.mem_cons.mp hd' with rfl | hd'
  · exact ⟨q.depth, List.mem_cons_self, hq⟩
  · obtain ⟨d, hd, hle⟩ := hdepths.deep d' (List.mem_cons_of_mem _ hd')
    rcases List.mem_cons.mp hd with rfl | hd
    · exact ⟨q.depth, List.mem_cons_self, Nat.le_trans hle (Nat.add_le_add_right hpq e)⟩
    · exact ⟨d, List.mem_cons_of_mem _ hd, hle⟩

/-! ## States -/

/-- The names of groups so far. -/
def State.groupNames (s : State) : List Text :=
  s.names.map Prod.fst

/-- The same flags hold and the same groups are open, the second state is at most `e` deeper, and it
has the names `added` besides those of the first, all of them once. -/
structure State.Alike (e : Nat) (added : List Text) (s s' : State) : Prop where
  flags : s'.flags = s.flags
  level : Level.Alike e s.level s'.level
  outer : List.Forall₂ (Level.Alike e) s.outer s'.outer
  names : s'.groupNames.Perm (added ++ s.groupNames)
  nodup : s'.groupNames.Nodup

variable {added : List Text} {s s' s₁ : State}

/-- A name leads to something iff it is one of the names. -/
lemma isSome_lookup_iff {names : List (Text × Nat)} {name : Text} :
    (names.lookup name).isSome = true ↔ name ∈ names.map Prod.fst := by
  simp

/-- No name of a group is used twice, those that were added included. -/
lemma State.Alike.nodup_append (h : State.Alike e added s s') : (added ++ s.groupNames).Nodup :=
  h.names.nodup_iff.mp h.nodup

/-- A group is opened in both states. -/
lemma State.Alike.openGroup (h : State.Alike e added s s') (index index' : Option Nat)
    {flags flags' : Flags} (hflags : flags' = flags) :
    State.Alike e added (s.openGroup index flags) (s'.openGroup index' flags') := by
  refine ⟨hflags, ?_, .cons h.level h.outer, h.names, h.nodup⟩
  simp only [State.openGroup, h.flags]
  exact Level.Alike.fresh index index' s.flags

/-- A name that only the second state has is given once more, or a group is opened in both. -/
lemma State.Alike.enter (h : State.Alike e added s s') {o : Opening} (hs : s.enter o = .ok s₁) :
    (∃ s₁', s'.enter o = .ok s₁' ∧ State.Alike e added s₁ s₁') ∨
      (s'.enter o = .error .repeatedGroupName ∧ ¬ (added ++ s₁.groupNames).Nodup) := by
  cases o with
  | flags flags =>
    obtain rfl := Except.ok.inj hs
    refine .inl ⟨_, rfl, rfl, ?_, h.outer, h.names, h.nodup⟩
    exact h.level.cons ⟨by simp, Nat.le_add_right _ _⟩
  | plain flags =>
    obtain rfl := Except.ok.inj hs
    exact .inl ⟨_, rfl, h.openGroup none none rfl⟩
  | capture name =>
    have hopen := h.openGroup (some s.nextGroup) (some s'.nextGroup) h.flags
    cases name with
    | none =>
      obtain rfl := Except.ok.inj hs
      exact .inl ⟨_, rfl, hopen.flags, hopen.level, hopen.outer, h.names, h.nodup⟩
    | some name =>
      simp only [State.enter, isSome_lookup_iff] at hs ⊢
      split_ifs at hs with hname
      obtain rfl := Except.ok.inj hs
      by_cases hname' : name ∈ s'.groupNames
      · refine .inr ⟨if_pos hname', fun hnodup => ?_⟩
        have hcons := List.nodup_cons.mp (List.nodup_middle.mp hnodup)
        exact hcons.1 (h.names.mem_iff.mp hname')
      · refine .inl ⟨_, if_neg hname', hopen.flags, hopen.level, hopen.outer, ?_, ?_⟩
        · exact (h.names.cons name).trans List.perm_middle.symm
        · exact List.nodup_cons.mpr ⟨hname', h.nodup⟩

/-- A group is closed in both states. -/
lemma State.Alike.leave (h : State.Alike e added s s') (hs : s.leave = .ok s₁) :
    ∃ s₁', s'.leave = .ok s₁' ∧ State.Alike e added s₁ s₁' := by
  unfold State.leave at hs
  split at hs
  · cases hs
  · next level outer houter =>
    obtain rfl := Except.ok.inj hs
    obtain ⟨level', outer', hlevel, houters, houter'⟩ :=
      List.forall₂_cons_left_iff.mp (houter ▸ h.outer)
    have hleave : s'.leave = .ok { s' with
        flags := s'.level.outerFlags
        level := level'.push s'.level.group
        outer := outer' } := by
      rw [State.leave, houter']
    have hgroup : s'.level.group.depth ≤ s.level.group.depth + e := by
      have hchoice := h.level.depth_choice
      simp only [Level.group]
      omega
    exact ⟨_, hleave, h.level.outerFlags, hlevel.push hgroup, houters, h.names, h.nodup⟩

/-- The last item is repeated in both states. -/
lemma State.Alike.repeatLast (h : State.Alike e added s s') {least : Nat}
    {most : Option Nat} {greedy : Bool} (hs : s.repeatLast least most greedy = .ok s₁) :
    ∃ s₁', s'.repeatLast least most greedy = .ok s₁' ∧ State.Alike e added s₁ s₁' := by
  unfold State.repeatLast at hs
  split at hs
  · next p items hitems =>
    obtain rfl := Except.ok.inj hs
    obtain ⟨p', items', hitems', hp⟩ := h.level.exists_top hitems
    have hrepeat : s'.repeatLast least most greedy = .ok { s' with level := { s'.level with
        items := .part { expr := p'.expr.repeated least most (greedy != s'.flags.swapGreed)
                         depth := p'.depth + 1 } :: items' } } := by
      rw [State.repeatLast, hitems']
    refine ⟨_, hrepeat, h.flags, ?_, h.outer, h.names, h.nodup⟩
    exact h.level.replaceTop hitems hitems' (Nat.le_succ _) (by dsimp only; omega)
  · cases hs

/-- An item leads from states that are alike to states that are alike, unless it gives a name that
only the second has. -/
lemma State.Alike.apply (h : State.Alike e added s s') {token : Token}
    (hs : s.apply token = .ok s₁) :
    (∃ s₁', s'.apply token = .ok s₁' ∧ State.Alike e added s₁ s₁') ∨
      (s'.apply token = .error .repeatedGroupName ∧ ¬ (added ++ s₁.groupNames).Nodup) := by
  cases token with
  | opening o => exact h.enter hs
  | closing => exact .inl (h.leave hs)
  | bar =>
    obtain rfl := Except.ok.inj hs
    exact .inl ⟨_, rfl, h.flags, h.level.nextBranch, h.outer, h.names, h.nodup⟩
  | part p =>
    obtain rfl := Except.ok.inj hs
    exact .inl ⟨_, rfl, h.flags, h.level.push (Nat.le_add_right _ _), h.outer, h.names, h.nodup⟩
  | repetition least most greedy => exact .inl (h.repeatLast hs)

/-- Other parts are put after both states: several after the first, and some that are not too deep
after the second. -/
lemma State.Alike.pushParts (h : State.Alike e added s s') {parts parts' : List Part}
    (hparts : 2 ≤ parts.length) (hne : parts' ≠ []) (hdepth : ∀ p ∈ parts', p.depth ≤ e) :
    State.Alike e added (s.pushParts parts) (s'.pushParts parts') := by
  have hfirst : parts ≠ [] := List.ne_nil_of_length_pos (by omega)
  obtain ⟨p, more, hp⟩ := List.exists_cons_of_ne_nil (List.reverse_ne_nil_iff.mpr hfirst)
  obtain ⟨p', more', hp'⟩ := List.exists_cons_of_ne_nil (List.reverse_ne_nil_iff.mpr hne)
  have hparts' : ∀ q ∈ p' :: more', q.depth ≤ e := by
    intro q hq
    exact hdepth q (List.mem_reverse.mp (hp' ▸ hq))
  rw [← List.length_reverse, hp] at hparts
  rw [State.pushParts_eq, State.pushParts_eq, ← List.map_reverse, ← List.map_reverse, hp, hp']
  refine ⟨h.flags, ⟨h.level.outerFlags, h.level.branches, ?_, ?_, fun _ => ?_⟩, h.outer,
    h.names, h.nodup⟩
  · exact .some (.of_part (Nat.le_trans (hparts' p' (by simp)) (Nat.le_add_left e _)))
  · intro d' hd'
    simp only [List.map_append, List.map_map, List.mem_append, List.mem_map] at hd' ⊢
    rcases hd' with ⟨q, hq, rfl⟩ | ⟨x, hx, rfl⟩
    · exact ⟨p.depth, .inl ⟨p, by simp, rfl⟩, Nat.le_trans (hparts' q hq) (Nat.le_add_left e _)⟩
    · obtain ⟨d, hd, hle⟩ := h.level.items.deep x.depth (List.mem_map_of_mem hx)
      exact ⟨d, .inr (List.mem_map.mp hd), hle⟩
  · simp only [List.length_cons, List.map_append, List.map_map, List.length_append,
      List.length_map] at hparts ⊢
    omega

/-- One more name in the second state. -/
lemma State.Alike.addName (h : State.Alike e added s s') {name : Text}
    (hname : name ∉ s'.groupNames) (index next : Nat) :
    State.Alike e (name :: added) s
      { s' with names := (name, index) :: s'.names, nextGroup := next } :=
  ⟨h.flags, h.level, h.outer, h.names.cons name, List.nodup_cons.mpr ⟨hname, h.nodup⟩⟩

/-- What has been read when the text is at its end has the names that have been given. -/
lemma names_of_finish {part : Part} {names : List (Text × Nat)} (h : s.finish = .ok (part, names)) :
    names = s.names := by
  unfold State.finish at h
  split at h
  · exact (Prod.mk.inj (Except.ok.inj h)).2.symm
  · cases h

/-- The end of the text comes in both states, and what has been read is at most `e` deeper in the
second. -/
lemma State.Alike.finish (h : State.Alike e added s s') {part : Part} {names : List (Text × Nat)}
    (hs : s.finish = .ok (part, names)) :
    ∃ part', s'.finish = .ok (part', s'.names) ∧ part'.depth ≤ part.depth + e := by
  unfold State.finish at hs
  split at hs
  · next houter =>
    obtain ⟨rfl, rfl⟩ := Prod.mk.inj (Except.ok.inj hs)
    have houter' : s'.outer = [] := List.forall₂_nil_left_iff.mp (houter ▸ h.outer)
    exact ⟨_, by rw [State.finish, houter'], h.level.depth_choice⟩
  · cases hs

/-! ## Steps -/

/-- Reading goes wrong because a name is given twice. -/
def Refused (s : State) (t : Text) : Prop :=
  ∀ bound, t.length ≤ bound → readFrom bound s t = .error .repeatedGroupName

/-- A text is refused if what is left after some steps is. -/
lemma Refused.of_steps {t t' : Text} (h : Refused s₁ t') (hsteps : Steps s t s₁ t') :
    Refused s t := by
  intro bound hbound
  obtain ⟨bound', hbound', heq⟩ := hsteps.readsTo bound hbound
  rw [heq, h bound' hbound']

/-- A text is refused if its next step repeats the name of a group. -/
lemma Refused.of_next {c : Char} {rest : Text} (h : s.next c rest = .error .repeatedGroupName) :
    Refused s (c :: rest) := by
  intro bound hbound
  cases bound with
  | zero => simp at hbound
  | succ bound => rw [readFrom, h]

/-- Names are not forgotten. -/
lemma groupNames_suffix_of_apply {token : Token} (h : s.apply token = .ok s₁) :
    s.groupNames <:+ s₁.groupNames := by
  cases token with
  | opening o =>
    simp only [State.apply, State.enter] at h
    split at h
    case h_4 =>
      split_ifs at h
      obtain rfl := Except.ok.inj h
      exact List.suffix_cons _ _
    all_goals
      obtain rfl := Except.ok.inj h
      exact List.suffix_refl _
  | closing =>
    simp only [State.apply, State.leave] at h
    split at h
    · cases h
    · obtain rfl := Except.ok.inj h
      exact List.suffix_refl _
  | repetition least most greedy =>
    simp only [State.apply, State.repeatLast] at h
    split at h
    · obtain rfl := Except.ok.inj h
      exact List.suffix_refl _
    · cases h
  | _ =>
    obtain rfl := Except.ok.inj h
    exact List.suffix_refl _

/-- Steps only put names of groups in front of those that are there. -/
lemma Steps.groupNames_suffix {t t' : Text} (h : Steps s t s₁ t') :
    s.groupNames <:+ s₁.groupNames := by
  induction h with
  | refl => exact List.suffix_refl _
  | step hnext _ ih =>
    obtain ⟨token, u, -, happly, -⟩ := exists_of_next hnext
    exact (groupNames_suffix_of_apply happly).trans ih

/-- Where texts go on alike, they do so behind what stands before them, unless that is a lone
brace. -/
lemma glance_append {r r' : Text} (h : glance r' = glance r) {u : Text} (hu : u ≠ ['{']) :
    glance (u ++ r') = glance (u ++ r) := by
  match u with
  | [] => exact h
  | [c] =>
    have hc : c ≠ '{' := by simpa using hu
    simp only [List.cons_append, List.nil_append]
    unfold glance
    split <;> split <;> simp_all
  | c :: d :: u =>
    simp only [List.cons_append]
    unfold glance
    split <;> split <;> simp_all

/-- A count takes something behind its brace. -/
lemma length_lt_of_next_brace {rest after : Text} (h : s.next '{' rest = .ok (s₁, after)) :
    after.length < rest.length := by
  obtain ⟨token, hread, -⟩ := State.next_eq_ok_iff.mp h
  obtain ⟨⟨⟨least, most⟩, more⟩, hbounds, heq⟩ := bind_eq_ok_iff.mp hread
  obtain ⟨u, rfl, htakes⟩ := takesFrom_readBounds hbounds
  obtain ⟨v, rfl, -⟩ := takesFrom_readRepetition (Except.ok.inj heq)
  have hu : u ≠ [] := by
    rintro rfl
    cases htakes [] trivial
  have hpos := List.length_pos_of_ne_nil hu
  simp only [List.length_append]
  omega

/-- **Texts that go on alike are read alike** up to there.

**Proof sketch.** Step by step: an item is taken in the same way from both texts, since it is
followed by the same characters or, at the end, by texts that go on alike. -/
lemma Steps.alike {t r r' u : Text} (hsteps : Steps s t s₁ r) (ht : t = u ++ r)
    (hglance : glance r' = glance r) (h : State.Alike e added s s') :
    (∃ s₁', Steps s' (u ++ r') s₁' r' ∧ State.Alike e added s₁ s₁') ∨
      (Refused s' (u ++ r') ∧ ¬ (added ++ s₁.groupNames).Nodup) := by
  induction hsteps generalizing s' u with
  | refl s r =>
    obtain rfl : u = [] := List.self_eq_append_left.mp ht
    exact .inl ⟨s', .refl s' r', h⟩
  | @step s s₂ s₁ c rest after r hnext hsteps ih =>
    obtain ⟨token, w, rfl, happly, htakes⟩ := exists_of_next hnext
    obtain ⟨v, rfl⟩ := hsteps.suffix
    obtain rfl : u = c :: (w ++ v) := by
      have hsplit : u ++ r = c :: (w ++ v) ++ r := by simpa using ht.symm
      exact List.append_cancel_right hsplit
    -- A lone brace would have taken something of what follows it.
    have hv : v ≠ ['{'] := by
      rintro rfl
      rw [List.singleton_append] at hsteps
      cases hsteps with
      | step hnext' hsteps' =>
        have hlt := length_lt_of_next_brace hnext'
        have hle := hsteps'.suffix.length_le
        omega
    have hread := htakes (v ++ r') (glance_append hglance hv)
    rw [← h.flags] at hread
    have hsplit : c :: (w ++ v) ++ r' = c :: (w ++ (v ++ r')) := by simp
    rw [hsplit]
    rcases h.apply happly with ⟨s₂', happly', h₂⟩ | ⟨hfault, hnodup⟩
    · have hnext' : s'.next c (w ++ (v ++ r')) = .ok (s₂', v ++ r') :=
        State.next_eq_ok_iff.mpr ⟨token, hread, happly'⟩
      rcases ih rfl hglance h₂ with ⟨s₁', hsteps', h₁⟩ | ⟨hrefused, hnodup⟩
      · exact .inl ⟨s₁', .step hnext' hsteps', h₁⟩
      · exact .inr ⟨hrefused.of_steps (.single hnext'), hnodup⟩
    · refine .inr ⟨.of_next (State.next_eq_error hread hfault),
        fun hlater => hnodup (hlater.sublist ?_)⟩
      exact hsteps.groupNames_suffix.sublist.append_left added

end Pattern

end Gloss
