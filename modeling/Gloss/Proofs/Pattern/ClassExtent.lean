import Gloss.Proofs.Pattern.Extent

/-!
# How far classes reach

A character class ends with its closing bracket. Before that bracket, its parts are read one by one,
and each looks at most as far as the next closing bracket, which belongs to the class still. So a
class is read in the same way whatever stands behind it.

## Main definitions

* `Pattern.SharesBracket`: two texts are the same up to a closing bracket.

## Main results

* `Pattern.takesFrom_readBracketed`: a class ends with its closing bracket.
-/

set_option relaxedAutoImplicit false
set_option autoImplicit false

namespace Gloss

namespace Pattern

open Text

variable {t after : Text}

/-- The texts are the same up to a closing bracket. -/
def SharesBracket (t t' : Text) : Prop :=
  ∃ v x x', t = v ++ ']' :: x ∧ t' = v ++ ']' :: x'

/-- Texts that share a bracket start alike. -/
lemma SharesBracket.head?_eq {t' : Text} (h : SharesBracket t t') : t'.head? = t.head? := by
  obtain ⟨v, x, x', rfl, rfl⟩ := h
  cases v <;> rfl

/-- Before the bracket, what stands behind the first character is the same too. -/
lemma SharesBracket.of_cons {c : Char} {t' : Text} (h : SharesBracket (c :: t) t') (hc : c ≠ ']') :
    ∃ rest, t' = c :: rest ∧ SharesBracket t rest := by
  obtain ⟨v, x, x', heq, rfl⟩ := h
  cases v with
  | nil => exact absurd (List.cons.inj heq).1 hc
  | cons d v =>
    obtain ⟨rfl, rfl⟩ := List.cons.inj heq
    exact ⟨v ++ ']' :: x', rfl, v, x, x', rfl, rfl⟩

/-- Texts with rests that start alike start alike. -/
lemma head?_append_congr {u rest rest' : Text} (h : rest'.head? = rest.head?) :
    (u ++ rest').head? = (u ++ rest).head? := by
  rw [List.head?_append, List.head?_append, h]

/-! ## Members -/

/-- A member ends with its last character. -/
lemma takesFrom_readMember {e : Escaped} (h : readMember t = .ok (e, after)) :
    ∃ c u, t = c :: u ++ after ∧
      ∀ rest, ((∃ a, e = .anchor a) → glance rest = glance after) →
        readMember (c :: u ++ rest) = .ok (e, rest) := by
  unfold readMember at h
  split at h
  · simp at h
  · next t =>
    obtain ⟨u, rfl, htakes⟩ := takesFrom_readEscape h
    exact ⟨'\\', u, rfl, fun rest hrest => htakes rest hrest⟩
  · next c t hescape =>
    obtain ⟨rfl, rfl⟩ : .char c = e ∧ t = after := by simpa using h
    refine ⟨c, [], rfl, fun rest _ => ?_⟩
    unfold readMember
    split <;> simp_all

/-- What stands for a set of characters is no anchor. -/
lemma ne_anchor_of_setOfMember {e : Escaped} {set : CharClass} (h : setOfMember e = .ok set) :
    ¬ ∃ a, e = .anchor a := by
  rintro ⟨a, rfl⟩
  cases h

/-- The ends of a range are no anchors. -/
lemma ne_anchor_of_rangeOfMembers {e e' : Escaped} {set : CharClass}
    (h : rangeOfMembers e e' = .ok set) :
    (¬ ∃ a, e = .anchor a) ∧ ¬ ∃ a, e' = .anchor a := by
  constructor
  · rintro ⟨a, rfl⟩
    cases h
  · rintro ⟨a, rfl⟩
    cases e <;> cases h

/-- A hyphen at the start of the text makes a range of what stands before and behind it. -/
def OpensRange (t : Text) : Prop :=
  ∃ more, t = '-' :: more ∧ more.head? ≠ some ']' ∧ more.head? ≠ some '-'

/-- A hyphen before a closing bracket or another hyphen opens no range. -/
lemma not_opensRange_of_head {c : Char} {more : Text} (hc : c = ']' ∨ c = '-') :
    ¬ OpensRange ('-' :: c :: more) := by
  rintro ⟨more', heq, hclose, hhyphen⟩
  obtain rfl : c :: more = more' := by simpa using heq
  rcases hc with rfl | rfl
  · exact hclose rfl
  · exact hhyphen rfl

/-- Any other hyphen opens a range. -/
lemma OpensRange.of_tail {more : Text} (hclose : ∀ x, more ≠ ']' :: x)
    (hhyphen : ∀ x, more ≠ '-' :: x) :
    OpensRange ('-' :: more) := by
  refine ⟨more, rfl, ?_, ?_⟩
  · intro h
    exact hclose _ (List.head?_eq_some_iff.mp h).choose_spec
  · intro h
    exact hhyphen _ (List.head?_eq_some_iff.mp h).choose_spec

/-- What is read as members of a class.

**Proof sketch.** After the first member comes a hyphen that opens a range, and then the last member
is read, or something else, and then the member stands alone. -/
lemma readMembers_eq_ok_iff {set : CharClass} :
    readMembers t = .ok (set, after) ↔ ∃ e rest, readMember t = .ok (e, rest) ∧ rest ≠ [] ∧
      ((¬ OpensRange rest ∧ setOfMember e = .ok set ∧ rest = after) ∨
        (OpensRange rest ∧ ∃ e', readMember rest.tail = .ok (e', after) ∧
          rangeOfMembers e e' = .ok set)) := by
  have hsingle : ∀ {e : Escaped} {rest : Text}, (do return (← setOfMember e, rest)) =
      Except.ok (set, after) ↔
      setOfMember e = .ok set ∧ rest = after := by
    intro e rest
    rw [bind_eq_ok_iff]
    simp [pure, Except.pure]
  unfold readMembers
  rw [bind_eq_ok_iff]
  constructor
  · rintro ⟨⟨e, rest⟩, hread, h⟩
    refine ⟨e, rest, hread, ?_⟩
    dsimp only at h
    split at h
    · simp at h
    · exact ⟨by simp, .inl ⟨not_opensRange_of_head (.inl rfl), hsingle.mp h⟩⟩
    · exact ⟨by simp, .inl ⟨not_opensRange_of_head (.inr rfl), hsingle.mp h⟩⟩
    · next more hclose hhyphen =>
      obtain ⟨⟨e', behind⟩, hlast, h⟩ := bind_eq_ok_iff.mp h
      obtain ⟨range, hrange, heq⟩ := bind_eq_ok_iff.mp h
      obtain ⟨rfl, rfl⟩ : range = set ∧ behind = after := by simpa [pure, Except.pure] using heq
      exact ⟨by simp, .inr ⟨OpensRange.of_tail hclose hhyphen, e', hlast, hrange⟩⟩
    · next hne _ _ hhyphen =>
      refine ⟨hne, .inl ⟨?_, hsingle.mp h⟩⟩
      rintro ⟨more, rfl, -⟩
      exact hhyphen more rfl
  · rintro ⟨e, rest, hread, hne, h⟩
    refine ⟨_, hread, ?_⟩
    dsimp only
    split
    · exact absurd rfl hne
    · rcases h with ⟨-, h⟩ | ⟨hrange, -⟩
      · exact hsingle.mpr h
      · exact absurd hrange (not_opensRange_of_head (.inl rfl))
    · rcases h with ⟨-, h⟩ | ⟨hrange, -⟩
      · exact hsingle.mpr h
      · exact absurd hrange (not_opensRange_of_head (.inr rfl))
    · next more hclose hhyphen =>
      rcases h with ⟨hrange, -⟩ | ⟨-, e', hlast, hset⟩
      · exact absurd (OpensRange.of_tail hclose hhyphen) hrange
      · exact bind_eq_ok_iff.mpr ⟨_, hlast, bind_eq_ok_iff.mpr ⟨_, hset, rfl⟩⟩
    · next hhyphen =>
      rcases h with ⟨-, h⟩ | ⟨⟨more, rfl, -⟩, -⟩
      · exact hsingle.mpr h
      · exact absurd rfl (hhyphen more)

/-- If one of two texts that share a bracket opens no range, the other opens none. -/
lemma SharesBracket.not_opensRange {t' : Text} (h : SharesBracket t t') (hrange : ¬ OpensRange t) :
    ¬ OpensRange t' := by
  rintro ⟨more, rfl, hclose, hhyphen⟩
  refine hrange ?_
  obtain ⟨v, x, x', rfl, heq⟩ := h
  cases v with
  | nil => simp at heq
  | cons c v =>
    obtain ⟨rfl, rfl⟩ := List.cons.inj heq
    refine ⟨v ++ ']' :: x, rfl, ?_⟩
    cases v <;> simp_all

/-- Members of a class do not look further than the next closing bracket. -/
lemma takesFrom_readMembers {set : CharClass} (h : readMembers t = .ok (set, after)) :
    ∃ c u, t = c :: u ++ after ∧
      ∀ rest, SharesBracket after rest → readMembers (c :: u ++ rest) = .ok (set, rest) := by
  obtain ⟨e, behind, hread, hne, ⟨hrange, hset, rfl⟩ | ⟨hrange, e', hlast, hset⟩⟩ :=
    readMembers_eq_ok_iff.mp h
  · obtain ⟨c, u, rfl, htakes⟩ := takesFrom_readMember hread
    refine ⟨c, u, rfl, fun rest hrest => readMembers_eq_ok_iff.mpr ⟨e, rest, ?_, ?_, ?_⟩⟩
    · exact htakes rest fun ha => absurd ha (ne_anchor_of_setOfMember hset)
    · obtain ⟨v, x, x', -, rfl⟩ := hrest
      simp
    · exact .inl ⟨hrest.not_opensRange hrange, hset, rfl⟩
  · obtain ⟨hfirst, hsecond⟩ := ne_anchor_of_rangeOfMembers hset
    obtain ⟨c, u, rfl, htakes⟩ := takesFrom_readMember hread
    obtain ⟨more, rfl, hclose, hhyphen⟩ := hrange
    obtain ⟨d, u', rfl, htakes'⟩ := takesFrom_readMember hlast
    refine ⟨c, u ++ '-' :: d :: u', by simp, fun rest _ => ?_⟩
    have hsplit : c :: (u ++ '-' :: d :: u') ++ rest = c :: u ++ '-' :: (d :: u' ++ rest) := by simp
    rw [hsplit]
    refine readMembers_eq_ok_iff.mpr ⟨e, '-' :: (d :: u' ++ rest), ?_, by simp,
      .inr ⟨?_, e', ?_, hset⟩⟩
    · exact htakes _ fun ha => absurd ha hfirst
    · exact ⟨d :: u' ++ rest, rfl, hclose, hhyphen⟩
    · exact htakes' rest fun ha => absurd ha hsecond

/-! ## Named classes and openings -/

/-- The names of classes consist of letters. -/
lemma isAsciiLetter_of_namedClass? {name : Text} {set : CharClass}
    (h : namedClass? name = some set) :
    ∀ c ∈ name, isAsciiLetter c = true := by
  obtain ⟨entry, hentry, heq⟩ := List.exists_of_findSome?_eq_some h
  split_ifs at heq with hname
  subst hname
  refine List.all_eq_true.mp ?_
  simp only [List.mem_cons, List.not_mem_nil, or_false] at hentry
  rcases hentry with
      rfl | rfl | rfl | rfl | rfl | rfl | rfl | rfl | rfl | rfl | rfl | rfl | rfl | rfl
  all_goals decide

section Named

variable {name : Text} {set : CharClass}

/-- The name of a class has letters only. -/
lemma not_mem_of_namedClass? (h : namedClass? name = some set) {c : Char}
    (hc : isAsciiLetter c = false) :
    c ∉ name := by
  intro hmem
  rw [isAsciiLetter_of_namedClass? h c hmem] at hc
  cases hc

/-- The name of a class has no colon. -/
lemma run_of_namedClass? (h : namedClass? name = some set) : ∀ c ∈ name, (c != ':') = true := by
  intro c hc
  simpa using ne_of_mem_of_not_mem hc (not_mem_of_namedClass? h (by decide))

/-- A named class, whatever stands behind its bracket. -/
lemma readNamedClass?_append (h : namedClass? name = some set) (rest : Text) :
    readNamedClass? (name ++ ':' :: ']' :: rest) = some (set, rest) := by
  have hrun := run_of_namedClass? h
  have hstop : ∀ c ∈ (':' :: ']' :: rest).head?, (c != ':') = false := by simp
  unfold readNamedClass?
  split
  next negated t heq =>
  split at heq
  · next caret =>
    -- A name does not start with a caret.
    cases name with
    | nil => simp at caret
    | cons c name =>
      obtain ⟨rfl, -⟩ := List.cons.inj caret
      exact absurd List.mem_cons_self (not_mem_of_namedClass? h (by decide))
  · obtain ⟨rfl, rfl⟩ : false = negated ∧ name ++ ':' :: ']' :: rest = t := by simpa using heq
    rw [dropWhile_run hrun hstop, takeWhile_run hrun hstop, h]
    rfl

/-- A caret before the name of a class stands for its complement. -/
lemma readNamedClass?_caret_append (h : namedClass? name = some set) (rest : Text) :
    readNamedClass? ('^' :: (name ++ ':' :: ']' :: rest)) = some (.compl set, rest) := by
  have hrun := run_of_namedClass? h
  have hstop : ∀ c ∈ (':' :: ']' :: rest).head?, (c != ':') = false := by simp
  simp only [readNamedClass?, dropWhile_run hrun hstop, takeWhile_run hrun hstop, h]
  rfl

end Named

/-- A named class ends with the first closing bracket. -/
lemma takesFrom_readNamedClass? {set : CharClass} (h : readNamedClass? t = some (set, after)) :
    ∃ u, t = u ++ ']' :: after ∧ ']' ∉ u ∧ ∀ rest,
      readNamedClass? (u ++ ']' :: rest) = some (set, rest) := by
  unfold readNamedClass? at h
  split at h
  next negated t' hcaret =>
  obtain ⟨name, stop, rfl, hrun, hstop⟩ := exists_run (· != ':') t'
  rw [dropWhile_run hrun hstop, takeWhile_run hrun hstop] at h
  split at h
  · next behind =>
    obtain ⟨named, hnamed, heq⟩ := Option.map_eq_some_iff.mp h
    obtain ⟨rfl, rfl⟩ := Prod.mk.inj heq
    have hbracket : ']' ∉ name := not_mem_of_namedClass? hnamed (by decide)
    split at hcaret
    · obtain ⟨rfl, rfl⟩ := Prod.mk.inj hcaret
      refine ⟨'^' :: (name ++ [':']), by simp, by simpa using hbracket, fun rest => ?_⟩
      simpa using readNamedClass?_caret_append hnamed rest
    · obtain ⟨rfl, rfl⟩ := Prod.mk.inj hcaret
      refine ⟨name ++ [':'], by simp, by simpa using hbracket, fun rest => ?_⟩
      simpa using readNamedClass?_append hnamed rest
  · simp at h

/-- What is no named class is none when another text stands behind the next closing bracket. -/
lemma readNamedClass?_eq_none {t' : Text} (h : SharesBracket t t')
    (hnone : readNamedClass? t = none) :
    readNamedClass? t' = none := by
  obtain ⟨v, x, x', rfl, rfl⟩ := h
  by_contra hsome
  obtain ⟨⟨set, behind⟩, hset⟩ := Option.ne_none_iff_exists'.mp hsome
  obtain ⟨u, heq, hu, htakes⟩ := takesFrom_readNamedClass? hset
  obtain ⟨w, hw⟩ : ∃ w, v ++ ']' :: x = u ++ ']' :: w := by
    rcases List.append_eq_append_iff.mp heq with ⟨w, rfl, hw⟩ | ⟨w, rfl, hw⟩
    · -- The class would have a closing bracket before its own.
      cases w with
      | nil => exact ⟨x, by simp⟩
      | cons c w =>
        obtain ⟨rfl, -⟩ := List.cons.inj hw
        exact absurd (by simp) hu
    · cases w with
      | nil => exact ⟨x, by simp⟩
      | cons c w =>
        obtain ⟨rfl, -⟩ := List.cons.inj hw
        exact ⟨w ++ ']' :: x, by simp⟩
  rw [hw, htakes] at hnone
  cases hnone

/-- The first members of a class end before the first character that is none of them. -/
lemma readLeading_append {leading : List ClassPart} (h : readLeading t = (leading, after)) :
    ∃ u, t = u ++ after ∧ ∀ rest, rest.head? = after.head? →
      readLeading (u ++ rest) = (leading, rest) := by
  obtain ⟨hyphens, stop, rfl, hhyphens, hstop⟩ := exists_run (· == '-') t
  unfold readLeading at h
  rw [takeWhile_run hhyphens hstop] at h
  cases hyphens with
  | nil =>
    rw [List.nil_append] at h ⊢
    dsimp only at h
    split at h
    · next behind =>
      obtain ⟨rfl, rfl⟩ := Prod.mk.inj h
      exact ⟨[']'], rfl, fun rest _ => rfl⟩
    · next hclose =>
      obtain ⟨rfl, rfl⟩ := Prod.mk.inj h
      refine ⟨[], rfl, fun rest hrest => ?_⟩
      rw [← hrest] at hstop
      have hnone : rest.takeWhile (· == '-') = [] := 
        takeWhile_run (a := []) (by simp) hstop
      rw [List.nil_append, readLeading, hnone]
      rintro more rfl
      obtain ⟨behind, hbehind⟩ := List.head?_eq_some_iff.mp hrest.symm
      exact hclose behind hbehind
  | cons c hyphens =>
    simp only [List.drop_left, Prod.mk.injEq] at h
    obtain ⟨rfl, rfl⟩ := h
    refine ⟨c :: hyphens, rfl, fun rest hrest => ?_⟩
    rw [← hrest] at hstop
    unfold readLeading
    rw [takeWhile_run hhyphens hstop]
    simp only [List.drop_left]

/-- The opening of a class ends before the first character that is no part of it. -/
lemma readClassOpening_append {o : Bool × List ClassPart} (h : readClassOpening t = (o, after)) :
    ∃ u, t = u ++ after ∧ ∀ rest, rest.head? = after.head? →
      readClassOpening (u ++ rest) = (o, rest) := by
  unfold readClassOpening at h
  split at h
  next negated t' hcaret =>
  obtain ⟨u, ht', htakes⟩ := readLeading_append (t := t') rfl
  obtain ⟨rfl, rfl⟩ := Prod.mk.inj h
  split at hcaret
  · next rest =>
    obtain ⟨rfl, rfl⟩ := Prod.mk.inj hcaret
    refine ⟨'^' :: u, by rw [List.cons_append, ← ht'], fun rest hrest => ?_⟩
    simp only [List.cons_append, readClassOpening, htakes rest hrest]
  · next hcaret' =>
    obtain ⟨rfl, rfl⟩ := Prod.mk.inj hcaret
    refine ⟨u, ht', fun rest hrest => ?_⟩
    unfold readClassOpening
    split
    next negated t' heq =>
    split at heq
    · next more hmore =>
      have hhead := head?_append_congr (u := u) hrest
      rw [← ht', hmore] at hhead
      obtain ⟨behind, hbehind⟩ := List.head?_eq_some_iff.mp hhead.symm
      exact absurd hbehind (hcaret' behind)
    · obtain ⟨rfl, rfl⟩ := Prod.mk.inj heq
      rw [htakes rest hrest]

/-! ## Classes -/

/-- The opening of an inner class, as a token, ends before the first character that is no part of
it. -/
lemma readInnerClass_append {token : ClassToken} (h : readInnerClass t = (token, after)) :
    ∃ u, t = u ++ after ∧ ∀ rest, rest.head? = after.head? →
      readInnerClass (u ++ rest) = (token, rest) := by
  obtain ⟨u, ht, htakes⟩ := readClassOpening_append (t := t) rfl
  obtain ⟨rfl, rfl⟩ := Prod.mk.inj h
  refine ⟨u, ht, fun rest hrest => ?_⟩
  rw [readInnerClass, htakes rest hrest]

/-- Members that are no brackets and no operators are a token of a class. -/
lemma readClassToken_of_readMembers {c : Char} {set : CharClass} (hclose : c ≠ ']')
    (hopen : c ≠ '[') (hop : c ∈ ['&', '-', '~'] → t.head? ≠ some c)
    (h : readMembers (c :: t) = .ok (set, after)) :
    readClassToken (c :: t) = .ok (.members set, after) := by
  unfold readClassToken
  split
  case h_7 => exact bind_eq_ok_iff.mpr ⟨_, h, rfl⟩
  all_goals simp_all

/-- A bracket that no colon follows opens a class inside the class. -/
lemma readClassToken_of_inner (h : t.head? ≠ some ':') :
    readClassToken ('[' :: t) = .ok (readInnerClass t) := by
  unfold readClassToken
  split <;> simp_all

/-- What stands next in a class is read without looking further than the next closing bracket.

**Proof sketch.** By what the first character starts. A bracket starts a named class, which ends
before the next bracket, or a class inside; two equal marks are an operator; all else is a member,
for which the characters up to the next bracket are enough. -/
lemma takesFrom_readClassToken {c : Char} {token : ClassToken}
    (h : readClassToken (c :: t) = .ok (token, after)) :
    TakesFrom (fun t => readClassToken (c :: t)) (SharesBracket after) t token after := by
  unfold readClassToken at h
  split at h
  case h_1 rest heq =>
    obtain ⟨rfl, rfl⟩ := List.cons.inj heq
    obtain ⟨rfl, rfl⟩ : .close = token ∧ t = after := by simpa using h
    exact ⟨[], rfl, fun rest _ => rfl⟩
  case h_2 rest heq =>
    obtain ⟨rfl, rfl⟩ := List.cons.inj heq
    split at h
    · next set behind hnamed =>
      obtain ⟨rfl, rfl⟩ : .members set = token ∧ behind = after := by simpa using h
      obtain ⟨u, rfl, -, htakes⟩ := takesFrom_readNamedClass? hnamed
      refine ⟨':' :: (u ++ [']']), by simp, fun rest _ => ?_⟩
      simp only [List.cons_append, List.append_assoc, List.nil_append, readClassToken, htakes rest]
    · next hnamed =>
      have hinner : readInnerClass (':' :: rest) = (.inner false [], ':' :: rest) := rfl
      rw [hinner] at h
      obtain ⟨rfl, rfl⟩ := Prod.mk.inj (Except.ok.inj h)
      refine ⟨[], rfl, fun rest' hrest => ?_⟩
      obtain ⟨more, rfl, hmore⟩ := hrest.of_cons (by decide)
      simp only [List.nil_append, readClassToken, readNamedClass?_eq_none hmore hnamed]
      rfl
  case h_3 rest hcolon heq =>
    obtain ⟨rfl, rfl⟩ := List.cons.inj heq
    obtain ⟨u, rfl, htakes⟩ := readInnerClass_append (Except.ok.inj h)
    refine ⟨u, rfl, fun rest hrest => ?_⟩
    have hother : (u ++ rest).head? ≠ some ':' := by
      rw [head?_append_congr hrest.head?_eq]
      intro hhead
      obtain ⟨more, hmore⟩ := List.head?_eq_some_iff.mp hhead
      exact hcolon more hmore
    exact (readClassToken_of_inner hother).trans (congrArg Except.ok (htakes rest hrest.head?_eq))
  case h_7 hclose _ hopen hinter hdiff hsymmDiff =>
    obtain ⟨⟨set, behind⟩, hread, heq⟩ := bind_eq_ok_iff.mp h
    obtain ⟨rfl, rfl⟩ := Prod.mk.inj (Except.ok.inj heq)
    obtain ⟨d, u, ht, htakes⟩ := takesFrom_readMembers hread
    rw [List.cons_append] at ht
    obtain ⟨rfl, rfl⟩ := List.cons.inj ht
    refine ⟨u, rfl, fun rest hrest => readClassToken_of_readMembers ?_ ?_ ?_ (htakes rest hrest)⟩
    · rintro rfl
      exact hclose _ rfl
    · rintro rfl
      exact hopen _ rfl
    · intro hop hhead
      rw [head?_append_congr hrest.head?_eq] at hhead
      obtain ⟨more, hmore⟩ := List.head?_eq_some_iff.mp hhead
      simp only [List.mem_cons, List.not_mem_nil, or_false] at hop
      rcases hop with rfl | rfl | rfl
      · exact hinter more (by rw [hmore])
      · exact hdiff more (by rw [hmore])
      · exact hsymmDiff more (by rw [hmore])
  all_goals
    next rest heq =>
    obtain ⟨rfl, rfl⟩ := List.cons.inj heq
    obtain ⟨rfl, rfl⟩ := Prod.mk.inj (Except.ok.inj h)
    exact ⟨[_], rfl, fun rest _ => rfl⟩

/-- A class is closed by a bracket only. -/
lemma eq_of_readClassToken_close (h : readClassToken t = .ok (.close, after)) :
    t = ']' :: after := by
  unfold readClassToken at h
  split at h
  case h_1 => rw [(Prod.mk.inj (Except.ok.inj h)).2]
  case h_2 =>
    split at h
    · cases h
    · cases h
  case h_7 =>
    obtain ⟨x, -, heq⟩ := bind_eq_ok_iff.mp h
    cases heq
  all_goals cases h

/-- Before the closing bracket that ends a class, what stands next is read whatever stands behind
that bracket. -/
lemma exists_readClassToken_append {c : Char} {token : ClassToken} {u : Text}
    (h : readClassToken (c :: t) = .ok (token, u ++ ']' :: after)) :
    ∃ first, c :: t = c :: first ++ u ++ ']' :: after ∧
      ∀ rest, readClassToken (c :: first ++ u ++ ']' :: rest) = .ok (token, u ++ ']' :: rest) := by
  obtain ⟨first, rfl, htakes⟩ := takesFrom_readClassToken h
  refine ⟨first, by simp, fun rest => ?_⟩
  simpa using htakes (u ++ ']' :: rest) ⟨u, after, rest, rfl, rfl⟩

/-- The rest of a class ends with its closing bracket.

**Proof sketch.** Induction on the bound, along the tokens of the class. A closing bracket ends it,
a class inside ends with its own bracket, and every other token is read from what it has in common
with the new text. -/
lemma takesFrom_readClass {ignoreCase : Bool} {bound : Nat} {pending : Pending}
    {members : List ClassPart} {part : ClassPart}
    (h : readClass ignoreCase bound pending members t = .ok (part, after)) :
    ∃ u, t = u ++ ']' :: after ∧ ∀ bound' rest, u.length < bound' →
      readClass ignoreCase bound' pending members (u ++ ']' :: rest) = .ok (part, rest) := by
  induction bound generalizing pending members t part after with
  | zero => simp [readClass] at h
  | succ bound ih =>
    cases t with
    | nil => cases h
    | cons c t =>
      rw [readClass] at h
      split at h
      · cases h
      · next behind hread =>
        rw [eq_of_readClassToken_close hread]
        obtain ⟨rfl, rfl⟩ := Prod.mk.inj (Except.ok.inj h)
        refine ⟨[], rfl, fun bound' rest hbound => ?_⟩
        obtain ⟨bound', rfl⟩ : ∃ n, bound' = n + 1 := ⟨bound' - 1, by omega⟩
        rfl
      · next op behind hread =>
        obtain ⟨u, rfl, htakes⟩ := ih h
        obtain ⟨first, heq, hfirst⟩ := exists_readClassToken_append hread
        refine ⟨c :: first ++ u, heq, fun bound' rest hbound => ?_⟩
        obtain ⟨bound', rfl⟩ : ∃ n, bound' = n + 1 := ⟨bound' - 1, by omega⟩
        rw [readClass, hfirst rest]
        exact htakes bound' rest (by simp at hbound; omega)
      · next set behind hread =>
        obtain ⟨u, rfl, htakes⟩ := ih h
        obtain ⟨first, heq, hfirst⟩ := exists_readClassToken_append hread
        refine ⟨c :: first ++ u, heq, fun bound' rest hbound => ?_⟩
        obtain ⟨bound', rfl⟩ : ∃ n, bound' = n + 1 := ⟨bound' - 1, by omega⟩
        rw [readClass, hfirst rest]
        exact htakes bound' rest (by simp at hbound; omega)
      · next negated leading behind hread =>
        split at h
        · cases h
        · next inner behind' hinner =>
          obtain ⟨u, rfl, htakes⟩ := ih h
          obtain ⟨v, rfl, htakes'⟩ := ih hinner
          have hsplit : ∀ rest : Text, v ++ ']' :: (u ++ ']' :: rest) =
              v ++ ']' :: u ++ ']' :: rest := by simp
          rw [hsplit] at hread
          obtain ⟨first, heq, hfirst⟩ := exists_readClassToken_append hread
          refine ⟨c :: first ++ (v ++ ']' :: u), heq, fun bound' rest hbound => ?_⟩
          obtain ⟨bound', rfl⟩ : ∃ n, bound' = n + 1 := ⟨bound' - 1, by omega⟩
          simp only [List.length_append, List.length_cons] at hbound
          rw [readClass, hfirst rest, ← hsplit]
          simp only [htakes' bound' _ (by omega)]
          exact htakes bound' rest (by omega)

/-- **A class ends with its closing bracket.**

**Proof sketch.** The opening bracket with its marks is read from the same characters, and the rest
of the class is `takesFrom_readClass`. -/
lemma takesFrom_readBracketed {ignoreCase : Bool} {part : ClassPart}
    (h : readBracketed ignoreCase t = .ok (part, after)) :
    TakesFrom (readBracketed ignoreCase) (fun _ => True) t part after := by
  unfold readBracketed at h
  split at h
  next negated leading behind heq =>
  split at h
  · cases h
  · next inner behind' hread =>
    obtain ⟨rfl, rfl⟩ := Prod.mk.inj (Except.ok.inj h)
    obtain ⟨u, rfl, htakes⟩ := takesFrom_readClass hread
    obtain ⟨opening, ht, hopening⟩ := readClassOpening_append heq
    refine ⟨opening ++ (u ++ [']']), by simpa using ht, fun rest _ => ?_⟩
    have hsplit : opening ++ (u ++ [']']) ++ rest = opening ++ (u ++ ']' :: rest) := by simp
    have hhead : (u ++ ']' :: rest).head? = (u ++ ']' :: behind').head? := head?_append_congr rfl
    rw [hsplit, readBracketed, hopening _ hhead]
    simp only
    rw [htakes _ rest (by simp; omega)]

end Pattern

end Gloss
