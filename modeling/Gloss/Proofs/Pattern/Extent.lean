import Mathlib.Data.List.Basic
import Gloss.Pattern.Reader
import Gloss.Proofs.Annotate.Default
import Gloss.Proofs.Words

/-!
# How far readers look

A pattern is read item by item. What is read for an item is decided by its own characters and by
little else: behind some items it matters whether a question mark or a brace follows. This module
shows it for every part of an item, so that an item is read in the same way when the text behind it
is another.

## Main definitions

* `Pattern.Glance`, `Pattern.glance`: what matters of the text behind an item.
* `Pattern.TakesFrom`: a reader takes its item from the front of a text and does not look further.

## Main results

* `Pattern.takesFrom_readEscape`, `Pattern.takesFrom_readBounds`, `Pattern.takesFrom_readOpening`:
  escapes, counts and group headers.
-/

set_option relaxedAutoImplicit false
set_option autoImplicit false

namespace Gloss

namespace Pattern

open Text

/-- What matters of the text behind an item. -/
inductive Glance where
  /-- A question mark, which makes a repetition lazy or starts a group header. -/
  | question
  /-- A brace that may open a count. -/
  | count
  /-- A brace that may name a word anchor, or ends the text. -/
  | wordAnchor
  /-- Anything else. -/
  | other
  deriving DecidableEq

/-- What matters of a text that stands behind an item. -/
def glance : Text → Glance
  | '?' :: _ => .question
  | '{' :: c :: _ => if isAsciiLetter c || c == '-' then .wordAnchor else .count
  | ['{'] => .wordAnchor
  | _ => .other

/-- The reader takes what is left of `t` before `after` and makes `x` of it, and does the same if
another text stands there that goes on as `p` says. -/
def TakesFrom {α : Type} (read : Text → Except PatternFault (α × Text)) (p : Text → Prop)
    (t : Text) (x : α) (after : Text) : Prop :=
  ∃ u, t = u ++ after ∧ ∀ rest, p rest → read (u ++ rest) = .ok (x, rest)

variable {t after : Text}

/-! ## Escapes -/

/-- A code point ends with its brace or its last digit.

**Proof sketch.** In braces the digits are all that comes before the closing brace. Without them
their number is fixed, and the new text starts with the same digits, so with no brace. -/
lemma takesFrom_readCodePoint {width : Nat} (hwidth : 0 < width) {c : Char}
    (h : readCodePoint width t = .ok (c, after)) :
    TakesFrom (readCodePoint width) (fun _ => True) t c after := by
  unfold readCodePoint at h
  split at h
  · next rest =>
    obtain ⟨digits, stop, rfl, hdigits, hstop⟩ := exists_run (· != '}') rest
    rw [dropWhile_run hdigits hstop, takeWhile_run hdigits hstop] at h
    cases stop with
    | nil => simp at h
    | cons brace stop =>
      obtain ⟨d, hd, heq⟩ := bind_eq_ok_iff.mp h
      obtain ⟨rfl, rfl⟩ : d = c ∧ stop = after := by simpa [pure, Except.pure] using heq
      refine ⟨'{' :: (digits ++ [brace]), by simp, fun rest _ => ?_⟩
      have hrest : ∀ b ∈ (brace :: rest).head?, (b != '}') = false := by simpa using hstop
      have hsplit : '{' :: (digits ++ [brace]) ++ rest = '{' :: (digits ++ brace :: rest) := by simp
      rw [hsplit, readCodePoint, dropWhile_run hdigits hrest, takeWhile_run hdigits hrest]
      exact bind_eq_ok_iff.mpr ⟨d, hd, rfl⟩
  · next hbrace =>
    split_ifs at h with hlength
    obtain ⟨d, hd, heq⟩ := bind_eq_ok_iff.mp h
    obtain ⟨rfl, rfl⟩ : d = c ∧ t.drop width = after := by simpa [pure, Except.pure] using heq
    have hwhole : (t.take width).length = width := by simp; omega
    refine ⟨t.take width, (List.take_append_drop width t).symm, fun rest _ => ?_⟩
    unfold readCodePoint
    split
    · next other heq =>
      -- The text would start with a brace already.
      obtain ⟨first, more, ht⟩ : ∃ first more, t = first :: more := by
        cases t with
        | nil => simp at hlength; omega
        | cons first more => exact ⟨first, more, rfl⟩
      obtain ⟨width, rfl⟩ : ∃ n, width = n + 1 := ⟨width - 1, by omega⟩
      rw [ht] at heq
      simp only [List.take_succ_cons, List.cons_append, List.cons.injEq] at heq
      exact absurd (by rw [ht, heq.1]) (hbrace more)
    · rw [if_neg (by rw [List.length_append]; omega), List.take_append_of_le_length (by omega),
        List.drop_append_of_le_length (by omega), List.take_take, Nat.min_self,
        List.drop_eq_nil_of_le (by omega), List.nil_append]
      exact bind_eq_ok_iff.mpr ⟨d, hd, rfl⟩

/-- Behind a word anchor without a name, braces are left alone. -/
lemma readWordAnchor_of_glance (h : glance t ≠ .wordAnchor) :
    readWordAnchor t = .ok (.anchor .wordEdge, t) := by
  unfold readWordAnchor
  split
  · next rest =>
    cases rest with
    | nil => exact absurd rfl h
    | cons c rest =>
      have hc : ¬ (isAsciiLetter c || c == '-') = true := fun hc => h (if_pos hc)
      exact if_neg hc
  · rfl

/-- A word anchor with a name, whatever stands behind its brace. -/
lemma readWordAnchor_of_name {name : Text} {a : Anchor}
    (hname : ∀ c ∈ name, (isAsciiLetter c || c == '-') = true)
    (ha : anchorOfName? name = some a) (rest : Text) :
    readWordAnchor ('{' :: (name ++ '}' :: rest)) = .ok (.anchor a, rest) := by
  have htake : (name ++ '}' :: rest).takeWhile (fun c => isAsciiLetter c || c == '-') = name :=
    takeWhile_run hname (by simp; decide)
  cases name with
  | nil =>
    have hnone : anchorOfName? [] = none := by decide
    rw [hnone] at ha
    cases ha
  | cons c name =>
    rw [List.cons_append] at htake ⊢
    simp only [readWordAnchor, htake, ha, hname c (by simp), if_true]
    rw [← List.cons_append, List.drop_left]
    rfl

/-- A word anchor ends with its name, if it has one. -/
lemma takesFrom_readWordAnchor {e : Escaped} (h : readWordAnchor t = .ok (e, after)) :
    (∃ a, e = .anchor a) ∧
      TakesFrom readWordAnchor (fun rest => glance rest = glance after) t e after := by
  by_cases hglance : glance t = .wordAnchor
  · unfold readWordAnchor at h
    split at h
    · next rest =>
      cases rest with
      | nil => simp at h
      | cons c rest =>
        have hc : (isAsciiLetter c || c == '-') = true := by
          by_contra hc
          exact absurd ((if_neg hc).symm.trans hglance) (by decide)
        obtain ⟨name, stop, hsplit, hname, hstop⟩ :=
          exists_run (fun c => isAsciiLetter c || c == '-') (c :: rest)
        simp only [hc, if_true] at h
        rw [hsplit, takeWhile_run hname hstop, List.drop_left] at h
        split at h
        · next behind a hanchor =>
          obtain ⟨rfl, rfl⟩ : .anchor a = e ∧ behind = after := by simpa using h
          refine ⟨⟨a, rfl⟩, '{' :: (name ++ ['}']), by simp [hsplit], fun rest _ => ?_⟩
          simpa using readWordAnchor_of_name hname hanchor rest
        · simp at h
    · next hbrace =>
      cases t with
      | nil => exact absurd hglance (by decide)
      | cons c t =>
        unfold glance at hglance
        split at hglance <;> simp_all
  · rw [readWordAnchor_of_glance hglance] at h
    obtain ⟨rfl, rfl⟩ : .anchor .wordEdge = e ∧ t = after := by simpa using h
    refine ⟨⟨_, rfl⟩, [], rfl, fun rest hrest => ?_⟩
    exact readWordAnchor_of_glance (hrest.trans_ne hglance)

/-- **An escape ends with its last character.** Only behind an anchor does it matter what follows.

**Proof sketch.** By the kind of the escape, in the order in which the reader tries them. All but
the code points and the anchors with a name in braces are one character. -/
lemma takesFrom_readEscape {e : Escaped} (h : readEscape t = .ok (e, after)) :
    TakesFrom readEscape (fun rest => (∃ a, e = .anchor a) → glance rest = glance after)
      t e after := by
  cases t with
  | nil => simp [readEscape] at h
  | cons c t =>
    rw [readEscape] at h
    by_cases hdigit : isAsciiDigit c = true
    · rw [if_pos hdigit] at h
      cases h
    rw [if_neg hdigit] at h
    split at h
    · next width hwidth =>
      obtain ⟨⟨d, behind⟩, hread, heq⟩ := bind_eq_ok_iff.mp h
      obtain ⟨rfl, rfl⟩ : .char d = e ∧ behind = after := by simpa [pure, Except.pure] using heq
      have hpos : 0 < width := by
        unfold codePointWidth? at hwidth
        split at hwidth <;> simp at hwidth <;> omega
      obtain ⟨u, rfl, htakes⟩ := takesFrom_readCodePoint hpos hread
      refine ⟨c :: u, rfl, fun rest _ => ?_⟩
      simp only [List.cons_append, readEscape, hdigit, hwidth, htakes rest trivial]
      rfl
    · next hwidth =>
      split at h
      · next set hset =>
        obtain ⟨rfl, rfl⟩ : .set set = e ∧ t = after := by simpa using h
        refine ⟨[c], rfl, fun rest _ => ?_⟩
        simp [readEscape, hdigit, hwidth, hset]
      · next d hset hcontrol =>
        obtain ⟨rfl, rfl⟩ : .char d = e ∧ t = after := by simpa using h
        refine ⟨[c], rfl, fun rest _ => ?_⟩
        simp [readEscape, hdigit, hwidth, hset, hcontrol]
      · next hset hcontrol =>
        split_ifs at h with hescapable hb
        · obtain ⟨rfl, rfl⟩ : .char c = e ∧ t = after := by simpa using h
          refine ⟨[c], rfl, fun rest _ => ?_⟩
          simp [readEscape, hdigit, hwidth, hset, hcontrol, hescapable]
        · obtain ⟨hanchor, u, rfl, htakes⟩ := takesFrom_readWordAnchor h
          refine ⟨c :: u, rfl, fun rest hrest => ?_⟩
          simp only [List.cons_append, readEscape, hdigit, hwidth, hset, hcontrol, hescapable]
          rw [if_pos hb]
          exact htakes rest (hrest hanchor)
        · split at h
          · next a hanchor =>
            obtain ⟨rfl, rfl⟩ : .anchor a = e ∧ t = after := by simpa using h
            refine ⟨[c], rfl, fun rest _ => ?_⟩
            simp [readEscape, hdigit, hwidth, hset, hcontrol, hescapable, hb, hanchor]
          · simp at h

/-! ## Counts -/

/-- A count is read up to a character that is no white space and no digit. -/
lemma readCount_append {a digits b rest : Text} (ha : AllBlank a)
    (hdigits : ∀ c ∈ digits, isAsciiDigit c = true) (hb : AllBlank b)
    (hstop : ∀ c ∈ (b ++ rest).head?, isAsciiDigit c = false)
    (hrest : ∀ c ∈ rest.head?, isBlank c = false) (hne : digits ≠ []) :
    readCount (a ++ digits ++ b ++ rest) =
      if digits.isEmpty || Nat.pow 2 32 ≤ decimalNumber digits then .error .badCount
      else .ok (decimalNumber digits, rest) := by
  have hfirst : ∀ c ∈ (digits ++ (b ++ rest)).head?, isBlank c = false := by
    obtain ⟨d, more, rfl⟩ := List.exists_cons_of_ne_nil hne
    simpa using isBlank_of_isAsciiDigit (hdigits d (by simp))
  have hsplit : a ++ digits ++ b ++ rest = a ++ (digits ++ (b ++ rest)) := by simp
  unfold readCount
  simp only [hsplit]
  rw [dropWhile_run ha hfirst, takeWhile_run hdigits hstop, List.drop_left, dropWhile_run hb hrest]

/-- What is read as a count: digits with white space around them. -/
lemma exists_of_readCount {n : Nat} (h : readCount t = .ok (n, after)) :
    ∃ a digits b, t = a ++ digits ++ b ++ after ∧ AllBlank a ∧
      (∀ c ∈ digits, isAsciiDigit c = true) ∧
      AllBlank b ∧ digits ≠ [] ∧ ¬ Nat.pow 2 32 ≤ decimalNumber digits ∧
      decimalNumber digits = n := by
  obtain ⟨a, x, rfl, ha, hx⟩ := exists_run isBlank t
  obtain ⟨digits, y, rfl, hdigits, hy⟩ := exists_run isAsciiDigit x
  obtain ⟨b, z, rfl, hb, hz⟩ := exists_run isBlank y
  unfold readCount at h
  simp only [dropWhile_run ha hx, takeWhile_run hdigits hy, List.drop_left,
    dropWhile_run hb hz] at h
  split_ifs at h with hbad
  obtain ⟨rfl, rfl⟩ : decimalNumber digits = n ∧ z = after := by simpa using h
  rw [Bool.or_eq_true, not_or] at hbad
  exact ⟨a, digits, b, by simp, ha, hdigits, hb, by simpa using hbad.1, by simpa using hbad.2, rfl⟩

/-- A count ends before the comma or brace that follows it. -/
lemma takesFrom_readCount {n : Nat} (h : readCount t = .ok (n, after)) :
    TakesFrom readCount (fun rest => ∃ more, rest = '}' :: more ∨ rest = ',' :: more)
      t n after := by
  obtain ⟨a, digits, b, rfl, ha, hdigits, hb, hne, hsmall, rfl⟩ := exists_of_readCount h
  refine ⟨a ++ digits ++ b, rfl, ?_⟩
  rintro rest ⟨more, hmore⟩
  have hrest : ∀ c ∈ rest.head?, isBlank c = false := by
    rcases hmore with rfl | rfl <;> simp <;> decide
  have hstop : ∀ c ∈ (b ++ rest).head?, isAsciiDigit c = false := by
    cases b with
    | nil => rcases hmore with rfl | rfl <;> simp <;> decide
    | cons blank b =>
      have hblank : isBlank blank = true := hb blank (by simp)
      intro c hc
      obtain rfl : blank = c := by simpa using hc
      by_contra hdigit
      rw [isBlank_of_isAsciiDigit (by simpa using hdigit)] at hblank
      cases hblank
  rw [readCount_append ha hdigits hb hstop hrest hne, if_neg]
  simpa [hne] using hsmall

/-- Bounds with two ends. -/
lemma readBounds_of_ends {least most : Nat} {x : Text}
    (hleast : readCount t = .ok (least, ',' :: x)) (hx : ∀ more, x ≠ '}' :: more)
    (hmost : readCount x = .ok (most, '}' :: after)) (hle : least ≤ most) :
    readBounds t = .ok ((least, some most), after) := by
  refine bind_eq_ok_iff.mpr ⟨_, hleast, ?_⟩
  dsimp only
  split
  · next heq => simp at heq
  · next y heq =>
    obtain rfl : x = y := by simpa using heq
    split
    · next more => exact absurd rfl (hx more)
    · refine bind_eq_ok_iff.mpr ⟨_, hmost, ?_⟩
      exact if_pos hle
  · next hcomma => exact absurd rfl (hcomma x)

/-- **The bounds of a repetition end with their brace.**

**Proof sketch.** The numbers end before the comma or the brace, and these come next in the new text
as well. -/
lemma takesFrom_readBounds {bounds : Nat × Option Nat} (h : readBounds t = .ok (bounds, after)) :
    TakesFrom readBounds (fun _ => True) t bounds after := by
  obtain ⟨⟨least, x⟩, hleast, hbehind⟩ := bind_eq_ok_iff.mp h
  clear h
  obtain ⟨u, rfl, htakes⟩ := takesFrom_readCount hleast
  dsimp only at hbehind
  split at hbehind
  · next behind =>
    obtain ⟨rfl, rfl⟩ : (least, some least) = bounds ∧ behind = after := by
      simpa [pure, Except.pure] using hbehind
    refine ⟨u ++ ['}'], by simp, fun rest _ => ?_⟩
    rw [List.append_assoc]
    exact bind_eq_ok_iff.mpr ⟨_, htakes _ ⟨rest, .inl rfl⟩, rfl⟩
  · next behind =>
    split at hbehind
    · next behind =>
      obtain ⟨rfl, rfl⟩ : (least, none) = bounds ∧ behind = after := by
        simpa [pure, Except.pure] using hbehind
      refine ⟨u ++ [',', '}'], by simp, fun rest _ => ?_⟩
      rw [List.append_assoc]
      exact bind_eq_ok_iff.mpr ⟨_, htakes _ ⟨'}' :: rest, .inr rfl⟩, rfl⟩
    · next hbrace =>
      obtain ⟨⟨most, x⟩, hmost, hmore⟩ := bind_eq_ok_iff.mp hbehind
      obtain ⟨v, rfl, htakes'⟩ := takesFrom_readCount hmost
      dsimp only at hmore
      split at hmore
      · next behind =>
        split_ifs at hmore with hle
        obtain ⟨rfl, rfl⟩ : (least, some most) = bounds ∧ behind = after := by
          simpa [pure, Except.pure] using hmore
        refine ⟨u ++ ',' :: (v ++ ['}']), by simp, fun rest _ => ?_⟩
        have hsplit : u ++ ',' :: (v ++ ['}']) ++ rest = u ++ ',' :: (v ++ '}' :: rest) := by simp
        rw [hsplit]
        refine readBounds_of_ends (htakes _ ⟨_, .inr rfl⟩) ?_ (htakes' _ ⟨rest, .inl rfl⟩) hle
        -- A brace right behind the comma would have been there before.
        intro more heq
        cases v with
        | nil => exact hbrace behind rfl
        | cons c v =>
          obtain ⟨rfl, -⟩ := List.cons.inj heq
          exact hbrace _ rfl
      · simp at hmore
  · simp at hbehind

/-! ## Group headers -/

/-- Flags end before their colon or parenthesis. -/
lemma takesFrom_readFlags {seen : List Flag} {minus afterMinus : Bool} {flags flags' : Flags}
    (h : readFlags seen minus afterMinus flags t = .ok (flags', after)) :
    (∃ c more, after = c :: more ∧ (c = ':' ∨ c = ')')) ∧
      TakesFrom (readFlags seen minus afterMinus flags)
        (fun rest => rest.head? = after.head?) t flags'
        after := by
  induction t generalizing seen minus afterMinus flags with
  | nil => simp [readFlags] at h
  | cons c t ih =>
    rw [readFlags] at h
    split_ifs at h with hend hminus hhyphen hbefore
    · obtain ⟨rfl, rfl⟩ : flags = flags' ∧ c :: t = after := by simpa using h
      refine ⟨⟨c, t, rfl, hend⟩, [], rfl, fun rest hrest => ?_⟩
      obtain ⟨more, rfl⟩ : ∃ more, rest = c :: more := by
        cases rest with
        | nil => simp at hrest
        | cons d more => exact ⟨more, by simpa using hrest⟩
      rw [List.nil_append, readFlags, if_pos hend, if_neg hminus]
    · obtain ⟨hafter, u, rfl, htakes⟩ := ih h
      refine ⟨hafter, c :: u, rfl, fun rest hrest => ?_⟩
      rw [List.cons_append, readFlags, if_neg hend, if_pos hhyphen, if_neg hbefore]
      exact htakes rest hrest
    · split at h
      · simp at h
      · next flag hflag =>
        split_ifs at h with hseen hunicode
        obtain ⟨hafter, u, rfl, htakes⟩ := ih h
        refine ⟨hafter, c :: u, rfl, fun rest hrest => ?_⟩
        rw [List.cons_append, readFlags, if_neg hend, if_neg hhyphen, hflag]
        simp only [hseen, hunicode]
        exact htakes rest hrest

/-- A group name starts with a letter or an underscore and ends with its bracket. -/
lemma takesFrom_readGroupName {name : Text} (h : readGroupName t = .ok (name, after)) :
    (∃ c more, t = c :: more ∧ startsGroupName c = true) ∧
      TakesFrom readGroupName (fun _ => True) t name after := by
  obtain ⟨run, stop, rfl, hrun, hstop⟩ := exists_run (· != '>') t
  unfold readGroupName at h
  simp only [takeWhile_run hrun hstop, List.drop_left] at h
  split at h
  · next first more bracket behind =>
    split_ifs at h with hname
    obtain ⟨rfl, rfl⟩ : first :: more = name ∧ behind = after := by simpa using h
    refine ⟨⟨first, _, rfl, ?_⟩, first :: more ++ [bracket], by simp, fun rest _ => ?_⟩
    · exact (Bool.and_eq_true_iff.mp hname).1
    · have hrest : ∀ c ∈ (bracket :: rest).head?, (c != '>') = false := by simpa using hstop
      have hsplit : first :: more ++ [bracket] ++ rest = first :: more ++ bracket :: rest := by simp
      unfold readGroupName
      simp only [hsplit, takeWhile_run hrun hrest, List.drop_left, hname, if_true]
  · simp at h

/-- Flags do not start as other group headers do. -/
lemma not_mem_of_readFlags {seen : List Flag} {minus afterMinus : Bool} {flags : Flags} {c : Char}
    {x : Flags × Text} (h : readFlags seen minus afterMinus flags (c :: t) = .ok x) :
    c ∉ ['=', '!', '<', 'P'] := by
  intro hc
  simp only [List.mem_cons, List.not_mem_nil, or_false] at hc
  rcases hc with rfl | rfl | rfl | rfl <;> simp [readFlags, Flag.ofChar?] at h

/-- A group header with flags. -/
lemma readOpening_of_readFlags {flags flags' : Flags} {c stop : Char} (hc : c ≠ ')')
    (h : readFlags [] false false flags (c :: t) = .ok (flags', stop :: after))
    (hstop : stop = ':' ∨ stop = ')') :
    readOpening flags ('?' :: c :: t) =
      .ok (if stop = ':' then .plain flags' else .flags flags', after) := by
  have hother := not_mem_of_readFlags h
  simp only [List.mem_cons, List.not_mem_nil, or_false, not_or] at hother
  unfold readOpening
  split
  case h_8 rest _ _ _ _ _ _ _ heq =>
    obtain rfl : c :: t = rest := by simpa using heq
    refine bind_eq_ok_iff.mpr ⟨_, h, ?_⟩
    rcases hstop with rfl | rfl <;> rfl
  case h_9 hquestion => exact absurd rfl (hquestion _)
  all_goals simp_all

/-- A group header with a name. -/
lemma readOpening_of_readGroupName {name mark : Text}
    (hmark : mark = ['?', '<'] ∨ mark = ['?', 'P', '<']) (h : readGroupName t = .ok (name, after))
    (flags : Flags) :
    readOpening flags (mark ++ t) = .ok (.capture (some name), after) := by
  obtain ⟨⟨c, more, rfl, hc⟩, -⟩ := takesFrom_readGroupName h
  have hne : c ≠ '=' ∧ c ≠ '!' := by
    constructor <;>
    · rintro rfl
      exact absurd hc (by decide)
  rcases hmark with rfl | rfl
  · simp only [List.cons_append, List.nil_append]
    unfold readOpening
    split
    case h_6 rest _ _ heq =>
      obtain rfl : c :: more = rest := by simpa using heq
      exact bind_eq_ok_iff.mpr ⟨_, h, rfl⟩
    case h_8 rest _ _ _ hname _ heq => exact absurd (List.cons.inj heq).2.symm (hname _)
    all_goals simp_all
  · exact bind_eq_ok_iff.mpr ⟨_, h, rfl⟩

/-- **A group header ends with its last character.** Only behind a bare parenthesis does it matter
whether a question mark follows.

**Proof sketch.** By the kind of the group. Names end with their bracket and flags with a colon or a
parenthesis; a bare parenthesis takes nothing, and it stays bare if no question mark comes next. -/
lemma takesFrom_readOpening {flags : Flags} {o : Opening}
    (h : readOpening flags t = .ok (o, after)) :
    TakesFrom (readOpening flags) (fun rest => glance rest = glance after) t o after := by
  unfold readOpening at h
  split at h
  case h_5 rest =>
    obtain ⟨⟨name, behind⟩, hread, heq⟩ := bind_eq_ok_iff.mp h
    obtain ⟨rfl, rfl⟩ : .capture (some name) = o ∧ behind = after := by
      simpa [pure, Except.pure] using heq
    obtain ⟨-, u, rfl, htakes⟩ := takesFrom_readGroupName hread
    exact ⟨['?', 'P', '<'] ++ u, rfl, fun rest _ =>
      readOpening_of_readGroupName (.inr rfl) (htakes rest trivial) flags⟩
  case h_6 rest _ _ =>
    obtain ⟨⟨name, behind⟩, hread, heq⟩ := bind_eq_ok_iff.mp h
    obtain ⟨rfl, rfl⟩ : .capture (some name) = o ∧ behind = after := by
      simpa [pure, Except.pure] using heq
    obtain ⟨-, u, rfl, htakes⟩ := takesFrom_readGroupName hread
    exact ⟨['?', '<'] ++ u, rfl, fun rest _ =>
      readOpening_of_readGroupName (.inl rfl) (htakes rest trivial) flags⟩
  case h_8 rest _ _ _ _ hclose =>
    obtain ⟨⟨flags', behind⟩, hread, heq⟩ := bind_eq_ok_iff.mp h
    obtain ⟨⟨stop, more, rfl, hstop⟩, u, rfl, htakes⟩ := takesFrom_readFlags hread
    cases u with
    | nil =>
      obtain rfl : stop = ':' := hstop.resolve_right fun hstop => hclose more (by rw [hstop]; rfl)
      obtain ⟨rfl, rfl⟩ : .plain flags' = o ∧ more = after := by simpa [pure, Except.pure] using heq
      refine ⟨['?', ':'], rfl, fun rest _ => ?_⟩
      exact readOpening_of_readFlags (by decide) (htakes (':' :: rest) rfl) (.inl rfl)
    | cons c u =>
      have hc : c ≠ ')' := fun hc => hclose (u ++ stop :: more) (by rw [hc]; rfl)
      obtain ⟨rfl, rfl⟩ : (if stop = ':' then .plain flags' else .flags flags') = o ∧
          more = after := by
        rcases hstop with rfl | rfl <;> simpa [pure, Except.pure] using heq
      refine ⟨'?' :: c :: (u ++ [stop]), by simp, fun rest _ => ?_⟩
      have hsplit : '?' :: c :: (u ++ [stop]) ++ rest = '?' :: c :: (u ++ stop :: rest) := by simp
      rw [hsplit]
      exact readOpening_of_readFlags hc (htakes (stop :: rest) rfl) hstop
  case h_9 hquestion =>
    obtain ⟨rfl, rfl⟩ : .capture none = o ∧ t = after := by simpa using h
    refine ⟨[], rfl, fun rest hrest => ?_⟩
    have hother : glance t ≠ .question := by
      unfold glance
      split <;> simp_all
      split <;> simp
    rw [List.nil_append]
    unfold readOpening
    split
    case h_9 => rfl
    all_goals exact absurd hrest.symm hother
  all_goals cases h

end Pattern

end Gloss
