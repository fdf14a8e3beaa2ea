import Gloss.Proofs.Words
import Gloss.Toml.Printer
import Mathlib.Data.List.TakeWhile

/-!
# Words of printed documents

The smallest parts of a document are read back from what is printed for them: texts in quotes, keys
with or without them, and the digits of whole numbers. Each lemma says what the reader leaves, so
that it can be used inside a longer text.

## Main results

* `Toml.readString_renderString`: texts.
* `Toml.readKey_of_skipSpaces`: keys, up to the equals sign.
* `Toml.valueOfWord?_ofNat`: whole numbers.
-/

set_option relaxedAutoImplicit false
set_option autoImplicit false

namespace Gloss

namespace Toml

/-! ## Classes of characters -/

/-- A character that can stand first in the text of a value. -/
def isValueStart (c : Char) : Bool :=
  c == '"' || c == '[' || c == '{' || c == 't' || c == 'f' || Text.isAsciiDigit c

/-- A character that can follow the text of a value. -/
def isValueEnd (c : Char) : Bool :=
  c == ',' || c == ']' || c == '}' || c == '\n'

/-- A character that can stand first in the text of a key. -/
def isKeyStart (c : Char) : Bool :=
  isBareKey c || c == '"'

/-- A character that `skipBlank` may go past. -/
def isSkipped (c : Char) : Bool :=
  isSpace c || c == '#' || c == '\n' || c == '\r'

/-- A character of a class is none that is outside it. -/
lemma ne_of_class {p : Char → Bool} {c d : Char} (hc : p c = true) (hd : p d = false) : c ≠ d := by
  rintro rfl
  rw [hc] at hd
  exact absurd hd (by decide)

/-- A class without the characters that may be skipped has none that is skipped. -/
lemma isSkipped_eq_false {p : Char → Bool} {c : Char} (hc : p c = true)
    (hp : ([' ', '\t', '#', '\n', '\r'].all fun d => !p d) = true) : isSkipped c = false := by
  have hne : ∀ d ∈ [' ', '\t', '#', '\n', '\r'], c ≠ d := fun d hd =>
    ne_of_class hc (by simpa using List.all_eq_true.mp hp d hd)
  simp only [List.forall_mem_cons] at hne
  simp [isSkipped, isSpace, hne]

/-- What starts a value is not skipped. -/
lemma isSkipped_of_isValueStart {c : Char} (h : isValueStart c = true) : isSkipped c = false :=
  isSkipped_eq_false h (by decide)

/-- What starts a key is not skipped. -/
lemma isSkipped_of_isKeyStart {c : Char} (h : isKeyStart c = true) : isSkipped c = false :=
  isSkipped_eq_false h (by decide)

/-! ## Blanks -/

section Blanks

variable {c : Char} {t : Text}

/-- What is not skipped is no space. -/
lemma isSpace_of_isSkipped (h : isSkipped c = false) : isSpace c = false := by
  simp only [isSkipped, Bool.or_eq_false_iff] at h
  exact h.1.1.1

/-- Other characters than spaces stay. -/
lemma skipSpaces_cons (h : isSpace c = false) : skipSpaces (c :: t) = c :: t := by
  simp [skipSpaces, h]

/-- A space is skipped. -/
@[simp]
lemma skipSpaces_space : skipSpaces (' ' :: t) = skipSpaces t := rfl

/-- What is not skipped ends no line. -/
lemma afterLineEnd?_cons (h : isSkipped c = false) : afterLineEnd? (c :: t) = none := by
  simp only [isSkipped, Bool.or_eq_false_iff, beq_eq_false_iff_ne] at h
  unfold afterLineEnd?
  split <;> simp_all

/-- Nothing is skipped where nothing blank stands. -/
lemma skipBlank_cons (h : isSkipped c = false) (bound : Nat) :
    skipBlank bound (c :: t) = c :: t := by
  cases bound with
  | zero => rfl
  | succ bound =>
    have hmark : c ≠ '#' := by
      simp only [isSkipped, Bool.or_eq_false_iff, beq_eq_false_iff_ne] at h
      exact h.1.1.2
    rw [skipBlank, skipSpaces_cons (isSpace_of_isSkipped h)]
    split
    · simp_all
    · rw [afterLineEnd?_cons h]

/-- One space is skipped. -/
lemma skipBlank_space_cons (h : isSkipped c = false) :
    skipBlank (' ' :: c :: t).length (' ' :: c :: t) = c :: t := by
  have hstep : skipBlank (' ' :: c :: t).length (' ' :: c :: t) =
      skipBlank ((c :: t).length + 1) (c :: t) := by
    rw [List.length_cons]
    simp only [skipBlank, skipSpaces_space]
  rw [hstep, skipBlank_cons h]

end Blanks

/-! ## Texts in quotes -/

/-- The four digits of a small number are read as that number. -/
lemma hexNumber?_fourDigits : ∀ n < 128, (fourDigits n).length = 4 ∧
    Text.hexNumber? (fourDigits n) = some n ∧ n.isValidChar := by
  decide +kernel

/-- The four digits of a control character are read as that character. -/
lemma readCodePoint_fourDigits {c : Char} (h : isControl c = true) (t : Text) :
    readCodePoint 4 (fourDigits c.toNat ++ t) = some (c, t) := by
  have hlt : c.toNat < 128 := by
    simp only [isControl, Bool.or_eq_true, Bool.and_eq_true, decide_eq_true_eq, beq_iff_eq] at h
    omega
  obtain ⟨hlength, hnumber, hvalid⟩ := hexNumber?_fourDigits c.toNat hlt
  have htake : (fourDigits c.toNat ++ t).take 4 = fourDigits c.toNat := by
    rw [← hlength, List.take_left]
  have hdrop : (fourDigits c.toNat ++ t).drop 4 = t := by rw [← hlength, List.drop_left]
  rw [readCodePoint, if_neg (by simp [hlength]), htake, hdrop, hnumber, Option.bind_some,
    if_pos hvalid, Char.ofNat_toNat]

/-- One step of the reader takes what one character is written as. -/
lemma readBasic_renderChar (c : Char) (t : Text) (bound : Nat) :
    readBasic (bound + 1) (renderChar c ++ t) =
      (readBasic bound t).map fun p => (c :: p.1, p.2) := by
  have hescape : ∀ {e rest}, readEscape rest = some (e, t) →
      readBasic (bound + 1) ('\\' :: rest) = (readBasic bound t).map fun p => (e :: p.1, p.2) := by
    intro e rest he
    rw [readBasic, if_neg (by decide), if_pos rfl, he]
    rfl
  unfold renderChar
  split_ifs with hquote hslash hline hreturn htab hcontrol
  · subst hquote
    exact hescape rfl
  · subst hslash
    exact hescape rfl
  · subst hline
    exact hescape rfl
  · subst hreturn
    exact hescape rfl
  · subst htab
    exact hescape rfl
  · exact hescape (readCodePoint_fourDigits hcontrol t)
  · rw [List.singleton_append, readBasic, if_neg hquote, if_neg hslash, if_neg hcontrol]

/-- No character is written as nothing. -/
lemma length_renderChar_pos (c : Char) : 0 < (renderChar c).length := by
  unfold renderChar
  split_ifs <;> simp

/-- A text is read up to its closing quote. -/
lemma readBasic_flatMap (s rest : Text) {bound : Nat}
    (h : (s.flatMap renderChar).length < bound) :
    readBasic bound (s.flatMap renderChar ++ '"' :: rest) = some (s, rest) := by
  induction s generalizing bound with
  | nil =>
    obtain ⟨bound, rfl⟩ := Nat.exists_eq_add_one_of_ne_zero (Nat.ne_zero_of_lt h)
    rw [List.flatMap_nil, List.nil_append, readBasic, if_pos rfl]
  | cons c s ih =>
    obtain ⟨bound, rfl⟩ := Nat.exists_eq_add_one_of_ne_zero (Nat.ne_zero_of_lt h)
    rw [List.flatMap_cons, List.length_append] at h
    have hpos := length_renderChar_pos c
    rw [List.flatMap_cons, List.append_assoc, readBasic_renderChar, ih (by omega)]
    rfl

/-- A string is written between quotes, with what follows it. -/
lemma renderString_append (s t : Text) :
    renderString s ++ t = '"' :: (s.flatMap renderChar ++ '"' :: t) := by
  simp [renderString]

/-- A written string is read back, by as many steps as it has characters. -/
lemma readBasic_length (s t : Text) :
    readBasic (s.flatMap renderChar ++ '"' :: t).length (s.flatMap renderChar ++ '"' :: t) =
      some (s, t) :=
  readBasic_flatMap s t (by simp)

/-- No character is written with a quote first. -/
lemma head?_renderChar (c : Char) : ∃ d t, renderChar c = d :: t ∧ d ≠ '"' := by
  unfold renderChar
  split_ifs with hquote
  all_goals first | exact ⟨_, _, rfl, by decide⟩ | exact ⟨c, [], rfl, hquote⟩

/-- A text in quotes is read back, if no third quote follows those of the empty text. -/
lemma readString_renderString (s : Text) {c : Char} (hc : c ≠ '"') (t : Text) :
    readString (renderString s ++ c :: t) = some (s, c :: t) := by
  rw [renderString_append, ← readBasic_length s (c :: t)]
  cases s with
  | nil =>
    unfold readString
    split <;> simp_all
  | cons d s =>
    obtain ⟨e, rest, he, hne⟩ := head?_renderChar d
    rw [List.flatMap_cons, he]
    unfold readString
    split <;> simp_all

/-! ## Keys -/

/-- A written key starts as keys do. -/
lemma renderKey_start (key : Text) : ∃ c t, renderKey key = c :: t ∧ isKeyStart c = true := by
  unfold renderKey
  split_ifs with hbare
  · cases key with
    | nil => simp at hbare
    | cons c key =>
      have hc : isBareKey c = true := by simp at hbare; exact hbare.1
      exact ⟨c, key, rfl, by simp [isKeyStart, hc]⟩
  · exact ⟨'"', _, rfl, by decide⟩

/-- A key is read back, if a space follows. -/
lemma readSimpleKey_renderKey (key t : Text) :
    readSimpleKey (renderKey key ++ ' ' :: t) = some (key, ' ' :: t) := by
  unfold renderKey
  split_ifs with hbare
  · rw [Bool.and_eq_true, List.all_eq_true] at hbare
    have htake : (key ++ ' ' :: t).takeWhile isBareKey = key := by
      rw [List.takeWhile_append_of_pos hbare.2, List.takeWhile_cons_of_neg (by decide),
        List.append_nil]
    cases key with
    | nil => simp at hbare
    | cons c key =>
      have hc := hbare.2 c List.mem_cons_self
      have hquote : c ≠ '"' := ne_of_class hc (by decide)
      have hsingle : c ≠ '\'' := ne_of_class hc (by decide)
      unfold readSimpleKey
      rw [htake]
      simp [hquote, hsingle]
  · rw [renderString_append]
    exact readBasic_length key _

/-- A key and the equals sign behind it are read, and the spaces before and between them. -/
lemma readKey_of_skipSpaces {t key rest : Text}
    (h : skipSpaces t = renderKey key ++ ' ' :: '=' :: rest) :
    readKey t = some (([], key), '=' :: rest) := by
  have hlength : t.length ≠ 0 := by
    intro h0
    rw [List.length_eq_zero_iff.mp h0] at h
    simp [skipSpaces] at h
  obtain ⟨bound, hbound⟩ := Nat.exists_eq_add_one_of_ne_zero hlength
  rw [readKey, hbound, readKeyParts, h, readSimpleKey_renderKey]
  rfl

/-! ## Whole numbers -/

section Digits

variable {ds : Text}

/-- A digit is one of the ten. -/
lemma isAsciiDigit_of_isDigit {c : Char} (h : c.isDigit = true) : Text.isAsciiDigit c = true := by
  simp only [Char.isDigit, Bool.and_eq_true, decide_eq_true_eq] at h
  simp only [Text.isAsciiDigit, Bool.and_eq_true, decide_eq_true_eq]
  exact h

/-- A written number has digits only. -/
lemma isAsciiDigit_of_mem_ofNat {n : Nat} {c : Char} (h : c ∈ Text.ofNat n) :
    Text.isAsciiDigit c = true :=
  isAsciiDigit_of_isDigit (Nat.isDigit_of_mem_toDigits (by decide) (by decide) h)

/-- The digits of a number stand for it. -/
lemma decimalNumber_ofNat (n : Nat) : Text.decimalNumber (Text.ofNat n) = n := by
  have h := Nat.ofDigitChars_toDigits (b := 10) (n := n) (by decide) (by decide)
  simpa [Nat.ofDigitChars, Text.decimalNumber, Text.ofNat, Nat.mul_comm] using h

/-- Only zero is written with a zero in front. -/
lemma head?_ofNat (n : Nat) : (Text.ofNat n).length = 1 ∨ (Text.ofNat n).head? ≠ some '0' := by
  induction n using Nat.strongRecOn with
  | _ n ih =>
    unfold Text.ofNat at ih ⊢
    by_cases hn : n < 10
    · exact .inl (by rw [Nat.toDigits_of_lt_base hn]; rfl)
    · right
      rw [Nat.toDigits_of_base_le (by decide) (by omega), List.head?_append]
      by_cases hsmall : n / 10 < 10
      · have hdigit : ∀ d, d < 10 → d ≠ 0 → d.digitChar ≠ '0' := by decide
        rw [Nat.toDigits_of_lt_base hsmall]
        simpa using hdigit _ hsmall (by omega)
      · have hlong : (Nat.toDigits 10 (n / 10)).length ≠ 1 := by
          rw [Nat.toDigits_of_base_le (by decide) (by omega)]
          simp [Nat.toDigits_ne_nil]
        have hhead := (ih (n / 10) (by omega)).resolve_left hlong
        obtain ⟨d, ds, hds⟩ :=
          List.exists_cons_of_ne_nil (Nat.toDigits_ne_nil (b := 10) (n := n / 10))
        rw [hds] at hhead ⊢
        simpa using hhead

/-- Digits do not go on with a mark between the parts of a moment. -/
lemma after?_of_digits (mark : Char) (hmark : Text.isAsciiDigit mark = false)
    (h : ∀ c ∈ ds, Text.isAsciiDigit c = true) : Text.after? [mark] ds = none := by
  rw [Option.eq_none_iff_forall_ne_some]
  intro rest hrest
  rw [Text.after?_eq_some_iff] at hrest
  have := h mark (by simp [hrest])
  simp [hmark] at this

/-- Two digits leave digits. -/
lemma digits_of_twoDigits? (h : ∀ c ∈ ds, Text.isAsciiDigit c = true) {n : Nat} {rest : Text}
    (htwo : twoDigits? ds = some (n, rest)) : ∀ c ∈ rest, Text.isAsciiDigit c = true := by
  unfold twoDigits? at htwo
  split at htwo
  · split_ifs at htwo
    simp only [Option.some.injEq, Prod.mk.injEq] at htwo
    obtain ⟨-, rfl⟩ := htwo
    simp only [List.forall_mem_cons] at h
    exact h.2.2
  · simp at htwo

/-- Digits alone are no moment. -/
lemma momentRead?_of_digits (h : ∀ c ∈ ds, Text.isAsciiDigit c = true) :
    Moment.read? ds = none := by
  have hdate : Date.take? ds = none := by
    cases htwo : twoDigits? ds with
    | none => simp [Date.take?, htwo]
    | some p =>
      obtain ⟨high, rest⟩ := p
      have hrest := digits_of_twoDigits? h htwo
      cases hnext : twoDigits? rest with
      | none => simp [Date.take?, htwo, hnext]
      | some q =>
        have hmark := after?_of_digits '-' (by decide) (digits_of_twoDigits? hrest hnext)
        simp [Date.take?, htwo, hnext, hmark]
  have htime : Time.take? ds = none := by
    cases htwo : twoDigits? ds with
    | none => simp [Time.take?, htwo]
    | some p =>
      have hmark := after?_of_digits ':' (by decide) (digits_of_twoDigits? h htwo)
      simp [Time.take?, htwo, hmark]
  simp [Moment.read?, hdate, htime]

/-- Digits without underscores are read as they are. -/
lemma digitsOf?_of_digits (h : ∀ c ∈ ds, Text.isAsciiDigit c = true) (hne : ds ≠ []) :
    digitsOf? Text.isAsciiDigit ds = some ds := by
  have hmark : '_' ∉ ds := fun hmem => absurd (h _ hmem) (by decide)
  simpa [digitsOf?, Text.split_of_not_mem hmark, hne] using h

/-- Digits have no sign. -/
lemma readSign_of_digits (h : ∀ c ∈ ds, Text.isAsciiDigit c = true) :
    readSign ds = (false, ds) := by
  unfold readSign
  split
  · exact absurd (h '-' List.mem_cons_self) (by decide)
  · exact absurd (h '+' List.mem_cons_self) (by decide)
  · rfl

/-- Digits alone have no fraction. -/
lemma isReal_of_digits (h : ∀ c ∈ ds, Text.isAsciiDigit c = true) : isReal ds = false := by
  have hword : ∀ {w : Text}, 'n' ∈ w → (ds == w) = false := by
    intro w hn
    refine beq_eq_false_iff_ne.mpr ?_
    rintro rfl
    exact absurd (h _ hn) (by decide)
  have hwhole : (ds.takeWhile fun c => Text.isAsciiDigit c || c == '_') = ds :=
    List.takeWhile_eq_self_iff.mpr fun c hc => by simp [h c hc]
  have hinf : (ds == "inf".toList) = false := hword (by decide)
  have hnan : (ds == "nan".toList) = false := hword (by decide)
  simp only [isReal, hinf, hnan, hwhole, List.drop_length, Bool.and_false, Bool.or_self]

/-- Digits alone are a decimal number. -/
lemma integer?_of_digits (h : ∀ c ∈ ds, Text.isAsciiDigit c = true) :
    integer? ds = (decimalDigits? ds).bind fun ds => int64? (Text.decimalNumber ds) := by
  unfold integer?
  split
  · exact absurd (h 'x' (by simp)) (by decide)
  · exact absurd (h 'o' (by simp)) (by decide)
  · exact absurd (h 'b' (by simp)) (by decide)
  · rw [readSign_of_digits h]
    rfl

/-- A written number is read as its digits. -/
lemma decimalDigits?_ofNat (n : Nat) : decimalDigits? (Text.ofNat n) = some (Text.ofNat n) := by
  have hdigits : ∀ c ∈ Text.ofNat n, Text.isAsciiDigit c = true :=
    fun _ => isAsciiDigit_of_mem_ofNat
  rw [decimalDigits?, digitsOf?_of_digits hdigits Nat.toDigits_ne_nil, Option.filter_some]
  refine if_pos ?_
  rcases head?_ofNat n with hlength | hhead
  · simp [hlength]
  · simp [hhead]

/-- The digits of a whole number of 64 bits are read as the number. -/
lemma valueOfWord?_ofNat {n : Nat} (hn : isInt64 n = true) :
    valueOfWord? (Text.ofNat n) = some (.integer n) := by
  have hdigits : ∀ c ∈ Text.ofNat n, Text.isAsciiDigit c = true :=
    fun _ => isAsciiDigit_of_mem_ofNat
  have hword : ∀ {w : Text}, 'e' ∈ w → Text.ofNat n ≠ w := by
    rintro w he rfl
    exact absurd (hdigits 'e' he) (by decide)
  have hinteger : integer? (Text.ofNat n) = some (.integer n) := by
    rw [integer?_of_digits hdigits, decimalDigits?_ofNat, Option.bind_some, decimalNumber_ofNat]
    exact if_pos hn
  rw [valueOfWord?, if_neg (hword (by decide)), if_neg (hword (by decide)),
    readSign_of_digits hdigits, isReal_of_digits hdigits, momentRead?_of_digits hdigits, hinteger]
  rfl

end Digits

end Toml

end Gloss
