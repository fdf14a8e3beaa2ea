import Gloss.Proofs.Annotate.Default
import Gloss.Proofs.Number.Exact
import Gloss.Proofs.Toml.Lexeme

/-!
# Spellings of whole numbers

A whole number can be written in many ways: with zeros in front, with a point and zeros behind it,
or in hexadecimal digits. The numeral that is read is the number itself, as long as it is at most `2
^ 53`. So an accessor may give the type that it forces by any spelling of the value of a constant.

## Main definitions

* `Spells`: a text is a spelling of a whole number.

## Main results

* `exists_numeral?_of_spells`: a spelling is read as the number.
* `Context.forceType_eq_of_spells`: the type that a spelling forces is the one listed for the
  number.
-/

set_option relaxedAutoImplicit false
set_option autoImplicit false

namespace Gloss

/-- The text spells the whole number `k`. -/
inductive Spells (k : Nat) : Text → Prop
  /-- Decimal digits, with any number of zeros in front. -/
  | whole (zeros : Nat) : Spells k (List.replicate zeros '0' ++ Text.ofNat k)
  /-- Such digits, a point and any number of zeros. -/
  | pointed (zeros places : Nat) :
    Spells k (List.replicate zeros '0' ++ Text.ofNat k ++ '.' :: List.replicate places '0')
  /-- Hexadecimal digits of either case, with any number of zeros in front, behind `0x` or `0X`. -/
  | hexadecimal (zeros : Nat) (digits : Text) {x : Char} (hx : x = 'x' ∨ x = 'X')
    (hdigits : Text.lowerAscii digits = List.replicate zeros '0' ++ Nat.toDigits 16 k) :
    Spells k ('0' :: x :: digits)

variable {k : Nat} {digits : Text}

/-! ## Decimal digits -/

/-- Zeros in front do not change a decimal number. -/
lemma decimalNumber_zeros_append (zeros : Nat) (t : Text) :
    Text.decimalNumber (List.replicate zeros '0' ++ t) = Text.decimalNumber t := by
  induction zeros with
  | zero => rfl
  | succ zeros ih => exact ih

/-- Every zero at the end makes the number ten times as large. -/
lemma decimalNumber_append_zeros (t : Text) (places : Nat) :
    Text.decimalNumber (t ++ List.replicate places '0') = Text.decimalNumber t * 10 ^ places := by
  induction places with
  | zero => simp
  | succ places ih =>
    rw [List.replicate_succ', ← List.append_assoc, Nat.pow_succ, ← Nat.mul_assoc, ← ih]
    simp [Text.decimalNumber, Nat.mul_comm]

/-- A text that does not start with a sign has none. -/
lemma readSign_of_head {t : Text} (hminus : t.head? ≠ some '-') (hplus : t.head? ≠ some '+') :
    readSign t = (false, t) := by
  unfold readSign
  split
  · exact absurd rfl hminus
  · exact absurd rfl hplus
  · rfl

/-- Digits and a fraction are read as the digits of both, each of those in the fraction counting a
tenth of the one before. -/
lemma Decimal.read?_append (hne : digits ≠ []) (h : ∀ c ∈ digits, Text.isAsciiDigit c = true)
    {rest fraction : Text} (hhead : ∀ c ∈ rest.head?, Text.isAsciiDigit c = false)
    (hfraction : readFraction rest = (fraction, [])) :
    Decimal.read? (digits ++ rest) =
      some { negative := false
             digits := Text.decimalNumber (digits ++ fraction)
             exponent := 0 - fraction.length } := by
  have hfirst : ∀ d, Text.isAsciiDigit d = false → (digits ++ rest).head? ≠ some d := by
    intro d hd hhead
    rw [List.head?_append_of_ne_nil _ hne] at hhead
    simp [h d (List.mem_of_head? hhead)] at hd
  have hsign : readSign (digits ++ rest) = (false, digits ++ rest) :=
    readSign_of_head (hfirst '-' (by decide)) (hfirst '+' (by decide))
  have hwhole : (digits ++ rest).takeWhile Text.isAsciiDigit = digits := by
    rw [List.takeWhile_append_of_pos h]
    cases rest with
    | nil => simp
    | cons c rest => simp [hhead c rfl]
  simp [Decimal.read?, hsign, hwhole, hfraction, readExponent?, hne]

/-- **A number up to `2 ^ 53` with zeros behind the point** is read as the number.

**Proof sketch.** The number has at most 16 digits before the point, so it is neither too large nor
too small to be worked out. The ratio is then that of the number to one, with a power of ten on both
sides, which is exact up to `2 ^ 53`. -/
lemma Decimal.exists_toBinary64? (hk : k ≤ 2 ^ 53) (places : Nat) :
    ∃ x, Decimal.toBinary64?
        { negative := false, digits := k * 10 ^ places, exponent := 0 - places } =
      some x ∧ x.toInt? = some (k : Int) := by
  by_cases hzero : k = 0
  · subst hzero
    exact ⟨Binary64.zero false, by simp [Decimal.toBinary64?], by decide +kernel⟩
  have hpos : 0 < 10 ^ places := Nat.pow_pos (by decide)
  have hdigits : k * 10 ^ places ≠ 0 := Nat.mul_ne_zero hzero hpos.ne'
  -- The number has at most 16 digits before the point and one at least.
  have hupper : (Text.ofNat (k * 10 ^ places)).length ≤ 16 + places := by
    refine (Nat.length_toDigits_le_iff (by decide) (by omega)).mpr ?_
    rw [Nat.pow_add]
    exact Nat.mul_lt_mul_of_pos_right (Nat.lt_of_le_of_lt hk (by decide)) hpos
  have hlower : places ≤ (Text.ofNat (k * 10 ^ places)).length := by
    by_contra hshort
    have hlt := (Nat.length_toDigits_le_iff (b := 10) (n := k * 10 ^ places)
      (by decide) (by omega)).mp
      (Nat.le_of_not_le hshort)
    exact absurd hlt (Nat.not_lt.mpr (Nat.le_mul_of_pos_left _ (Nat.pos_of_ne_zero hzero)))
  have hrange : ¬ (k * 10 ^ places = 0 ∨
      (0 - places : Int) + (Text.ofNat (k * 10 ^ places)).length < -400) := by omega
  have hlimit : ¬ 400 < (0 - places : Int) + (Text.ofNat (k * 10 ^ places)).length := by omega
  unfold Decimal.toBinary64?
  simp only [if_neg hrange, if_neg hlimit]
  cases places with
  | zero =>
    have hexponent : (0 : Int) - (0 : Nat) = .ofNat 0 := rfl
    simp only [hexponent, Nat.pow_zero, Nat.mul_one]
    exact Binary64.exists_ofRatio?_mul hk Nat.one_pos
  | succ places =>
    have hexponent : (0 : Int) - (places + 1 : Nat) = .negSucc places := by omega
    simp only [hexponent]
    exact Binary64.exists_ofRatio?_mul hk hpos

/-! ## Hexadecimal digits -/

/-- A digit has the same value in either case. -/
lemma hexDigit?_lowerAsciiChar (c : Char) :
    Text.hexDigit? (Text.lowerAsciiChar c) = Text.hexDigit? c := by
  have hascii : ∀ n < 128,
      Text.hexDigit? (Text.lowerAsciiChar (Char.ofNat n)) = Text.hexDigit? (Char.ofNat n) := by
    decide
  by_cases hc : c.toNat < 128
  · simpa using hascii c.toNat hc
  · have hkept : Text.lowerAsciiChar c = c := by
      refine if_neg ?_
      simp only [Bool.and_eq_true, decide_eq_true_eq, not_and]
      intro _ hle
      exact hc (Nat.lt_of_le_of_lt hle (by decide))
    rw [hkept]

/-- The case of the digits does not change a hexadecimal number. -/
lemma hexNumber?_lowerAscii (digits : Text) :
    Text.hexNumber? (Text.lowerAscii digits) = Text.hexNumber? digits := by
  simp only [Text.hexNumber?, Text.lowerAscii, List.foldlM_map, hexDigit?_lowerAsciiChar]

/-- Zeros in front do not change a hexadecimal number. -/
lemma hexNumber?_zeros_append (zeros : Nat) (t : Text) :
    Text.hexNumber? (List.replicate zeros '0' ++ t) = Text.hexNumber? t := by
  induction zeros with
  | zero => rfl
  | succ zeros ih => exact ih

/-- The hexadecimal digits of a number stand for it. -/
lemma hexNumber?_toDigits (k : Nat) : Text.hexNumber? (Nat.toDigits 16 k) = some k := by
  have hdigit : ∀ d < 16, Text.hexDigit? d.digitChar = some d := by decide
  induction k using Nat.strongRecOn with
  | _ k ih =>
    by_cases hk : k < 16
    · rw [Nat.toDigits_of_lt_base hk]
      simp [Text.hexNumber?, hdigit k hk]
    · have hread := ih (k / 16) (by omega)
      rw [Nat.toDigits_of_base_le (by decide) (by omega)]
      unfold Text.hexNumber? at hread ⊢
      simp only [List.foldlM_append, hread, List.foldlM_cons, List.foldlM_nil,
        hdigit _ (Nat.mod_lt k (by decide))]
      simp
      omega

/-- All digits of a number are digits. -/
lemma isSome_hexDigit?_of_mem {start n : Nat}
    (h : digits.foldlM (fun n c => (Text.hexDigit? c).map fun d => 16 * n + d) start = some n) :
    ∀ c ∈ digits, (Text.hexDigit? c).isSome = true := by
  induction digits generalizing start with
  | nil => simp
  | cons c digits ih =>
    rw [List.foldlM_cons] at h
    cases hc : Text.hexDigit? c with
    | none => simp [hc] at h
    | some d =>
      simp only [hc, Option.map_some, Option.bind_eq_bind, Option.bind_some] at h
      exact List.forall_mem_cons.mpr ⟨by simp [hc], ih h⟩

/-- Hexadecimal digits of either case stand for the number. -/
lemma hexNumber?_of_lowerAscii {zeros : Nat}
    (h : Text.lowerAscii digits = List.replicate zeros '0' ++ Nat.toDigits 16 k) :
    Text.hexNumber? digits = some k := by
  rw [← hexNumber?_lowerAscii, h, hexNumber?_zeros_append, hexNumber?_toDigits]

/-- Hexadecimal digits of either case are read as the number. -/
lemma readHex?_of_lowerAscii (hk : isInt64 k = true) {zeros : Nat}
    (h : Text.lowerAscii digits = List.replicate zeros '0' ++ Nat.toDigits 16 k) :
    readHex? digits = some (k : Int) := by
  have hnumber := hexNumber?_of_lowerAscii h
  have hne : digits ≠ [] := by
    rintro rfl
    simp [Text.lowerAscii, Nat.toDigits_ne_nil] at h
  have hfirst : ∀ d, Text.hexDigit? d = none → digits.head? ≠ some d := by
    intro d hd hhead
    simpa [hd] using isSome_hexDigit?_of_mem hnumber d (List.mem_of_head? hhead)
  have hsign := readSign_of_head (hfirst '-' (by decide)) (hfirst '+' (by decide))
  have hempty : ¬ digits.isEmpty = true := by simp [hne]
  rw [readHex?, hsign]
  refine (if_neg hempty).trans ?_
  rw [hnumber, Option.bind_some]
  exact if_pos hk

/-! ## Spellings -/

/-- Decimal digits behind zeros are digits. -/
lemma isAsciiDigit_of_mem_zeros_append {zeros : Nat} :
    ∀ c ∈ List.replicate zeros '0' ++ Text.ofNat k, Text.isAsciiDigit c = true := by
  intro c hc
  rcases List.mem_append.mp hc with hzero | hdigit
  · rw [List.eq_of_mem_replicate hzero]
    decide
  · exact Toml.isAsciiDigit_of_mem_ofNat hdigit

/-- Digits with zeros before them and behind the point are read as the number. -/
lemma exists_decimal_of_zeros (hk : k ≤ 2 ^ 53) (zeros places : Nat) (rest : Text)
    (hhead : ∀ c ∈ rest.head?, Text.isAsciiDigit c = false)
    (hrest : readFraction rest = (List.replicate places '0', [])) :
    ∃ x, (Decimal.read? (List.replicate zeros '0' ++ Text.ofNat k ++ rest)).bind
      Decimal.toBinary64? =
      some x ∧ x.toInt? = some (k : Int) := by
  have hne : List.replicate zeros '0' ++ Text.ofNat k ≠ [] :=
    List.append_ne_nil_of_right_ne_nil _ Nat.toDigits_ne_nil
  rw [Decimal.read?_append hne isAsciiDigit_of_mem_zeros_append hhead hrest, Option.bind_some,
    decimalNumber_append_zeros, decimalNumber_zeros_append, Toml.decimalNumber_ofNat,
    List.length_replicate]
  exact Decimal.exists_toBinary64? hk places

/-- The integers of 64 bits reach further than `2 ^ 53`. -/
lemma lt_pow_of_le (hk : k ≤ 2 ^ 53) : (k : Int) < (Nat.pow 2 63 : Int) :=
  Int.ofNat_lt.mpr (Nat.lt_of_le_of_lt hk (by decide))

/-- Small numbers are in the range of integers. -/
lemma isInt64_of_le (hk : k ≤ 2 ^ 53) : isInt64 (k : Int) = true := by
  have hlt := lt_pow_of_le hk
  rw [isInt64, Bool.and_eq_true, decide_eq_true_eq, decide_eq_true_eq]
  generalize (Nat.pow 2 63 : Int) = bound at hlt ⊢
  omega

/-- Small numbers are not clamped. -/
lemma clampInt64_of_le (hk : k ≤ 2 ^ 53) : Context.clampInt64 k = k := by
  have hlt := lt_pow_of_le hk
  rw [Context.clampInt64]
  generalize (Nat.pow 2 63 : Int) = bound at hlt ⊢
  omega

/-- An argument without an `x` of either case is a decimal numeral. -/
lemma numeral?_eq_decimal {argument : Text} (h : ∀ c ∈ argument.trim, c ≠ 'x' ∧ c ≠ 'X') :
    numeral? argument = (Decimal.read? argument.trim).bind Decimal.toBinary64? := by
  unfold numeral?
  split
  · next heq => exact absurd rfl (h 'x' (by simp [heq])).1
  · next heq => exact absurd rfl (h 'X' (by simp [heq])).2
  · rfl

/-- An argument behind `0x` or `0X` is a hexadecimal numeral. -/
lemma numeral?_eq_hexadecimal {argument : Text} {x : Char} (hx : x = 'x' ∨ x = 'X')
    (h : argument.trim = '0' :: x :: digits) :
    numeral? argument = (readHex? digits).bind Binary64.ofInt? := by
  rcases hx with rfl | rfl
  · rw [numeral?, h]
    rfl
  · rw [numeral?, h]
    rfl

/-- A character of a decimal spelling is a digit or a point. -/
lemma ne_of_isAsciiDigit {c : Char} (h : Text.isAsciiDigit c = true ∨ c = '.') :
    c ≠ 'x' ∧ c ≠ 'X' := by
  rcases h with h | rfl
  · constructor
    all_goals
      rintro rfl
      exact absurd h (by decide)
  · decide

/-- **A spelling of a number up to `2 ^ 53` is read as the number.**

**Proof sketch.** By the kind of the spelling. Decimal digits, with zeros in front and zeros behind
a point, are read as a decimal fraction; digits behind `0x` are read as a whole number. Both are
exact up to `2 ^ 53`. -/
lemma exists_numeral?_of_spells (hk : k ≤ 2 ^ 53) {argument : Text} (h : Spells k argument.trim) :
    ∃ x, numeral? argument = some x ∧ x.toInt? = some (k : Int) := by
  generalize htrim : argument.trim = t at h
  cases h with
  | whole zeros =>
    rw [numeral?_eq_decimal, htrim]
    · simpa using exists_decimal_of_zeros hk zeros 0 [] (by simp) rfl
    · rw [htrim]
      exact fun c hc => ne_of_isAsciiDigit (.inl (isAsciiDigit_of_mem_zeros_append c hc))
  | pointed zeros places =>
    have hzeros : ∀ c ∈ List.replicate places '0', Text.isAsciiDigit c = true := fun c hc => by
      rw [List.eq_of_mem_replicate hc]
      decide
    rw [numeral?_eq_decimal, htrim]
    · refine exists_decimal_of_zeros hk zeros places _ (by simp; decide) ?_
      simp [readFraction, List.takeWhile_eq_self_iff.mpr hzeros]
    · rw [htrim]
      intro c hc
      rcases List.mem_append.mp hc with hc | hc
      · exact ne_of_isAsciiDigit (.inl (isAsciiDigit_of_mem_zeros_append c hc))
      · exact ne_of_isAsciiDigit ((List.mem_cons.mp hc).symm.imp_left (hzeros c))
  | hexadecimal zeros digits hx hdigits =>
    rw [numeral?_eq_hexadecimal hx htrim, readHex?_of_lowerAscii (isInt64_of_le hk) hdigits,
      Option.bind_some, Binary64.ofInt?, decide_eq_false (Int.not_lt.mpr (Int.natCast_nonneg k))]
    simpa using Binary64.exists_ofRatio?_mul hk Nat.one_pos

/-- A digit is no white space. -/
lemma isBlank_of_isSome_hexDigit? {c : Char} (h : (Text.hexDigit? c).isSome = true) :
    Text.isBlank c = false := by
  have hascii : ∀ n < 128, (Text.hexDigit? (Char.ofNat n)).isSome = true →
      Text.isBlank (Char.ofNat n) = false := by decide
  have hc : c.toNat < 128 := by
    unfold Text.hexDigit? at h
    split at h
    · next hle => exact Nat.lt_of_le_of_lt hle.2 (by decide)
    split at h
    · next hle => exact Nat.lt_of_le_of_lt hle.2 (by decide)
    split at h
    · next hle => exact Nat.lt_of_le_of_lt hle.2 (by decide)
    · simp at h
  simpa using hascii c.toNat hc (by simpa using h)

/-- A spelling starts and ends without white space. -/
lemma Spells.trim_append {before t after : Text} (h : Spells k t) (hbefore : Text.AllBlank before)
    (hafter : Text.AllBlank after) : (before ++ t ++ after).trim = t := by
  have hblank : ∀ c ∈ t, Text.isBlank c = false := by
    cases h with
    | whole zeros =>
      exact fun c hc => Text.isBlank_of_isAsciiDigit (isAsciiDigit_of_mem_zeros_append c hc)
    | pointed zeros places =>
      intro c hc
      rcases List.mem_append.mp hc with hc | hc
      · exact Text.isBlank_of_isAsciiDigit (isAsciiDigit_of_mem_zeros_append c hc)
      · rcases List.mem_cons.mp hc with rfl | hc
        · decide
        · rw [List.eq_of_mem_replicate hc]
          decide
    | hexadecimal zeros digits hx hdigits =>
      refine List.forall_mem_cons.mpr ⟨by decide, List.forall_mem_cons.mpr ⟨?_, ?_⟩⟩
      · rcases hx with rfl | rfl <;> decide
      · exact fun c hc => isBlank_of_isSome_hexDigit?
          (isSome_hexDigit?_of_mem (hexNumber?_of_lowerAscii hdigits) c hc)
  have hne : t ≠ [] := by
    cases h with
    | whole zeros => exact List.append_ne_nil_of_right_ne_nil _ Nat.toDigits_ne_nil
    | pointed zeros places => simp
    | hexadecimal zeros digits hx hdigits => simp
  exact Text.trim_append hbefore hafter (fun c hc => hblank c (List.mem_of_head? hc))
    (fun c hc => hblank c (List.mem_of_getLast? hc)) hne

/-- **A spelling of a number forces the type that is listed for the number.** This holds for every
context and every number up to `2 ^ 53`, with white space around the spelling, unless the spelling
is itself the name of a constant.

**Proof sketch.** White space is trimmed away, the spelling is no constant, and it is read as the
number, which is small enough to be looked up as it is. -/
theorem Context.forceType_eq_of_spells (ctx : Context) (hk : k ≤ 2 ^ 53) {t : Text} (h : Spells k t)
    (before after : Text) (hbefore : Text.AllBlank before) (hafter : Text.AllBlank after)
    (hkey : t ∉ ctx.types.force.map Prod.fst) :
    ctx.forceType (before ++ t ++ after) =
      (ctx.types.forceIndex.lookup (Text.ofNat k)).getD ctx.untyped := by
  have htrim := h.trim_append hbefore hafter
  obtain ⟨x, hx, hint⟩ := exists_numeral?_of_spells hk (htrim ▸ h)
  have hforce : ctx.types.force.lookup t = none := by
    rw [List.lookup_eq_none_iff]
    intro entry hentry
    rw [bne_iff_ne]
    rintro rfl
    exact hkey (List.mem_map_of_mem hentry)
  simp only [forceType, htrim, hforce, hx, hint, Option.bind_some, clampInt64_of_le hk]
  rfl

/-- With the default settings, the number two may have zeros around it, six may be hexadecimal, and
no type is listed for the largest number that is kept. -/
theorem Context.forceType_eq_of_spells_default :
    ∃ ctx, Context.ofSettings Settings.default = .ok ctx ∧
      ctx.forceType " 002.00\n".toList = "number".toList ∧
      ctx.forceType "\t0X0006".toList = "Vector".toList ∧
      ctx.forceType "9007199254740992.".toList = "any".toList := by
  obtain ⟨ctx, hctx⟩ := Context.exists_default
  obtain ⟨-, htypes, huntyped⟩ := Context.fields_of_ofSettings hctx
  have hkeys : ctx.types.force.map Prod.fst = Settings.default.types.force.map Prod.fst := by
    rw [htypes]
  have htwo := ctx.forceType_eq_of_spells (k := 2) (by decide) (.pointed 2 2) [' '] ['\n']
    (by simp [Text.AllBlank]; decide) (by simp [Text.AllBlank]; decide) (by rw [hkeys]; decide)
  have hsix := ctx.forceType_eq_of_spells (k := 6) (by decide)
    (.hexadecimal 3 "0006".toList (.inr rfl) (by decide)) ['\t'] []
      (by simp [Text.AllBlank]; decide)
    (by simp [Text.AllBlank]) (by rw [hkeys]; decide)
  have hlarge := ctx.forceType_eq_of_spells (k := 9007199254740992) (by decide) (.pointed 0 0) [] []
    (by simp [Text.AllBlank]) (by simp [Text.AllBlank]) (by rw [hkeys]; decide)
  rw [htypes, huntyped] at htwo hsix hlarge
  exact ⟨ctx, hctx, htwo, hsix, hlarge⟩

end Gloss
