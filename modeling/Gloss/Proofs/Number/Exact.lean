import Gloss.Number.Binary64
import Mathlib.Algebra.Group.Nat.Defs
import Mathlib.Data.Nat.Log

/-!
# Whole numbers in binary floating point

A significand of 53 bits holds every whole number up to `2 ^ 53`. So such a number is not changed
when it is rounded to binary floating point, whatever fraction it is written as.

## Main results

* `floorLog2_mul`: the power of two of a fraction that is a whole number.
* `Binary64.exists_ofRatio?_mul`: whole numbers up to `2 ^ 53` are kept.
-/

set_option relaxedAutoImplicit false
set_option autoImplicit false

namespace Gloss

variable {k m n : Nat}

/-- A fraction that is a whole number is rounded to that number. -/
lemma roundRatio_mul (k : Nat) (hm : 0 < m) : roundRatio (k * m) m = k := by
  simp [roundRatio, Nat.mul_div_cancel k hm, hm]

/-- The logarithm of a product is the sum of the logarithms, or one more. -/
lemma log2_mul (hk : k ≠ 0) (hm : m ≠ 0) :
    (k * m).log2 = k.log2 + m.log2 ∨ (k * m).log2 = k.log2 + m.log2 + 1 := by
  have hkm : k * m ≠ 0 := Nat.mul_ne_zero hk hm
  have hlow : 2 ^ (k.log2 + m.log2) ≤ k * m := by
    rw [Nat.pow_add]
    exact Nat.mul_le_mul (Nat.log2_self_le hk) (Nat.log2_self_le hm)
  have hhigh : k * m < 2 ^ (k.log2 + m.log2 + 2) := by
    have hsplit : k.log2 + m.log2 + 2 = (k.log2 + 1) + (m.log2 + 1) := by omega
    rw [hsplit, Nat.pow_add]
    exact Nat.mul_lt_mul'' Nat.lt_log2_self Nat.lt_log2_self
  have hle := (Nat.le_log2 hkm).mpr hlow
  have hlt := (Nat.log2_lt hkm).mpr hhigh
  omega

/-- A power of two is at most a fraction that is a whole number iff it is at most that number. -/
lemma mul_pow_le_mul_iff (hk : k ≠ 0) (hm : 0 < m) : m * 2 ^ n ≤ k * m ↔ n ≤ k.log2 := by
  rw [Nat.mul_comm k m, Nat.mul_le_mul_left_iff hm, ← Nat.le_log2 hk]

/-- **The power of two of a whole number** that is written as a fraction is that of the number.

**Proof sketch.** The logarithm of a product is the sum of the logarithms or one more, so the guess
is right or one too large. A comparison with the power of two tells which. -/
lemma floorLog2_mul (hk : k ≠ 0) (hm : 0 < m) : floorLog2 (k * m) m = k.log2 := by
  -- The guess is the logarithm of the number or one more, and then it is too large.
  rcases log2_mul hk hm.ne' with hlog | hlog
  · have hguess : ((k * m).log2 : Int) - m.log2 = .ofNat k.log2 := by
      rw [hlog]
      simp
    have hle : m * Nat.pow 2 k.log2 ≤ k * m := (mul_pow_le_mul_iff hk hm).mpr (Nat.le_refl _)
    simp only [floorLog2, hguess, hle, decide_true, if_true]
    rfl
  · have hguess : ((k * m).log2 : Int) - m.log2 = .ofNat (k.log2 + 1) := by
      rw [hlog]
      simp
      omega
    have hlt : ¬ m * Nat.pow 2 (k.log2 + 1) ≤ k * m := fun hle =>
      absurd ((mul_pow_le_mul_iff hk hm).mp hle) (by omega)
    simp only [floorLog2, hguess, hlt, decide_false, Bool.false_eq_true, if_false]
    simp

namespace Binary64

section

variable {negative : Bool} {num den : Nat}

/-- A fraction whose significand has to be shifted up. -/
lemma ofRatio?_of_ofNat (hnum : num ≠ 0)
    (hexponent : max (floorLog2 num den - 52) (-1074) = .ofNat n)
    (hlt : roundRatio num (den * 2 ^ n) < 2 ^ 53) (hn : n ≤ 971) :
    ofRatio? negative num den =
      some { negative := negative
             significand := roundRatio num (den * 2 ^ n)
             exponent := n } := by
  have hsmall : ¬ roundRatio num (den * Nat.pow 2 n) = Nat.pow 2 53 := Nat.ne_of_lt hlt
  have hle : ¬ 971 < Int.ofNat n := by
    rw [Int.ofNat_eq_natCast]
    omega
  unfold ofRatio?
  simp only [hexponent, if_neg hnum, if_neg hsmall, if_neg hle]
  rfl

/-- A fraction whose significand has to be shifted down. -/
lemma ofRatio?_of_negSucc (hnum : num ≠ 0)
    (hexponent : max (floorLog2 num den - 52) (-1074) = .negSucc n)
    (hlt : roundRatio (num * 2 ^ (n + 1)) den < 2 ^ 53) :
    ofRatio? negative num den =
      some { negative := negative
             significand := roundRatio (num * 2 ^ (n + 1)) den
             exponent := .negSucc n } := by
  have hsmall : ¬ roundRatio (num * Nat.pow 2 (n + 1)) den = Nat.pow 2 53 := Nat.ne_of_lt hlt
  have hle : ¬ 971 < Int.negSucc n := by omega
  unfold ofRatio?
  simp only [hexponent, if_neg hnum, if_neg hsmall, if_neg hle]
  rfl

end

/-- The integer of a significand whose binary digits behind the point are zeros. -/
lemma toInt?_of_negSucc (k n : Nat) :
    toInt? { negative := false, significand := k * 2 ^ (n + 1), exponent := .negSucc n } =
      some (k : Int) := by
  have hmod : k * 2 ^ (n + 1) % Nat.pow 2 (n + 1) = 0 := Nat.mul_mod_left k _
  have hdiv : k * 2 ^ (n + 1) / Nat.pow 2 (n + 1) = k := Nat.mul_div_cancel k (Nat.two_pow_pos _)
  simp only [toInt?, hmod, hdiv, if_true]
  rfl

/-- Whole numbers below `2 ^ 52` get more binary digits behind the point, which are zeros. -/
lemma exists_ofRatio?_mul_of_lt (hk : k ≠ 0) (hlog : k.log2 < 52) (hm : 0 < m) :
    ∃ x, ofRatio? false (k * m) m = some x ∧ x.toInt? = some (k : Int) := by
  obtain ⟨shift, hshift⟩ : ∃ shift, 52 = k.log2 + (shift + 1) := ⟨51 - k.log2, by omega⟩
  have hexponent : max (floorLog2 (k * m) m - 52) (-1074) = .negSucc shift := by
    rw [floorLog2_mul hk hm]
    omega
  have hround : roundRatio (k * m * 2 ^ (shift + 1)) m = k * 2 ^ (shift + 1) := by
    rw [Nat.mul_right_comm, roundRatio_mul _ hm]
  have hlt : k * 2 ^ (shift + 1) < 2 ^ 53 := by
    have hsum : 53 = (k.log2 + 1) + (shift + 1) := by omega
    rw [hsum, Nat.pow_add 2 (k.log2 + 1)]
    exact Nat.mul_lt_mul_of_pos_right Nat.lt_log2_self (Nat.two_pow_pos _)
  refine ⟨_, ofRatio?_of_negSucc (Nat.mul_ne_zero hk hm.ne') hexponent (hround ▸ hlt), ?_⟩
  rw [hround, toInt?_of_negSucc]

/-- Whole numbers with 53 binary digits or more are kept if their digits behind the first 53 are
zeros. -/
lemma exists_ofRatio?_mul_of_le (shift : Nat) (hk : k ≠ 0) (hlog : k.log2 = 52 + shift)
    (hshift : shift ≤ 971) (hdvd : 2 ^ shift ∣ k) (hm : 0 < m) :
    ∃ x, ofRatio? false (k * m) m = some x ∧ x.toInt? = some (k : Int) := by
  obtain ⟨digits, rfl⟩ := hdvd
  have hexponent : max (floorLog2 (2 ^ shift * digits * m) m - 52) (-1074) = .ofNat shift := by
    rw [floorLog2_mul hk hm, hlog, Int.ofNat_eq_natCast]
    omega
  have hround : roundRatio (2 ^ shift * digits * m) (m * 2 ^ shift) = digits := by
    have hcomm : 2 ^ shift * digits * m = digits * (m * 2 ^ shift) := by
      rw [Nat.mul_comm (2 ^ shift), Nat.mul_assoc, Nat.mul_comm (2 ^ shift)]
    rw [hcomm, roundRatio_mul _ (Nat.mul_pos hm (Nat.two_pow_pos _))]
  have hlt : digits < 2 ^ 53 := by
    have hself := Nat.lt_log2_self (n := 2 ^ shift * digits)
    have hsum : 52 + shift + 1 = shift + 53 := by omega
    rw [hlog, hsum, Nat.pow_add] at hself
    exact Nat.lt_of_mul_lt_mul_left hself
  refine ⟨_, ofRatio?_of_ofNat (Nat.mul_ne_zero hk hm.ne') hexponent (hround.symm ▸ hlt) hshift, ?_⟩
  rw [hround, Nat.mul_comm (2 ^ shift)]
  rfl

/-- **Whole numbers up to `2 ^ 53` are kept** by rounding, whatever fraction they are written as. -/
lemma exists_ofRatio?_mul (hk : k ≤ 2 ^ 53) (hm : 0 < m) :
    ∃ x, ofRatio? false (k * m) m = some x ∧ x.toInt? = some (k : Int) := by
  by_cases hzero : k = 0
  · subst hzero
    refine ⟨zero false, ?_, by decide +kernel⟩
    rw [ofRatio?, if_pos (Nat.zero_mul m)]
  rcases Nat.lt_or_ge k.log2 52 with hlog | hlog
  · exact exists_ofRatio?_mul_of_lt hzero hlog hm
  rcases Nat.eq_or_lt_of_le hk with rfl | hlt
  · exact exists_ofRatio?_mul_of_le 1 hzero (Nat.log2_two_pow) (by decide) (by decide) hm
  · have hupper : k.log2 < 53 := (Nat.log2_lt hzero).mpr hlt
    exact exists_ofRatio?_mul_of_le 0 hzero (by omega) (by decide) (by simp) hm

end Binary64

end Gloss
