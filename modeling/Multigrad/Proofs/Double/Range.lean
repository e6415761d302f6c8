import Multigrad.Proofs.Double.Nearest

/-!
# The range of doubles

A magnitude leaves the range from halfway between the largest double and the next power of two on.
The halfway point itself is a tie, and the even mantissa of the two is the one out of range.
Quotients of integers and integers as doubles fail there and nowhere else.
-/

namespace Multigrad

/-- Above an odd number ties are rounded up. -/
theorem Decimal.lt_roundDiv_iff {n d k : Nat} (hd : 0 < d) (hodd : k % 2 = 1) :
    k < roundDiv n d ↔ (2 * k + 1) * d ≤ 2 * n := by
  constructor
  · intro hlt
    by_contra hn
    exact hlt.not_ge (roundDiv_le (not_le.mp hn))
  · intro hn
    have hdivision := Nat.div_add_mod n d
    rw [Nat.add_mul, Nat.one_mul, Nat.mul_assoc, Nat.mul_comm k d] at hn
    have hle : k ≤ n / d := by
      rw [Nat.le_div_iff_mul_le hd, Nat.mul_comm]
      omega
    rcases Nat.eq_or_lt_of_le hle with heq | hlt
    · rw [← heq] at hdivision
      unfold roundDiv
      dsimp only
      rw [← heq, if_neg (by omega)]
      split <;> omega
    · exact hlt.trans_le (div_le_roundDiv n d)

namespace Double

/-- The least magnitude that is rounded out of the range. -/
def overflowBound : ℚ := (2 ^ 54 - 1) * 2 ^ (970 : ℤ)

theorem overflowBound_eq : overflowBound = (2 ^ 53 - 1 / 2) * 2 ^ (971 : ℤ) := by
  rw [overflowBound, show (971 : ℤ) = 970 + 1 from rfl, zpow_add_one₀ two_ne_zero]
  ring

theorem largest_lt_overflowBound : largest < overflowBound := by
  have hscale : (0 : ℚ) < 2 ^ (971 : ℤ) := by positivity
  rw [overflowBound_eq, largest]
  exact mul_lt_mul_of_pos_right (by norm_num) hscale

theorem overflowBound_lt : overflowBound < 2 ^ (1024 : ℤ) := by
  have hscale : (0 : ℚ) < 2 ^ (971 : ℤ) := by positivity
  calc overflowBound = (2 ^ 53 - 1 / 2) * 2 ^ (971 : ℤ) := overflowBound_eq
    _ < 2 ^ (53 : ℤ) * 2 ^ (971 : ℤ) := mul_lt_mul_of_pos_right (by norm_num) hscale
    _ = 2 ^ (1024 : ℤ) := (zpow_add₀ two_ne_zero 53 971).symm

theorem two_pow_le_overflowBound : (2 : ℚ) ^ (1023 : ℤ) ≤ overflowBound := by
  have hscale : (0 : ℚ) < 2 ^ (971 : ℤ) := by positivity
  calc (2 : ℚ) ^ (1023 : ℤ) = 2 ^ (52 : ℤ) * 2 ^ (971 : ℤ) := zpow_add₀ two_ne_zero 52 971
    _ ≤ (2 ^ 53 - 1 / 2) * 2 ^ (971 : ℤ) := mul_le_mul_of_nonneg_right (by norm_num) hscale.le
    _ = overflowBound := overflowBound_eq.symm

/-! ### Pairs out of range -/

theorem Rounded.outOfRange_iff {q : ℚ} {mantissa : Nat} {exponent : ℤ}
    (hrounded : Rounded q mantissa exponent) :
    outOfRange mantissa exponent = true ↔ 971 < (carry mantissa exponent).2 := by
  constructor
  · intro hout
    exact of_decide_eq_true (Bool.and_eq_true _ _ ▸ hout).2
  · intro hlt
    by_contra hin
    exact hlt.not_ge (hrounded.carry_le_of_inRange (Bool.eq_false_iff.mpr hin))

theorem carry_exponent_le (mantissa : Nat) (exponent : ℤ) :
    exponent ≤ (carry mantissa exponent).2 ∧ (carry mantissa exponent).2 ≤ exponent + 1 := by
  unfold carry
  split <;> dsimp only <;> omega

variable {numerator denominator : Nat}

/-- At the largest exponent the mantissa decides. -/
theorem mantissa_full_iff (hden : 0 < denominator) :
    2 ^ 53 - 1 < Decimal.roundDiv (scaled numerator denominator 971).1
        (scaled numerator denominator 971).2 ↔
      overflowBound ≤ numerator / denominator := by
  have hpos : (0 : ℚ) < (scaled numerator denominator 971).2 := by
    exact_mod_cast scaled_pos numerator hden 971
  have hscale : (0 : ℚ) < 2 ^ (971 : ℤ) := by positivity
  rw [Decimal.lt_roundDiv_iff (scaled_pos numerator hden 971) (by decide), overflowBound_eq,
    ← le_div_iff₀ hscale, ← scaled_eq, le_div_iff₀ hpos]
  rw [← @Nat.cast_le ℚ]
  push_cast
  constructor <;> intro hle <;> linarith

theorem outOfRange_nearest_iff (numerator : Nat) (hden : 0 < denominator) :
    outOfRange (nearest numerator denominator).1 (nearest numerator denominator).2 = true ↔
      overflowBound ≤ numerator / denominator := by
  have hrounded := rounded_nearest numerator hden
  rw [hrounded.outOfRange_iff]
  obtain ⟨hlow, htop⟩ := carry_exponent_le (nearest numerator denominator).1
    (nearest numerator denominator).2
  rcases lt_trichotomy (nearest numerator denominator).2 971 with hless | hequal | hmore
  · have hsmall : (numerator : ℚ) / denominator < overflowBound :=
      calc (numerator : ℚ) / denominator
          < 2 ^ ((nearest numerator denominator).2 + 53) := hrounded.lt_top
        _ ≤ 2 ^ (1023 : ℤ) := zpow_le_zpow_right₀ one_le_two (by omega)
        _ ≤ overflowBound := two_pow_le_overflowBound
    exact iff_of_false (by omega) hsmall.not_ge
  · -- Whether the mantissa becomes the next power of two is left open by the exponent.
    have hnumerator : numerator ≠ 0 := by
      rintro rfl
      cases hequal
    have hexponent := congrArg Prod.snd (nearest_eq denominator hnumerator)
    have hmantissa := congrArg Prod.fst (nearest_eq denominator hnumerator)
    dsimp only at hexponent hmantissa
    rw [← hexponent, hequal] at hmantissa
    rw [← mantissa_full_iff hden, ← hmantissa, hequal]
    have hle := hrounded.mantissa_le
    unfold carry
    split
    · case isTrue hfull => exact iff_of_true (by dsimp only; omega) (by rw [hfull]; decide)
    · case isFalse hfull =>
      rw [Nat.pow_eq] at hfull
      exact iff_of_false (by dsimp only; omega) (by omega)
  · have hlarge : overflowBound ≤ (numerator : ℚ) / denominator :=
      calc overflowBound ≤ 2 ^ (1024 : ℤ) := overflowBound_lt.le
        _ ≤ 2 ^ ((nearest numerator denominator).2 + 52) :=
            zpow_le_zpow_right₀ one_le_two (by omega)
        _ ≤ numerator / denominator := hrounded.normal.resolve_right (by omega)
    exact iff_of_true (by omega) hlarge

/-! ### Quotients and integers -/

theorem natAbs_ratio (a b : ℤ) : (a.natAbs : ℚ) / b.natAbs = |(a : ℚ) / b| := by
  rw [Nat.cast_natAbs, Nat.cast_natAbs, Int.cast_abs, Int.cast_abs, abs_div]

theorem quotient?_of_lt {a b : ℤ} (hb : b ≠ 0) (hin : |(a : ℚ) / b| < overflowBound) :
    ∃ x, quotient? a b = .ok x := by
  have hrange := (outOfRange_nearest_iff a.natAbs (Int.natAbs_pos.mpr hb)).not.mpr
    (natAbs_ratio a b ▸ hin.not_ge)
  rw [quotient?, if_neg hb]
  exact ⟨_, if_neg hrange⟩

theorem quotient?_of_le {a b : ℤ} (hb : b ≠ 0) (hout : overflowBound ≤ |(a : ℚ) / b|) :
    quotient? a b = .error .overflow := by
  have hrange := (outOfRange_nearest_iff a.natAbs (Int.natAbs_pos.mpr hb)).mpr
    (natAbs_ratio a b ▸ hout)
  rw [quotient?, if_neg hb]
  exact if_pos hrange

theorem parts?_of_outOfRange {mantissa : Nat} {exponent : ℤ} (negative : Bool)
    (hout : outOfRange mantissa exponent = true) :
    parts? (ofParts negative mantissa exponent) = none := by
  have hinfinite : parts? (Float.ofBits (UInt64.ofNat (2047 * Nat.pow 2 52 +
      if negative then Nat.pow 2 63 else 0))) = none := by
    cases negative <;> decide +kernel
  unfold outOfRange at hout
  simp only [Bool.and_eq_true, decide_eq_true_eq] at hout
  unfold ofParts
  dsimp only
  rw [if_neg hout.1.not_gt, if_pos hout.2]
  exact hinfinite

theorem natAbs_over_one (k : ℤ) : (k.natAbs : ℚ) / (1 : ℕ) = |(k : ℚ)| := by
  rw [Nat.cast_one, div_one, Nat.cast_natAbs, Int.cast_abs]

theorem ofInt?_of_lt {k : ℤ} (hin : |(k : ℚ)| < overflowBound) :
    Scalar.ofInt? k = .ok (ofInt k) := by
  have hrounded := rounded_nearest k.natAbs Nat.one_pos
  have hrange := (outOfRange_nearest_iff k.natAbs Nat.one_pos).not.mpr
    (natAbs_over_one k ▸ hin.not_ge)
  have hcarry := hrounded.carry_le_of_inRange (Bool.eq_false_iff.mpr hrange)
  have hparts := parts?_ofParts (hrounded.carry_canonical (decide (k < 0)) hcarry)
  have hfloor : (Scalar.floor? (ofInt k)).isSome = true := by
    change ((parts? (ofInt k)).map Parts.floor).isSome = true
    rw [ofInt, hparts, Option.map_some, Option.isSome_some]
  exact if_pos hfloor

theorem ofInt?_of_le {k : ℤ} (hout : overflowBound ≤ |(k : ℚ)|) :
    (Scalar.ofInt? k : Except Mishap Float) = .error .overflow := by
  have hrange := (outOfRange_nearest_iff k.natAbs Nat.one_pos).mpr (natAbs_over_one k ▸ hout)
  have hfloor : (Scalar.floor? (ofInt k)).isSome = false := by
    change ((parts? (ofInt k)).map Parts.floor).isSome = false
    rw [ofInt, parts?_of_outOfRange _ hrange, Option.map_none, Option.isSome_none]
  exact if_neg (Bool.eq_false_iff.mp hfloor)

end Double

end Multigrad
