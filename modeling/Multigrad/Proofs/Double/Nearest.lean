import Multigrad.Proofs.Double.Faithful
import Multigrad.Proofs.Decimal.Rounding

/-!
# Nearest doubles of ratios

The exponent is found by a guess from the lengths of both numbers, which is at most one too high.
Then the mantissa is rounded once, so that quotients of integers and integers as doubles are
faithful.
-/

namespace Multigrad.Double

open Float.Model (UnpackedFloat)

/-- A ratio over a power of two, as a ratio again. -/
def scaled (numerator denominator : Nat) (e : ℤ) : Nat × Nat :=
  if 0 ≤ e then (numerator, denominator * Nat.pow 2 e.toNat)
  else (numerator * Nat.pow 2 (-e).toNat, denominator)

/-- The exponent at which a ratio has 53 bits in front of its point. -/
def fitting (numerator denominator : Nat) : ℤ :=
  let guess : ℤ := (numerator.log2 : ℤ) - denominator.log2 - 52
  let (n, d) := scaled numerator denominator guess
  if n / d < Nat.pow 2 52 then guess - 1 else guess

theorem nearest_eq {numerator : Nat} (denominator : Nat) (hnumerator : numerator ≠ 0) :
    nearest numerator denominator =
      let e := max (fitting numerator denominator) (-1074)
      (Decimal.roundDiv (scaled numerator denominator e).1 (scaled numerator denominator e).2,
        e) := by
  rw [nearest, if_neg hnumerator]
  rfl

variable {numerator denominator : Nat}

theorem scaled_pos (numerator : Nat) (hden : 0 < denominator) (e : ℤ) :
    0 < (scaled numerator denominator e).2 := by
  unfold scaled
  split
  · exact Nat.mul_pos hden (Nat.pow_pos Nat.two_pos)
  · exact hden

theorem scaled_eq (numerator denominator : Nat) (e : ℤ) :
    ((scaled numerator denominator e).1 : ℚ) / (scaled numerator denominator e).2 =
      numerator / denominator / 2 ^ e := by
  unfold scaled
  split
  · case isTrue he =>
    obtain ⟨n, rfl⟩ := Int.eq_ofNat_of_zero_le he
    simp [div_div]
  · case isFalse he =>
    obtain ⟨n, rfl⟩ : ∃ n : Nat, e = -n := ⟨(-e).toNat, by omega⟩
    simp [div_inv_eq_mul, mul_div_right_comm]

/-- Comparing a scaled ratio with a natural number. -/
theorem le_scaled_iff (hden : 0 < denominator) (e : ℤ) (k : Nat) :
    k * (scaled numerator denominator e).2 ≤ (scaled numerator denominator e).1 ↔
      (k : ℚ) * 2 ^ e ≤ numerator / denominator := by
  have hpos : (0 : ℚ) < (scaled numerator denominator e).2 := by
    exact_mod_cast scaled_pos numerator hden e
  have hscale : (0 : ℚ) < 2 ^ e := by positivity
  rw [← le_div_iff₀ hscale, ← scaled_eq, le_div_iff₀ hpos]
  norm_cast

theorem scaled_le_iff (hden : 0 < denominator) (e : ℤ) (k : Nat) :
    (scaled numerator denominator e).1 ≤ k * (scaled numerator denominator e).2 ↔
      (numerator : ℚ) / denominator ≤ k * 2 ^ e := by
  have hpos : (0 : ℚ) < (scaled numerator denominator e).2 := by
    exact_mod_cast scaled_pos numerator hden e
  have hscale : (0 : ℚ) < 2 ^ e := by positivity
  rw [← div_le_iff₀ hscale, ← scaled_eq, div_le_iff₀ hpos]
  norm_cast

theorem ratio_bounds (hnum : 0 < numerator) (hden : 0 < denominator) {e : ℤ}
    (he : e = (numerator.log2 : ℤ) - denominator.log2) :
    (2 : ℚ) ^ (e - 1) ≤ numerator / denominator ∧
      (numerator : ℚ) / denominator < 2 ^ (e + 1) := by
  have hpos : (0 : ℚ) < denominator := by exact_mod_cast hden
  have hnumLow : (2 : ℚ) ^ (numerator.log2 : ℤ) ≤ numerator := by
    exact_mod_cast Nat.log2_self_le hnum.ne'
  have hnumTop : (numerator : ℚ) < 2 ^ ((numerator.log2 : ℤ) + 1) := by
    exact_mod_cast Nat.lt_log2_self
  have hdenLow : (2 : ℚ) ^ (denominator.log2 : ℤ) ≤ denominator := by
    exact_mod_cast Nat.log2_self_le hden.ne'
  have hdenTop : (denominator : ℚ) < 2 ^ ((denominator.log2 : ℤ) + 1) := by
    exact_mod_cast Nat.lt_log2_self
  constructor
  · rw [le_div_iff₀ hpos]
    calc (2 : ℚ) ^ (e - 1) * denominator ≤ 2 ^ (e - 1) * 2 ^ ((denominator.log2 : ℤ) + 1) :=
          mul_le_mul_of_nonneg_left hdenTop.le (by positivity)
      _ = 2 ^ (numerator.log2 : ℤ) := by
          rw [← zpow_add₀ two_ne_zero]
          congr 1
          omega
      _ ≤ numerator := hnumLow
  · rw [div_lt_iff₀ hpos]
    calc (numerator : ℚ) < 2 ^ ((numerator.log2 : ℤ) + 1) := hnumTop
      _ = 2 ^ (e + 1) * 2 ^ (denominator.log2 : ℤ) := by
          rw [← zpow_add₀ two_ne_zero]
          congr 1
          omega
      _ ≤ 2 ^ (e + 1) * denominator := mul_le_mul_of_nonneg_left hdenLow (by positivity)

theorem fitting_bounds (hnum : 0 < numerator) (hden : 0 < denominator) :
    (2 : ℚ) ^ (fitting numerator denominator + 52) ≤ numerator / denominator ∧
      (numerator : ℚ) / denominator < 2 ^ (fitting numerator denominator + 53) := by
  obtain ⟨guess, hguess⟩ : ∃ guess : ℤ, guess = (numerator.log2 : ℤ) - denominator.log2 - 52 :=
    ⟨_, rfl⟩
  obtain ⟨hlow, htop⟩ := ratio_bounds hnum hden (e := guess + 52) (by omega)
  rw [show guess + 52 + 1 = guess + 53 by omega] at htop
  have hdecide : 2 ^ 52 ≤ (scaled numerator denominator guess).1 /
        (scaled numerator denominator guess).2 ↔
      (2 : ℚ) ^ (guess + 52) ≤ numerator / denominator := by
    rw [Nat.le_div_iff_mul_le (scaled_pos numerator hden _), le_scaled_iff hden,
      add_comm guess, zpow_add₀ two_ne_zero]
    norm_cast
  simp only [fitting, Nat.pow_eq, ← hguess]
  split
  · case isTrue hlt =>
    have hless := not_le.mp (mt hdecide.mpr (not_le.mpr hlt))
    rw [show guess - 1 + 52 = guess + 52 - 1 by omega, show guess - 1 + 53 = guess + 52 by omega]
    exact ⟨hlow, hless⟩
  · case isFalse hge => exact ⟨hdecide.mp (not_lt.mp hge), htop⟩

theorem rounded_zero : Rounded 0 0 (-1074) where
  nonneg := le_refl 0
  below k hk := by
    have hscale : (0 : ℚ) < 2 ^ (-1074 : ℤ) := by positivity
    have hle : (k : ℚ) ≤ 0 := nonpos_of_mul_nonpos_left hk hscale
    exact_mod_cast hle
  above k hk := by
    have hscale : (0 : ℚ) < 2 ^ (-1074 : ℤ) := by positivity
    have hle : (0 : ℚ) ≤ k := nonneg_of_mul_nonneg_left hk hscale
    exact_mod_cast hle
  le_exponent := le_refl _
  lt_top := by positivity
  normal := Or.inr rfl

/-- The nearest pair to a ratio is rounded. -/
theorem rounded_nearest (numerator : Nat) (hden : 0 < denominator) :
    Rounded (numerator / denominator) (nearest numerator denominator).1
      (nearest numerator denominator).2 := by
  rcases Nat.eq_zero_or_pos numerator with rfl | hnum
  · simpa [nearest] using rounded_zero
  rw [nearest_eq denominator hnum.ne']
  dsimp only
  obtain ⟨hlow, htop⟩ := fitting_bounds hnum hden
  set e := max (fitting numerator denominator) (-1074) with he
  have hpos := scaled_pos numerator hden e
  constructor
  · positivity
  · intro k hk
    rcases le_or_gt k 0 with hneg | hk0
    · exact hneg.trans (Int.natCast_nonneg _)
    · lift k to ℕ using hk0.le
      exact_mod_cast Decimal.le_roundDiv hpos ((le_scaled_iff hden e k).mpr (by exact_mod_cast hk))
  · intro k hk
    have hk0 : 0 ≤ k := by
      have hratio : (0 : ℚ) ≤ numerator / denominator := by positivity
      have hscale : (0 : ℚ) < 2 ^ e := by positivity
      exact_mod_cast nonneg_of_mul_nonneg_left (hratio.trans hk) hscale
    lift k to ℕ using hk0
    exact_mod_cast
      Decimal.roundDiv_le_of_le hpos ((scaled_le_iff hden e k).mpr (by exact_mod_cast hk))
  · exact le_max_right _ _
  · apply htop.trans_le
    exact zpow_le_zpow_right₀ one_le_two (by omega)
  · rcases le_total (-1074) (fitting numerator denominator) with hle | hle
    · left
      rwa [he, max_eq_left hle]
    · right
      rw [he, max_eq_right hle]

/-! ### From pairs to doubles -/

theorem toBits_ofBits {bits : UInt64} (hfield : bits.toNat / 2 ^ 52 % 2 ^ 11 ≠ 2047) :
    (Float.ofBits bits).toBits = bits := by
  have hnumber : @UnpackedFloat.isNaNBits .binary64 bits.toBitVec = false := by
    simp only [UnpackedFloat.isNaNBits, decide_eq_false_iff_not, not_and]
    intro htop
    rw [eq_neg_one_iff, toNat_unpackExponent] at htop
    exact absurd htop hfield
  change UInt64.ofBitVec
    (UnpackedFloat.pack .binary64 (UnpackedFloat.unpack .binary64 bits.toBitVec)) = bits
  rw [UnpackedFloat.pack_unpack, hnumber]
  rfl

theorem parts?_ofBits (negative : Bool) {bits field fraction : Nat} (hfield : field < 2047)
    (hfraction : fraction < 2 ^ 52)
    (hbits : bits = field * 2 ^ 52 + fraction + if negative then 2 ^ 63 else 0) :
    parts? (Float.ofBits (UInt64.ofNat bits)) =
      if field = 0 then some ⟨negative, fraction, -1074⟩
      else some ⟨negative, fraction + 2 ^ 52, (field : ℤ) - 1075⟩ := by
  have hlt : bits < 2 ^ 64 := by
    rw [hbits]
    split <;> omega
  have htoNat : (UInt64.ofNat bits).toNat = bits := UInt64.toNat_ofNat_of_lt' hlt
  have hexponent : bits / 2 ^ 52 % 2 ^ 11 = field := by
    rw [hbits]
    split <;> omega
  have hrest : bits % 2 ^ 52 = fraction := by
    rw [hbits]
    split <;> omega
  have hsign : decide (2 ^ 63 ≤ bits) = negative := by
    rw [hbits]
    cases negative with
    | false => exact decide_eq_false (by rw [if_neg Bool.false_ne_true]; omega)
    | true => exact decide_eq_true (by rw [if_pos rfl]; omega)
  unfold parts?
  rw [toBits_ofBits (by rw [htoNat, hexponent]; omega)]
  simp only [Nat.pow_eq, htoNat, hexponent, hrest, hsign, if_neg hfield.ne]

/-- A canonical pair is what is read off the double that it makes. -/
theorem parts?_ofParts {negative : Bool} {mantissa : Nat} {exponent : ℤ}
    (hcanonical : Parts.Canonical
      ⟨negative, (carry mantissa exponent).1, (carry mantissa exponent).2⟩) :
    parts? (ofParts negative mantissa exponent) =
      some ⟨negative, (carry mantissa exponent).1, (carry mantissa exponent).2⟩ := by
  obtain ⟨hmantissa, hlow, htop, hnormal⟩ := hcanonical
  unfold ofParts
  generalize carry mantissa exponent = pair at *
  obtain ⟨m, e⟩ := pair
  simp only [Nat.pow_eq] at *
  by_cases hsmall : m < 2 ^ 52
  · have he : e = -1074 := by omega
    have hbits : m + (if negative then 2 ^ 63 else 0) =
        0 * 2 ^ 52 + m + if negative then 2 ^ 63 else 0 := by omega
    rw [if_pos hsmall, parts?_ofBits negative (by omega) hsmall hbits, if_pos rfl, he]
  · rw [if_neg hsmall, if_neg (by omega), parts?_ofBits negative (by omega) (by omega) rfl,
      if_neg (by omega)]
    simp only [Option.some.injEq, Parts.mk.injEq, true_and]
    omega

/-! ### Quotients and integers -/

theorem faithful_nearest {numerator : Nat} (hden : 0 < denominator) {negative : Bool}
    (htop : (carry (nearest numerator denominator).1 (nearest numerator denominator).2).2 ≤ 971) :
    Faithful (if negative then -((numerator : ℚ) / denominator) else numerator / denominator)
      (ofParts negative (nearest numerator denominator).1 (nearest numerator denominator).2) := by
  have hrounded := rounded_nearest numerator hden
  exact hrounded.faithful (parts?_ofParts (hrounded.carry_canonical negative htop))

theorem Rounded.carry_le_of_inRange {q : ℚ} {mantissa : Nat} {exponent : ℤ}
    (hrounded : Rounded q mantissa exponent) (hrange : outOfRange mantissa exponent = false) :
    (carry mantissa exponent).2 ≤ 971 := by
  have hnormal := hrounded.le_mantissa
  unfold outOfRange at hrange
  simp only [Bool.and_eq_false_iff, decide_eq_false_iff_not, Nat.pow_eq] at hrange
  unfold carry at hrange ⊢
  simp only [Nat.pow_eq] at hrange ⊢
  split
  · case isTrue hfull =>
    rw [if_pos hfull] at hrange
    dsimp only at hrange ⊢
    omega
  · case isFalse hfull =>
    rw [if_neg hfull] at hrange
    dsimp only at hrange ⊢
    omega

theorem signed_natAbs (a : ℤ) :
    (a : ℚ) = if decide (a < 0) then -(a.natAbs : ℚ) else a.natAbs := by
  rw [Nat.cast_natAbs, Int.cast_abs]
  by_cases ha : a < 0
  · simp [ha, abs_of_neg (Int.cast_lt_zero.mpr ha)]
  · simp [ha, abs_of_nonneg (Int.cast_nonneg_iff.mpr (not_lt.mp ha))]

theorem signed_ratio (a b : ℤ) :
    (if decide (a < 0) != decide (b < 0) then -((a.natAbs : ℚ) / b.natAbs)
      else a.natAbs / b.natAbs) = a / b := by
  conv_rhs => rw [signed_natAbs a, signed_natAbs b]
  cases decide (a < 0) <;> cases decide (b < 0) <;> simp [neg_div, div_neg]

/-- A quotient of integers is rounded once. -/
theorem faithful_of_quotient? {a b : ℤ} {x : Float} (hquotient : quotient? a b = .ok x) :
    b ≠ 0 ∧ Faithful (a / b) x := by
  unfold quotient? at hquotient
  split at hquotient
  · cases hquotient
  case isFalse hb =>
  refine ⟨hb, ?_⟩
  dsimp only at hquotient
  split at hquotient
  · cases hquotient
  case isFalse hrange =>
  obtain rfl := Except.ok.inj hquotient
  have hden : 0 < b.natAbs := Int.natAbs_pos.mpr hb
  have hrounded := rounded_nearest a.natAbs hden
  have hrange' := hrounded.carry_le_of_inRange (Bool.eq_false_iff.mpr hrange)
  rw [← signed_ratio a b]
  exact faithful_nearest hden hrange'

theorem faithful_ofInt {k : ℤ} (hk : |(k : ℚ)| ≤ largest) : Faithful k (ofInt k) := by
  have hrounded := rounded_nearest k.natAbs Nat.one_pos
  have hle : (k.natAbs : ℚ) / (1 : ℕ) ≤ largest := by
    rwa [Nat.cast_one, div_one, Nat.cast_natAbs, Int.cast_abs]
  have hrange := hrounded.carry_le_of_le hle
  have hk' : (k : ℚ) =
      if decide (k < 0) then -((k.natAbs : ℚ) / (1 : ℕ)) else k.natAbs / (1 : ℕ) := by
    rw [Nat.cast_one, div_one]
    exact signed_natAbs k
  rw [hk']
  exact faithful_nearest Nat.one_pos hrange

/-- What has a double is rounded to it. -/
theorem Faithful.quantity? {q : ℚ} {x : Float} (hfaithful : Faithful q x) (hq : Representable q) :
    quantity? x = some (.rational q) := by
  obtain ⟨parts, hparts, hbounds⟩ := hfaithful
  obtain ⟨habove, hbelow⟩ := hbounds q hq
  rw [quantity?_of_parts? hparts, le_antisymm (habove le_rfl) (hbelow le_rfl)]

/-- Up to 53 bits an integer is not rounded. -/
theorem quantity?_ofInt_of_abs_le {n : ℤ} (hn : |n| ≤ 2 ^ 53) :
    quantity? (ofInt n) = some (.rational n) := by
  have hle : |(n : ℚ)| ≤ 2 ^ 53 := by exact_mod_cast hn
  exact (faithful_ofInt (hle.trans two_pow_le_largest)).quantity? (representable_int hn)

/-- An integer that is a double is that double. -/
theorem quantity?_ofInt {n : ℤ} {y : Float} (hy : quantity? y = some (.rational n)) :
    quantity? (ofInt n) = some (.rational n) := by
  obtain ⟨parts, hparts, hvalue⟩ := exists_parts_of_quantity hy
  have hcanonical := canonical_of_parts? hparts
  have hle := hcanonical.abs_le_largest
  have hrepresentable := hcanonical.representable
  rw [hvalue] at hle hrepresentable
  exact (faithful_ofInt hle).quantity? hrepresentable

end Multigrad.Double
