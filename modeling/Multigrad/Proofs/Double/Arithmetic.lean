import Multigrad.Proofs.Double.Nearest

/-!
# Arithmetic of doubles

The exact result of an operation is stated by a mantissa, an exponent and two bits for what is left
over. Shifts keep that statement true, so that the mantissa that comes out of the rounding is one of
the two neighbours of the exact result: products, quotients and differences are faithful.
-/

namespace Multigrad.Double

open Float.Model (UnpackedFloat Format)
open Float.Model.UnpackedFloat (Sign Accuracy ExtendedMantissa)

theorem log2_add_one_eq_iff {m : Nat} (hpos : 0 < m) (hm : m < 2 ^ 53) :
    m.log2 + 1 = 53 ↔ 2 ^ 52 ≤ m := by
  have htop : m.log2 < 53 := (Nat.log2_lt hpos.ne').mpr hm
  rw [← Nat.le_log2 hpos.ne']
  omega

theorem decoded?_packComponents (s : Sign) {exponent : BitVec 11} (mantissa : BitVec 52)
    (htop : exponent.toNat ≠ 2047) :
    decoded? (UnpackedFloat.unpack .binary64
        (UnpackedFloat.packComponents .binary64 s exponent mantissa)) =
      if exponent.toNat = 0 then some ⟨s == .negative, mantissa.toNat, -1074⟩
      else some ⟨s == .negative, mantissa.toNat + 2 ^ 52, (exponent.toNat : ℤ) - 1075⟩ := by
  have htop' : exponent ≠ -1#11 := mt (eq_neg_one_iff exponent).mp htop
  unfold UnpackedFloat.unpack
  simp only [UnpackedFloat.unpackMantissa_packComponents,
    UnpackedFloat.unpackExponent_packComponents, UnpackedFloat.unpackSign_packComponents,
    UnpackedFloat.Sign.ofBitVec_toBitVec]
  rw [if_neg htop']
  by_cases hlow : exponent = 0#11
  · have hzero : exponent.toNat = 0 := by simp [hlow]
    rw [if_pos hlow, if_pos hzero]
    by_cases hnone : mantissa = 0#52
    · simp [hnone, decoded?]
    · simp [hnone, decoded?, hzero, Format.exponentBias]
  · have hzero : exponent.toNat ≠ 0 := fun h => hlow (BitVec.eq_of_toNat_eq h)
    rw [if_neg hlow, if_neg hzero]
    simp only [decoded?, toNat_implicit]
    rfl

/-- A canonical finite number is read off the double that it is packed into. -/
theorem decoded?_pack {s : Sign} {m : Nat} {e : ℤ} (hpos : 0 < m)
    (hcanonical : Parts.Canonical ⟨s == .negative, m, e⟩) :
    decoded? (UnpackedFloat.unpack .binary64 (UnpackedFloat.pack .binary64 (.finite s m e hpos))) =
      some ⟨s == .negative, m, e⟩ := by
  obtain ⟨hm, hlow, htop, hnormal⟩ := hcanonical
  dsimp only at hm hlow htop hnormal
  have hbias : (Format.exponentBias .binary64) = 1023 := rfl
  unfold UnpackedFloat.pack
  extract_lets bits biased
  have hbiased : (biased : ℤ) = e + 1075 := by
    simp only [biased, hbias]
    omega
  rw [if_neg (by simp only; omega)]
  split
  · case isTrue hbits =>
    have hfull := (log2_add_one_eq_iff hpos hm).mp hbits
    have hexponent : (BitVec.ofNat 11 biased).toNat = biased := by
      rw [BitVec.toNat_ofNat]
      omega
    have hmantissa : (BitVec.ofNat 52 m).toNat = m - 2 ^ 52 := by
      rw [BitVec.toNat_ofNat]
      omega
    change decoded? (UnpackedFloat.unpack .binary64 (UnpackedFloat.packComponents .binary64 s
      (BitVec.ofNat 11 biased) (BitVec.ofNat 52 m))) = _
    rw [decoded?_packComponents s _ (by omega), hexponent, hmantissa, if_neg (by omega)]
    simp only [Option.some.injEq, Parts.mk.injEq, true_and]
    omega
  · case isFalse hbits =>
    have hfull := mt (log2_add_one_eq_iff hpos hm).mpr hbits
    have hmantissa : (BitVec.ofNat 52 m).toNat = m := by
      rw [BitVec.toNat_ofNat]
      omega
    change decoded? (UnpackedFloat.unpack .binary64 (UnpackedFloat.packComponents .binary64 s
      0#11 (BitVec.ofNat 52 m))) = _
    rw [decoded?_packComponents s _ (by decide), hmantissa, if_pos (by decide),
      hnormal.resolve_left hfull]

/-! ### Mantissas with two more bits -/

/-- A magnitude lies between a mantissa and the next one, and on it just when nothing is left over
in the two bits. -/
structure Holds (extended : ExtendedMantissa) (exponent : ℤ) (q : ℚ) : Prop where
  low : extended.mantissa * 2 ^ exponent ≤ q
  top : q < (extended.mantissa + 1) * 2 ^ exponent
  exact : q = extended.mantissa * 2 ^ exponent ↔
    extended.roundBit = false ∧ extended.stickyBit = false

namespace Holds

variable {extended : ExtendedMantissa} {exponent : ℤ} {q : ℚ}

theorem shiftRightOne (hholds : Holds extended exponent q) :
    Holds extended.shiftRightOne (exponent + 1) q := by
  obtain ⟨hlow, htop, hexact⟩ := hholds
  have hscale : (0 : ℚ) < 2 ^ exponent := by positivity
  have hdouble (k : ℚ) : k * 2 ^ (exponent + 1) = 2 * (k * 2 ^ exponent) := by
    rw [zpow_add_one₀ two_ne_zero]
    ring
  obtain ⟨half, bit, hparity, hhalf, hbit⟩ : ∃ half bit : Nat,
      (extended.mantissa : ℚ) = 2 * half + bit ∧ extended.mantissa / 2 = half ∧
        extended.mantissa % 2 = bit :=
    ⟨_, _, by exact_mod_cast (Nat.div_add_mod extended.mantissa 2).symm, rfl, rfl⟩
  rw [hparity] at hlow htop hexact
  unfold ExtendedMantissa.shiftRightOne
  rw [hhalf, hbit]
  rcases Nat.mod_two_eq_zero_or_one extended.mantissa with heven | hodd
  · obtain rfl : bit = 0 := hbit.symm.trans heven
    rw [Nat.cast_zero, add_zero] at hlow htop hexact
    constructor
    · rw [hdouble]
      linarith
    · rw [hdouble]
      linarith
    · rw [hdouble, ← mul_assoc, hexact]
      simp
  · obtain rfl : bit = 1 := hbit.symm.trans hodd
    rw [Nat.cast_one] at hlow htop hexact
    constructor
    · rw [hdouble]
      linarith
    · rw [hdouble]
      linarith
    · rw [hdouble]
      apply iff_of_false
      · linarith
      · simp

theorem shiftRight (hholds : Holds extended exponent q) (n : Nat) :
    Holds (extended >>> n) (exponent + n) q := by
  change Holds (n.repeat ExtendedMantissa.shiftRightOne extended) (exponent + n) q
  induction n with
  | zero => simpa [Nat.repeat] using hholds
  | succ n ih =>
    rw [Nat.repeat, Nat.cast_succ, ← add_assoc]
    exact ih.shiftRightOne

theorem roundedMantissa_bounds (hholds : Holds extended exponent q) :
    (∀ k : ℤ, k * 2 ^ exponent ≤ q → k ≤ extended.roundedMantissa) ∧
      ∀ k : ℤ, q ≤ k * 2 ^ exponent → extended.roundedMantissa ≤ k := by
  obtain ⟨hlow, htop, hexact⟩ := hholds
  have hscale : (0 : ℚ) < 2 ^ exponent := by positivity
  obtain ⟨m, roundBit, stickyBit⟩ := extended
  have hrounded : m ≤ ExtendedMantissa.roundedMantissa ⟨m, roundBit, stickyBit⟩ ∧
      ExtendedMantissa.roundedMantissa ⟨m, roundBit, stickyBit⟩ ≤ m + 1 ∧
        (q = m * 2 ^ exponent → ExtendedMantissa.roundedMantissa ⟨m, roundBit, stickyBit⟩ = m) := by
    rw [hexact]
    cases roundBit <;> cases stickyBit <;>
      simp [ExtendedMantissa.roundedMantissa, ExtendedMantissa.accuracy,
        Accuracy.roundToNearestEven]
    omega
  obtain ⟨hge, hle, heq⟩ := hrounded
  dsimp only at hlow htop
  constructor
  · intro k hk
    have hlt : (k : ℚ) < m + 1 := lt_of_mul_lt_mul_right (hk.trans_lt htop) hscale.le
    have : k < m + 1 := by exact_mod_cast hlt
    omega
  · intro k hk
    have hmk : (m : ℚ) ≤ k := le_of_mul_le_mul_right (hlow.trans hk) hscale
    rcases eq_or_lt_of_le hmk with hsame | hlt
    · rw [← hsame] at hk
      rw [heq (le_antisymm hk hlow)]
      exact_mod_cast hmk
    · have : (m : ℤ) < k := by exact_mod_cast hlt
      omega

end Holds

/-! ### Rounding to a format -/

open Float.Model (totalExponent)

/-- The exponent that a magnitude with a given number of bits is rounded to. -/
theorem targetExponent_eq (total : ℤ) :
    Format.targetExponent .binary64 total = max (total - 53) (-1074) := rfl

/-- A magnitude that is stated by a mantissa, an exponent and what is left over. -/
def Locates (mantissa : Nat) (exponent : ℤ) (accuracy : Accuracy) (q : ℚ) : Prop :=
  Holds (ExtendedMantissa.ofMantissaAndAccuracy mantissa accuracy) exponent q

theorem mantissa_ofMantissaAndAccuracy (mantissa : Nat) (accuracy : Accuracy) :
    (ExtendedMantissa.ofMantissaAndAccuracy mantissa accuracy).mantissa = mantissa := by
  rcases accuracy with _ | (_ | _ | _) <;> rfl

variable {m : Nat} {e : ℤ} {q : ℚ} {accuracy : Accuracy}

theorem Locates.lt_total (hlocates : Locates m e accuracy q) : q < 2 ^ totalExponent m e := by
  have htop := hlocates.top
  rw [mantissa_ofMantissaAndAccuracy] at htop
  have hlog : (m : ℚ) + 1 ≤ 2 ^ ((m.log2 : ℤ) + 1) := by
    exact_mod_cast Nat.succ_le_of_lt (Nat.lt_log2_self (n := m))
  calc q < (m + 1) * 2 ^ e := htop
    _ ≤ 2 ^ ((m.log2 : ℤ) + 1) * 2 ^ e := mul_le_mul_of_nonneg_right hlog (by positivity)
    _ = 2 ^ totalExponent m e := by rw [← zpow_add₀ two_ne_zero, totalExponent]

theorem Locates.total_le (hlocates : Locates m e accuracy q) (hm : m ≠ 0) :
    2 ^ (totalExponent m e - 1) ≤ q := by
  have hlow := hlocates.low
  rw [mantissa_ofMantissaAndAccuracy] at hlow
  have hlog : (2 : ℚ) ^ (m.log2 : ℤ) ≤ m := by exact_mod_cast Nat.log2_self_le hm
  calc (2 : ℚ) ^ (totalExponent m e - 1) = 2 ^ (m.log2 : ℤ) * 2 ^ e := by
        rw [← zpow_add₀ two_ne_zero, totalExponent]
        congr 1
        omega
    _ ≤ m * 2 ^ e := mul_le_mul_of_nonneg_right hlog (by positivity)
    _ ≤ q := hlow

theorem shiftToTargetExponent_eq
    (hfits : e ≤ Format.targetExponent .binary64 (totalExponent m e)) :
    UnpackedFloat.shiftToTargetExponent .binary64 m e accuracy =
      (ExtendedMantissa.ofMantissaAndAccuracy m accuracy >>>
          (Format.targetExponent .binary64 (totalExponent m e) - e).toNat,
        Format.targetExponent .binary64 (totalExponent m e)) := by
  simp only [UnpackedFloat.shiftToTargetExponent, UnpackedFloat.shiftToExponent, Prod.mk.injEq,
    true_and]
  omega

/-- The first shift leaves a mantissa that only has to be rounded. -/
theorem Locates.rounded (hlocates : Locates m e accuracy q)
    (hfits : e ≤ Format.targetExponent .binary64 (totalExponent m e)) :
    Rounded q (UnpackedFloat.shiftToTargetExponent .binary64 m e accuracy).1.roundedMantissa
      (UnpackedFloat.shiftToTargetExponent .binary64 m e accuracy).2 := by
  rw [shiftToTargetExponent_eq hfits]
  have htarget := targetExponent_eq (totalExponent m e)
  have htotal : totalExponent m e = m.log2 + 1 + e := rfl
  generalize Format.targetExponent .binary64 (totalExponent m e) = target at *
  have hshifted := hlocates.shiftRight (target - e).toNat
  rw [show e + ((target - e).toNat : ℤ) = target by omega] at hshifted
  obtain ⟨hbelow, habove⟩ := hshifted.roundedMantissa_bounds
  refine ⟨?_, hbelow, habove, by omega, ?_, ?_⟩
  · have hlow := hlocates.low
    exact le_trans (by positivity) hlow
  · apply hlocates.lt_total.trans_le
    exact zpow_le_zpow_right₀ one_le_two (by omega)
  · by_cases hlow : target = -1074
    · exact Or.inr hlow
    · left
      have hm : m ≠ 0 := by
        rintro rfl
        have hzero : Nat.log2 0 = 0 := rfl
        omega
      rw [show target + 52 = totalExponent m e - 1 by omega]
      exact hlocates.total_le hm

/-- The second shift is a carry. -/
theorem shiftToTargetExponent_exact {mantissa : Nat} {exponent : ℤ}
    (hrounded : Rounded q mantissa exponent) :
    ((UnpackedFloat.shiftToTargetExponent .binary64 mantissa exponent .exact).1.mantissa,
        (UnpackedFloat.shiftToTargetExponent .binary64 mantissa exponent .exact).2) =
      carry mantissa exponent := by
  have hmantissa := hrounded.mantissa_le
  have hexponent := hrounded.le_exponent
  simp only [UnpackedFloat.shiftToTargetExponent, UnpackedFloat.shiftToExponent,
    targetExponent_eq, totalExponent, carry, Nat.pow_eq]
  split
  · case isTrue hfull =>
    have hlog : mantissa.log2 = 53 := by rw [hfull, Nat.log2_two_pow]
    have hshift : (max ((mantissa.log2 : ℤ) + 1 + exponent - 53) (-1074) - exponent).toNat = 1 := by
      omega
    rw [hshift, hfull]
    rfl
  · case isFalse hfull =>
    have hlog : mantissa.log2 ≤ 52 := by
      rcases Nat.eq_zero_or_pos mantissa with hzero | hpos
      · rw [hzero]
        decide
      · exact Nat.lt_succ_iff.mp ((Nat.log2_lt hpos.ne').mpr (by omega))
    have hshift : (max ((mantissa.log2 : ℤ) + 1 + exponent - 53) (-1074) - exponent).toNat = 0 := by
      omega
    rw [hshift]
    simp only [Nat.cast_zero, add_zero]
    rfl

/-- What is rounded to the format is read off the packed double. -/
theorem exists_rounded_roundWithAccuracy (s : Sign) (hlocates : Locates m e accuracy q)
    (hfits : e ≤ Format.targetExponent .binary64 (totalExponent m e)) (hq : q ≤ largest) :
    ∃ mantissa exponent, Rounded q mantissa exponent ∧
      decoded? (UnpackedFloat.unpack .binary64 (UnpackedFloat.pack .binary64
          (UnpackedFloat.roundWithAccuracy .binary64 s m e accuracy))) =
        some ⟨s == .negative, (carry mantissa exponent).1, (carry mantissa exponent).2⟩ := by
  have hrounded := hlocates.rounded hfits
  refine ⟨_, _, hrounded, ?_⟩
  have hcarry := shiftToTargetExponent_exact hrounded
  have hcanonical := hrounded.carry_canonical (s == .negative) (hrounded.carry_le_of_le hq)
  rw [← hcarry] at hcanonical ⊢
  unfold UnpackedFloat.roundWithAccuracy
  dsimp only
  split
  · case isTrue hzero =>
    have hexponent := hcanonical.normal.resolve_left (by dsimp only; rw [hzero]; decide)
    dsimp only at hexponent
    rw [UnpackedFloat.pack, UnpackedFloat.unpack_packedZero, decoded?, hzero, hexponent]
  · case isFalse hpos => exact decoded?_pack (Nat.pos_of_ne_zero hpos) hcanonical

/-! ### Operations -/

theorem value_signed (s : Sign) (m : Nat) (e : ℤ) :
    Parts.value ⟨s == .negative, m, e⟩ = (s.apply m : ℤ) * 2 ^ e := by
  cases s <;> simp [Parts.value, Parts.magnitude, Sign.apply]

/-- A finite double is zero or has a mantissa. -/
theorem unpack_of_parts? {x : Float} {parts : Parts} (hparts : parts? x = some parts) :
    (∃ s, x.toModel.unpack = .zero s ∧ parts.value = 0) ∨
      ∃ s m e, ∃ hm : 0 < m, x.toModel.unpack = .finite s m e hm ∧
        parts = ⟨s == .negative, m, e⟩ := by
  rw [parts?_eq_decoded?] at hparts
  cases hunpack : x.toModel.unpack with
  | notANumber => simp [hunpack, decoded?] at hparts
  | infinity s => simp [hunpack, decoded?] at hparts
  | zero s =>
    left
    obtain rfl : _ = parts := by simpa [hunpack, decoded?] using hparts
    exact ⟨s, rfl, by simp [Parts.value, Parts.magnitude]⟩
  | finite s m e hm =>
    right
    obtain rfl : _ = parts := by simpa [hunpack, decoded?] using hparts
    exact ⟨s, m, e, hm, rfl, rfl⟩

/-- A positive double is above zero. -/
theorem not_atMost_zero {x : Float} {parts : Parts} (hparts : parts? x = some parts)
    (hpos : 0 < parts.value) : Scalar.atMost x 0.0 = false := by
  have hmodel : Scalar.atMost x 0.0 =
      decide (decide (x.toModel.unpack.le (.zero .positive) = true) = true) := rfl
  rw [hmodel]
  rcases unpack_of_parts? hparts with ⟨s, -, hzero⟩ | ⟨s, m, e, hm, hunpack, rfl⟩
  · exact absurd hzero hpos.ne'
  · cases s with
    | negative => exact absurd ((Parts.value_neg_iff hpos.ne').mpr rfl) hpos.not_gt
    | positive =>
      rw [hunpack]
      rfl

theorem faithful_self {x : Float} {parts : Parts} (hparts : parts? x = some parts) :
    Faithful parts.value x :=
  ⟨parts, hparts, fun _ _ => ⟨id, id⟩⟩

theorem faithful_zero {x : Float} {s : Sign} (hzero : x.toModel.unpack = .zero s) :
    Faithful 0 x := by
  have hparts : parts? x = some ⟨s == .negative, 0, -1074⟩ := by
    rw [parts?_eq_decoded?, hzero, decoded?]
  simpa [Parts.value, Parts.magnitude] using faithful_self hparts

theorem unpack_packed {x : Float} {y : UnpackedFloat} (hx : x.toModel = Float.Model.pack y) :
    x.toModel.unpack = UnpackedFloat.unpack .binary64 (UnpackedFloat.pack .binary64 y) := by
  rw [hx]
  rfl

/-- An operation that rounds its exact result is faithful. -/
theorem faithful_of_roundWithAccuracy {x : Float} {s : Sign}
    (hx : x.toModel = Float.Model.pack (UnpackedFloat.roundWithAccuracy .binary64 s m e accuracy))
    (hlocates : Locates m e accuracy q)
    (hfits : e ≤ Format.targetExponent .binary64 (totalExponent m e)) (hq : q ≤ largest) :
    Faithful (if s == .negative then -q else q) x := by
  obtain ⟨mantissa, exponent, hrounded, hdecoded⟩ :=
    exists_rounded_roundWithAccuracy s hlocates hfits hq
  apply hrounded.faithful
  rw [parts?_eq_decoded?, unpack_packed hx]
  exact hdecoded

theorem locates_exact (m : Nat) (e : ℤ) : Locates m e .exact (m * 2 ^ e) where
  low := le_rfl
  top := by
    apply mul_lt_mul_of_pos_right _ (by positivity)
    exact lt_add_one _
  exact := by simp [ExtendedMantissa.ofMantissaAndAccuracy]

theorem le_targetExponent {m : Nat} {e : ℤ} (h : 2 ^ 52 ≤ m ∨ e ≤ -1074) :
    e ≤ Format.targetExponent .binary64 (totalExponent m e) := by
  rw [targetExponent_eq, totalExponent]
  rcases h with hm | he
  · have hlog : 52 ≤ m.log2 := (Nat.le_log2 (by omega)).mpr hm
    omega
  · omega

variable {x y : Float} {a b : Parts}

theorem isNegative_mul (s t : Sign) :
    (s * t == .negative) = ((s == .negative) != (t == .negative)) := by
  cases s <;> cases t <;> rfl

theorem value_mul (s t : Sign) (m n : Nat) (e f : ℤ) :
    Parts.value ⟨s == .negative, m, e⟩ * Parts.value ⟨t == .negative, n, f⟩ =
      if s * t == .negative then -(((m * n : Nat) : ℚ) * 2 ^ (e + f))
      else ((m * n : Nat) : ℚ) * 2 ^ (e + f) := by
  rw [isNegative_mul, zpow_add₀ two_ne_zero, Parts.value, Parts.value, Parts.magnitude,
    Parts.magnitude]
  dsimp only
  cases s == .negative <;> cases t == .negative <;> push_cast <;> simp <;> ring

/-- A product is rounded once. -/
theorem faithful_mul (hx : parts? x = some a) (hy : parts? y = some b)
    (hq : |a.value * b.value| ≤ largest) : Faithful (a.value * b.value) (x * y) := by
  have hmodel : (x * y).toModel = Float.Model.pack
    (UnpackedFloat.mul .binary64 x.toModel.unpack y.toModel.unpack) := rfl
  have ha := canonical_of_parts? hx
  have hb := canonical_of_parts? hy
  have hzero {r : Sign} (h : (x * y).toModel = Float.Model.pack (.zero r)) :
      Faithful 0 (x * y) := by
    apply faithful_zero
    rw [unpack_packed h, UnpackedFloat.pack, UnpackedFloat.unpack_packedZero]
  rcases unpack_of_parts? hx with ⟨s, hxu, ha0⟩ | ⟨s, m, e, hm, hxu, rfl⟩
  · rw [ha0, zero_mul]
    rcases unpack_of_parts? hy with ⟨t, hyu, -⟩ | ⟨t, n, f, hn, hyu, -⟩
    all_goals
      rw [hxu, hyu] at hmodel
      exact hzero hmodel
  · rcases unpack_of_parts? hy with ⟨t, hyu, hb0⟩ | ⟨t, n, f, hn, hyu, rfl⟩
    · rw [hb0, mul_zero]
      rw [hxu, hyu] at hmodel
      exact hzero hmodel
    · rw [hxu, hyu, UnpackedFloat.mul] at hmodel
      have hfits : 2 ^ 52 ≤ m * n ∨ e + f ≤ -1074 := by
        have hmn : m ≤ m * n := Nat.le_mul_of_pos_right m hn
        have hnm : n ≤ m * n := Nat.le_mul_of_pos_left n hm
        have hm' := ha.normal
        have hn' := hb.normal
        dsimp only at hm' hn'
        omega
      have hnonneg : (0 : ℚ) ≤ ((m * n : Nat) : ℚ) * 2 ^ (e + f) := by positivity
      rw [value_mul] at hq ⊢
      refine faithful_of_roundWithAccuracy hmodel (locates_exact (m * n) (e + f))
        (le_targetExponent hfits) ?_
      split at hq
      · rwa [abs_neg, abs_of_nonneg hnonneg] at hq
      · rwa [abs_of_nonneg hnonneg] at hq

theorem isNegative_div (s t : Sign) :
    (s / t == .negative) = ((s == .negative) != (t == .negative)) := by
  cases s <;> cases t <;> rfl

theorem value_div (s t : Sign) (m n : Nat) (e f : ℤ) :
    Parts.value ⟨s == .negative, m, e⟩ / Parts.value ⟨t == .negative, n, f⟩ =
      if s / t == .negative then -((m : ℚ) / n * 2 ^ (e - f)) else (m : ℚ) / n * 2 ^ (e - f) := by
  rw [isNegative_div, zpow_sub₀ two_ne_zero, Parts.value, Parts.value, Parts.magnitude,
    Parts.magnitude]
  dsimp only
  cases s == .negative <;> cases t == .negative <;> simp [neg_div, div_neg, div_mul_div_comm]

theorem ofMantissaAndAccuracy_exact_iff (m : Nat) (accuracy : Accuracy) :
    (ExtendedMantissa.ofMantissaAndAccuracy m accuracy).roundBit = false ∧
        (ExtendedMantissa.ofMantissaAndAccuracy m accuracy).stickyBit = false ↔
      accuracy = .exact := by
  rcases accuracy with _ | (_ | _ | _) <;> simp [ExtendedMantissa.ofMantissaAndAccuracy]

/-- What a division of integers leaves over is stated by its remainder. -/
theorem locates_div (m : Nat) {n : Nat} (hn : 0 < n) (e : ℤ) :
    Locates (m / n) e (UnpackedFloat.accuracyOfFraction (m % n) n) ((m : ℚ) / n * 2 ^ e) := by
  have hpos : (0 : ℚ) < n := by exact_mod_cast hn
  have hscale : (0 : ℚ) < 2 ^ e := by positivity
  have hdivision : (m : ℚ) / n = (m / n : Nat) + (m % n : Nat) / n := by
    rw [div_eq_iff hpos.ne', add_mul, div_mul_cancel₀ _ hpos.ne']
    exact_mod_cast (Nat.div_add_mod' m n).symm
  have hrest : ((m % n : Nat) : ℚ) / n < 1 := by
    rw [div_lt_one hpos]
    exact_mod_cast Nat.mod_lt m hn
  have hrest' : (0 : ℚ) ≤ ((m % n : Nat) : ℚ) / n := by positivity
  constructor
  · rw [mantissa_ofMantissaAndAccuracy, hdivision]
    exact mul_le_mul_of_nonneg_right (by linarith) hscale.le
  · rw [mantissa_ofMantissaAndAccuracy, hdivision]
    exact mul_lt_mul_of_pos_right (by linarith) hscale
  · rw [mantissa_ofMantissaAndAccuracy, ofMantissaAndAccuracy_exact_iff, hdivision,
      mul_left_inj' hscale.ne']
    simp only [add_eq_left, div_eq_zero_iff, hpos.ne', or_false, Nat.cast_eq_zero,
      UnpackedFloat.accuracyOfFraction]
    split <;> simp_all

/-- The dividend is shifted so far that the quotient has enough bits. -/
theorem le_shifted_div {m n : Nat} {e f low : ℤ} (hm : 0 < m) (hn : 0 < n)
    (hlow : min (e - f) (Format.targetExponent .binary64
      (totalExponent m e - totalExponent n f)) = low) :
    2 ^ 52 ≤ m <<< (e - f - low).toNat / n ∨ low ≤ -1074 := by
  refine or_iff_not_imp_right.mpr fun hnormal => ?_
  rw [targetExponent_eq, totalExponent, totalExponent] at hlow
  have hbits : n.log2 + 1 + 52 ≤ m.log2 + (e - f - low).toNat := by omega
  rw [Nat.le_div_iff_mul_le hn, Nat.shiftLeft_eq]
  calc 2 ^ 52 * n ≤ 2 ^ 52 * 2 ^ (n.log2 + 1) :=
        Nat.mul_le_mul_left _ Nat.lt_log2_self.le
    _ = 2 ^ (n.log2 + 1 + 52) := by rw [← pow_add, add_comm]
    _ ≤ 2 ^ (m.log2 + (e - f - low).toNat) := Nat.pow_le_pow_right Nat.two_pos hbits
    _ = 2 ^ m.log2 * 2 ^ (e - f - low).toNat := pow_add _ _ _
    _ ≤ m * 2 ^ (e - f - low).toNat := Nat.mul_le_mul_right _ (Nat.log2_self_le hm.ne')

/-- A quotient is rounded once. -/
theorem faithful_div (hx : parts? x = some a) (hy : parts? y = some b) (hb0 : b.value ≠ 0)
    (hq : |a.value / b.value| ≤ largest) : Faithful (a.value / b.value) (x / y) := by
  have hmodel : (x / y).toModel = Float.Model.pack
    (UnpackedFloat.div .binary64 x.toModel.unpack y.toModel.unpack) := rfl
  rcases unpack_of_parts? hy with ⟨t, -, hzero⟩ | ⟨t, n, f, hn, hyu, rfl⟩
  · exact absurd hzero hb0
  rcases unpack_of_parts? hx with ⟨s, hxu, ha0⟩ | ⟨s, m, e, hm, hxu, rfl⟩
  · rw [ha0, zero_div]
    rw [hxu, hyu] at hmodel
    apply faithful_zero
    rw [unpack_packed hmodel]
    exact UnpackedFloat.unpack_packedZero
  · rw [hxu, hyu, UnpackedFloat.div] at hmodel
    simp only [UnpackedFloat.divCore] at hmodel
    generalize hlow : min (e - f) (Format.targetExponent .binary64
      (totalExponent m e - totalExponent n f)) = low at hmodel
    have hle : low ≤ e - f := hlow ▸ min_le_left _ _
    have hshift : (m : ℚ) / n * 2 ^ (e - f) =
        ((m <<< (e - f - low).toNat : Nat) : ℚ) / n * 2 ^ low := by
      obtain ⟨k, hk⟩ : ∃ k : Nat, e - f - low = k := ⟨(e - f - low).toNat, by omega⟩
      rw [hk, Int.toNat_natCast, Nat.shiftLeft_eq, show e - f = k + low by omega,
        zpow_add₀ two_ne_zero, zpow_natCast]
      push_cast
      ring
    have hfits := le_shifted_div hm hn hlow
    have hnonneg : (0 : ℚ) ≤ (m : ℚ) / n * 2 ^ (e - f) := by positivity
    rw [value_div, hshift] at hq ⊢
    refine faithful_of_roundWithAccuracy hmodel (locates_div _ hn low)
      (le_targetExponent hfits) ?_
    rw [hshift] at hnonneg
    split at hq
    · rwa [abs_neg, abs_of_nonneg hnonneg] at hq
    · rwa [abs_of_nonneg hnonneg] at hq

theorem log2_mul_two_pow {m : Nat} (hm : 0 < m) (k : Nat) : (m * 2 ^ k).log2 = m.log2 + k := by
  rw [Nat.log2_eq_iff (by positivity), add_right_comm, pow_add, pow_add]
  constructor
  · exact Nat.mul_le_mul_right _ (Nat.log2_self_le hm.ne')
  · exact Nat.mul_lt_mul_of_pos_right Nat.lt_log2_self (by positivity)

/-- A magnitude that is shifted to more bits before it is rounded. -/
theorem faithful_of_round {x : Float} {s : Sign} (hm : 0 < m)
    (hx : x.toModel = Float.Model.pack (UnpackedFloat.round .binary64 s m e))
    (hq : (m : ℚ) * 2 ^ e ≤ largest) :
    Faithful (if s == .negative then -((m : ℚ) * 2 ^ e) else m * 2 ^ e) x := by
  simp only [UnpackedFloat.round, UnpackedFloat.decreaseExponent] at hx
  generalize htarget : Format.targetExponent .binary64 (totalExponent m e) = target at hx
  obtain ⟨k, hk⟩ : ∃ k : Nat, (e - target).toNat = k := ⟨_, rfl⟩
  rw [hk, Nat.shiftLeft_eq] at hx
  have hvalue : (m : ℚ) * 2 ^ e = (m * 2 ^ k : Nat) * 2 ^ (e - k) := by
    rw [zpow_sub₀ two_ne_zero, zpow_natCast]
    push_cast
    field_simp
  have hlog := log2_mul_two_pow hm k
  have hfits : e - k ≤ Format.targetExponent .binary64 (totalExponent (m * 2 ^ k) (e - k)) := by
    rw [targetExponent_eq, totalExponent] at htarget ⊢
    omega
  rw [hvalue] at hq ⊢
  exact faithful_of_roundWithAccuracy hx (locates_exact _ _) hfits hq

theorem faithful_of_normalize {x : Float} {n : ℤ}
    (hx : x.toModel = Float.Model.pack (UnpackedFloat.normalize .binary64 n e .positive))
    (hq : |(n : ℚ) * 2 ^ e| ≤ largest) : Faithful (n * 2 ^ e) x := by
  have hscale : (0 : ℚ) < 2 ^ e := by positivity
  unfold UnpackedFloat.normalize at hx
  split at hx
  · case h_1 hlt =>
    have hneg : n < 0 := compare_lt_iff_lt.mp hlt
    obtain ⟨m, rfl⟩ : ∃ m : Nat, n = -m := ⟨n.natAbs, by omega⟩
    have hm : 0 < m := by omega
    rw [neg_neg, Int.toNat_natCast] at hx
    simp only [Int.cast_neg, Int.cast_natCast, neg_mul, abs_neg] at hq ⊢
    exact faithful_of_round hm hx ((le_abs_self _).trans hq)
  · case h_2 heq =>
    obtain rfl : n = 0 := compare_eq_iff_eq.mp heq
    rw [Int.cast_zero, zero_mul]
    apply faithful_zero
    rw [unpack_packed hx]
    exact UnpackedFloat.unpack_packedZero
  · case h_3 hgt =>
    have hpos : 0 < n := compare_gt_iff_gt.mp hgt
    obtain ⟨m, rfl⟩ := Int.eq_ofNat_of_zero_le hpos.le
    rw [Int.toNat_natCast] at hx
    simp only [Int.cast_natCast] at hq ⊢
    exact faithful_of_round (by omega) hx ((le_abs_self _).trans hq)

theorem apply_shiftLeft (s : Sign) (m : Nat) {e low : ℤ} (hlow : low ≤ e) :
    ((s.apply (m <<< (e - low).toNat : Nat) : ℤ) : ℚ) * 2 ^ low = (s.apply m : ℤ) * 2 ^ e := by
  obtain ⟨k, hk⟩ : ∃ k : Nat, e - low = k := ⟨(e - low).toNat, by omega⟩
  rw [hk, Int.toNat_natCast, Nat.shiftLeft_eq, show e = k + low by omega, zpow_add₀ two_ne_zero,
    zpow_natCast]
  cases s <;> simp only [Sign.apply] <;> push_cast <;> ring

theorem apply_neg (s : Sign) (n : ℤ) : (-s).apply n = -s.apply n := by
  cases s with
  | negative => exact (neg_neg n).symm
  | positive => rfl

theorem parts?_packed {x : Float} {s : Sign} (hm : 0 < m)
    (hx : x.toModel = Float.Model.pack (.finite s m e hm))
    (hcanonical : Parts.Canonical ⟨s == .negative, m, e⟩) :
    parts? x = some ⟨s == .negative, m, e⟩ := by
  rw [parts?_eq_decoded?, unpack_packed hx]
  exact decoded?_pack hm hcanonical

/-- A difference is rounded once. -/
theorem faithful_sub (hx : parts? x = some a) (hy : parts? y = some b)
    (hq : |a.value - b.value| ≤ largest) : Faithful (a.value - b.value) (x - y) := by
  have hmodel : (x - y).toModel = Float.Model.pack
    (UnpackedFloat.sub .binary64 x.toModel.unpack y.toModel.unpack) := rfl
  rcases unpack_of_parts? hx with ⟨s, hxu, ha0⟩ | ⟨s, m, e, hm, hxu, rfl⟩
  · rcases unpack_of_parts? hy with ⟨t, hyu, hb0⟩ | ⟨t, n, f, hn, hyu, rfl⟩
    · rw [ha0, hb0, sub_zero]
      rw [hxu, hyu, UnpackedFloat.sub] at hmodel
      split at hmodel
      all_goals
        apply faithful_zero
        rw [unpack_packed hmodel]
        exact UnpackedFloat.unpack_packedZero
    · obtain ⟨hmantissa, hlow, htop, hnormal⟩ := canonical_of_parts? hy
      rw [hxu, hyu] at hmodel
      have hparts := parts?_packed hn hmodel ⟨hmantissa, hlow, htop, hnormal⟩
      have hvalue : a.value - Parts.value ⟨t == .negative, n, f⟩ =
          Parts.value ⟨-t == .negative, n, f⟩ := by
        rw [ha0, zero_sub, value_signed, value_signed, apply_neg, Int.cast_neg, neg_mul]
      rw [hvalue]
      exact faithful_self hparts
  · rcases unpack_of_parts? hy with ⟨t, hyu, hb0⟩ | ⟨t, n, f, hn, hyu, rfl⟩
    · rw [hxu, hyu] at hmodel
      rw [hb0, sub_zero]
      exact faithful_self (parts?_packed hm hmodel (canonical_of_parts? hx))
    · rw [hxu, hyu, UnpackedFloat.sub] at hmodel
      simp only [UnpackedFloat.decreaseExponent] at hmodel
      have hvalue : Parts.value ⟨s == .negative, m, e⟩ - Parts.value ⟨t == .negative, n, f⟩ =
          ((s.apply (m <<< (e - min e f).toNat : Nat) - t.apply (n <<< (f - min e f).toNat : Nat) :
            ℤ) : ℚ) * 2 ^ min e f := by
        rw [value_signed, value_signed, Int.cast_sub, sub_mul,
          apply_shiftLeft s m (min_le_left e f), apply_shiftLeft t n (min_le_right e f)]
      rw [hvalue] at hq ⊢
      exact faithful_of_normalize hmodel hq

end Multigrad.Double
