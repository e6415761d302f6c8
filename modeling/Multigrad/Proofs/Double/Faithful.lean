import Multigrad.Proofs.Double.Exact

/-!
# Faithful rounding

Between a rational and the double that it is rounded to there is no other double. Ties do not matter
for that: it is enough that a mantissa is rounded to one of its two neighbours at the exponent where
it has 53 bits.
-/

namespace Multigrad.Double

/-- A rational with at most 53 bits, none of them below the least one of doubles. -/
def Representable (q : ℚ) : Prop :=
  ∃ (n : ℤ) (e : ℤ), q = n * 2 ^ e ∧ |n| ≤ 2 ^ 53 ∧ -1074 ≤ e

theorem representable_int {n : ℤ} (hn : |n| ≤ 2 ^ 53) : Representable n :=
  ⟨n, 0, by simp, hn, by omega⟩

theorem Representable.neg {q : ℚ} (hq : Representable q) : Representable (-q) := by
  obtain ⟨n, e, rfl, hn, he⟩ := hq
  exact ⟨-n, e, by push_cast; ring, by rwa [abs_neg], he⟩

/-- The largest finite double. -/
def largest : ℚ := (2 ^ 53 - 1) * 2 ^ (971 : ℤ)

theorem largest_lt : largest < 2 ^ (1024 : ℤ) := by
  have hscale : (0 : ℚ) < 2 ^ (971 : ℤ) := by positivity
  calc largest < 2 ^ (53 : ℤ) * 2 ^ (971 : ℤ) :=
        mul_lt_mul_of_pos_right (by norm_num) hscale
    _ = 2 ^ (1024 : ℤ) := (zpow_add₀ two_ne_zero 53 971).symm

theorem two_pow_le_largest : (2 : ℚ) ^ 53 ≤ largest := by
  have hscale : (2 : ℚ) ^ (1 : ℤ) ≤ 2 ^ (971 : ℤ) := zpow_le_zpow_right₀ one_le_two (by norm_num)
  calc (2 : ℚ) ^ 53 ≤ (2 ^ 53 - 1) * 2 ^ (1 : ℤ) := by norm_num
    _ ≤ largest := mul_le_mul_of_nonneg_left hscale (by norm_num)

theorem Parts.Canonical.representable {parts : Parts} (hcanonical : parts.Canonical) :
    Representable parts.value := by
  have hmagnitude : Representable parts.magnitude := by
    refine ⟨parts.mantissa, parts.exponent, rfl, ?_, hcanonical.le_exponent⟩
    have := hcanonical.mantissa_lt
    rw [abs_of_nonneg (Int.natCast_nonneg _)]
    omega
  unfold value
  split
  · exact hmagnitude.neg
  · exact hmagnitude

theorem Parts.Canonical.abs_le_largest {parts : Parts} (hcanonical : parts.Canonical) :
    |parts.value| ≤ largest := by
  have hmantissa : (parts.mantissa : ℚ) ≤ 2 ^ 53 - 1 := by
    have := hcanonical.mantissa_lt
    have hle : parts.mantissa + 1 ≤ 2 ^ 53 := this
    have hcast : (parts.mantissa : ℚ) + 1 ≤ 2 ^ 53 := by exact_mod_cast hle
    linarith
  have hexponent : (2 : ℚ) ^ parts.exponent ≤ 2 ^ (971 : ℤ) :=
    zpow_le_zpow_right₀ one_le_two hcanonical.exponent_le
  rw [parts.abs_value, magnitude, largest]
  exact mul_le_mul hmantissa hexponent (by positivity) (by norm_num)

/-- A magnitude that is rounded to a mantissa at an exponent: the mantissa is one of the two
neighbours, and the exponent is the one where the magnitude has 53 bits, unless that is too low. -/
structure Rounded (q : ℚ) (mantissa : Nat) (exponent : ℤ) : Prop where
  nonneg : 0 ≤ q
  below : ∀ k : ℤ, k * 2 ^ exponent ≤ q → k ≤ mantissa
  above : ∀ k : ℤ, q ≤ k * 2 ^ exponent → mantissa ≤ k
  le_exponent : -1074 ≤ exponent
  lt_top : q < 2 ^ (exponent + 53)
  normal : 2 ^ (exponent + 52) ≤ q ∨ exponent = -1074

namespace Rounded

variable {q : ℚ} {mantissa : Nat} {exponent : ℤ}

theorem mantissa_le (hrounded : Rounded q mantissa exponent) : mantissa ≤ 2 ^ 53 := by
  have htop : q ≤ ((2 ^ 53 : ℤ) : ℚ) * 2 ^ exponent := by
    have := hrounded.lt_top.le
    rw [zpow_add₀ two_ne_zero] at this
    push_cast
    linarith
  exact_mod_cast hrounded.above _ htop

theorem le_mantissa (hrounded : Rounded q mantissa exponent) :
    2 ^ 52 ≤ mantissa ∨ exponent = -1074 := by
  refine hrounded.normal.imp_left fun hnormal => ?_
  have hlow : ((2 ^ 52 : ℤ) : ℚ) * 2 ^ exponent ≤ q := by
    rw [zpow_add₀ two_ne_zero] at hnormal
    push_cast
    linarith
  exact_mod_cast hrounded.below _ hlow

/-- A bound at the exponent or above it is a whole number of units. -/
theorem exists_units {b : ℤ} {f : ℤ} (hf : exponent ≤ f) :
    ∃ k : ℤ, (b : ℚ) * 2 ^ f = k * 2 ^ exponent := by
  obtain ⟨n, rfl⟩ : ∃ n : Nat, f = exponent + n := ⟨(f - exponent).toNat, by omega⟩
  refine ⟨b * 2 ^ n, ?_⟩
  rw [zpow_add₀ two_ne_zero, zpow_natCast]
  push_cast
  ring

theorem le_of_lt_exponent {b : ℤ} {f : ℤ} (hb : |b| ≤ 2 ^ 53) (hf : f < exponent) :
    (b : ℚ) * 2 ^ f ≤ 2 ^ (exponent + 52) := by
  have hscale : (0 : ℚ) < 2 ^ f := by positivity
  have hb' : (b : ℚ) ≤ 2 ^ 53 := by exact_mod_cast (le_abs_self b).trans hb
  calc (b : ℚ) * 2 ^ f ≤ 2 ^ 53 * 2 ^ f := mul_le_mul_of_nonneg_right hb' hscale.le
    _ = 2 ^ (f + 53) := by rw [zpow_add₀ two_ne_zero, mul_comm]; norm_cast
    _ ≤ 2 ^ (exponent + 52) := zpow_le_zpow_right₀ one_le_two (by omega)

theorem le_of_le (hrounded : Rounded q mantissa exponent) {bound : ℚ}
    (hbound : Representable bound) (hle : q ≤ bound) : (mantissa : ℚ) * 2 ^ exponent ≤ bound := by
  have hscale : (0 : ℚ) < 2 ^ exponent := by positivity
  obtain ⟨b, f, rfl, hb, hf⟩ := hbound
  by_cases hexponent : exponent ≤ f
  · obtain ⟨k, hk⟩ := exists_units (b := b) hexponent
    rw [hk] at hle ⊢
    exact mul_le_mul_of_nonneg_right (by exact_mod_cast hrounded.above k hle) hscale.le
  · -- The bound has as many bits as there are, so that nothing is below it but itself.
    have hbound := le_of_lt_exponent hb (not_le.mp hexponent)
    have hnormal := hrounded.normal.resolve_right (by omega)
    have heq : q = ((2 ^ 52 : ℤ) : ℚ) * 2 ^ exponent := by
      rw [zpow_add₀ two_ne_zero] at hnormal hbound
      push_cast
      linarith
    have hmantissa := hrounded.above _ heq.le
    calc (mantissa : ℚ) * 2 ^ exponent ≤ ((2 ^ 52 : ℤ) : ℚ) * 2 ^ exponent :=
          mul_le_mul_of_nonneg_right (by exact_mod_cast hmantissa) hscale.le
      _ = q := heq.symm
      _ ≤ b * 2 ^ f := hle

theorem ge_of_ge (hrounded : Rounded q mantissa exponent) {bound : ℚ}
    (hbound : Representable bound) (hge : bound ≤ q) : bound ≤ (mantissa : ℚ) * 2 ^ exponent := by
  have hscale : (0 : ℚ) < 2 ^ exponent := by positivity
  obtain ⟨b, f, rfl, hb, hf⟩ := hbound
  by_cases hexponent : exponent ≤ f
  · obtain ⟨k, hk⟩ := exists_units (b := b) hexponent
    rw [hk] at hge ⊢
    exact mul_le_mul_of_nonneg_right (by exact_mod_cast hrounded.below k hge) hscale.le
  · have hmantissa := hrounded.le_mantissa.resolve_right (by omega)
    calc (b : ℚ) * 2 ^ f ≤ 2 ^ (exponent + 52) := le_of_lt_exponent hb (not_le.mp hexponent)
      _ = 2 ^ 52 * 2 ^ exponent := by rw [zpow_add₀ two_ne_zero, mul_comm]; norm_cast
      _ ≤ mantissa * 2 ^ exponent :=
          mul_le_mul_of_nonneg_right (by exact_mod_cast hmantissa) hscale.le

/-- A carry leaves the value as it is. -/
theorem carry_value (mantissa : Nat) (exponent : ℤ) :
    ((carry mantissa exponent).1 : ℚ) * 2 ^ (carry mantissa exponent).2 =
      mantissa * 2 ^ exponent := by
  unfold carry
  split
  · case isTrue hfull =>
    rw [hfull, zpow_add_one₀ two_ne_zero]
    push_cast
    ring
  · rfl

theorem carry_canonical (hrounded : Rounded q mantissa exponent) (negative : Bool)
    (htop : (carry mantissa exponent).2 ≤ 971) :
    Parts.Canonical ⟨negative, (carry mantissa exponent).1, (carry mantissa exponent).2⟩ := by
  have hmantissa := hrounded.mantissa_le
  have hnormal := hrounded.le_mantissa
  have hexponent := hrounded.le_exponent
  unfold carry at htop ⊢
  simp only [Nat.pow_eq] at htop ⊢
  split
  · case isTrue hfull =>
    rw [if_pos hfull] at htop
    constructor <;> dsimp only at htop ⊢ <;> omega
  · case isFalse hfull =>
    rw [if_neg hfull] at htop
    constructor <;> dsimp only at htop ⊢ <;> omega

/-- What a finite double can stand for does not leave the range. -/
theorem carry_le_of_le (hrounded : Rounded q mantissa exponent) (hq : q ≤ largest) :
    (carry mantissa exponent).2 ≤ 971 := by
  have hexponent : exponent ≤ 971 := by
    rcases hrounded.normal with hnormal | hlow
    · have hlt : (2 : ℚ) ^ (exponent + 52) < 2 ^ (1024 : ℤ) :=
        (hnormal.trans hq).trans_lt largest_lt
      rw [zpow_lt_zpow_iff_right₀ one_lt_two] at hlt
      omega
    · omega
  unfold carry
  split
  · case isTrue hfull =>
    have hne : exponent ≠ 971 := by
      rintro rfl
      have hmantissa := hrounded.above (2 ^ 53 - 1) (by
        rw [largest] at hq
        generalize (2 : ℚ) ^ (971 : ℤ) = scale at hq ⊢
        exact_mod_cast hq)
      rw [hfull, Nat.pow_eq] at hmantissa
      norm_num at hmantissa
    dsimp only
    omega
  · exact hexponent

end Rounded

/-- A double that a rational is rounded to: no representable rational is in between. -/
def Faithful (q : ℚ) (x : Float) : Prop :=
  ∃ parts, parts? x = some parts ∧ ∀ bound, Representable bound →
    (q ≤ bound → parts.value ≤ bound) ∧ (bound ≤ q → bound ≤ parts.value)

theorem Rounded.faithful {q : ℚ} {mantissa : Nat} {exponent : ℤ}
    (hrounded : Rounded q mantissa exponent) {negative : Bool} {x : Float}
    (hparts : parts? x =
      some ⟨negative, (carry mantissa exponent).1, (carry mantissa exponent).2⟩) :
    Faithful (if negative then -q else q) x := by
  refine ⟨_, hparts, fun bound hbound => ?_⟩
  simp only [Parts.value, Parts.magnitude, Rounded.carry_value]
  cases negative with
  | false => exact ⟨hrounded.le_of_le hbound, hrounded.ge_of_ge hbound⟩
  | true =>
    simp only [if_true]
    constructor
    · intro hle
      exact neg_le.mp (hrounded.ge_of_ge hbound.neg (neg_le.mp hle))
    · intro hge
      exact le_neg.mp (hrounded.le_of_le hbound.neg (le_neg.mp hge))

end Multigrad.Double
