import Multigrad.Proofs.Double.Range
import Multigrad.Proofs.Histogram

/-!
# The lengths of bars

How many cells of a bar are filled is computed from a rounded quotient. Up to a total of `2 ^ 48`
the rounding does not show: a share of the bar that is no whole number of cells is at least
`1 / total` above the next whole number below it, and there is a double in between.
-/

namespace Multigrad.Histogram

open Double (Representable Rounded nearest rounded_nearest)

/-- The least whole number not below is the one that bounds the same numbers. -/
theorem ceiling_le_iff (mantissa : Nat) (exponent : ℤ) (k : Nat) :
    ceiling mantissa exponent ≤ k ↔ (mantissa : ℚ) * 2 ^ exponent ≤ k := by
  unfold ceiling
  split
  · case isTrue hexponent =>
    obtain ⟨n, rfl⟩ := Int.eq_ofNat_of_zero_le hexponent
    rw [Int.toNat_natCast, zpow_natCast, Nat.pow_eq]
    exact_mod_cast Iff.rfl
  · case isFalse hexponent =>
    obtain ⟨n, rfl⟩ : ∃ n : Nat, exponent = -n := ⟨(-exponent).toNat, by omega⟩
    have hpos : 0 < 2 ^ n := Nat.two_pow_pos n
    have hscale : (0 : ℚ) < 2 ^ n := by positivity
    rw [neg_neg, Int.toNat_natCast, zpow_neg, zpow_natCast, Nat.pow_eq, ← div_eq_mul_inv,
      div_le_iff₀ hscale, ← Nat.lt_add_one_iff, Nat.div_lt_iff_lt_mul hpos, Nat.add_mul,
      Nat.one_mul]
    have hle : mantissa + 2 ^ n - 1 < k * 2 ^ n + 2 ^ n ↔ mantissa ≤ k * 2 ^ n := by omega
    rw [hle]
    exact_mod_cast Iff.rfl

/-! ### Shares of a bar -/

section Share

variable {value total : ℤ}

/-- The exact number of cells that a count fills. -/
def exactShare (value total : ℤ) : ℚ := 20 * value / total

theorem exactShare_eq (hvalue : 0 ≤ value) (hpos : 0 < total) :
    exactShare value total = (barWidth * value.natAbs : Nat) / total.natAbs := by
  obtain ⟨n, rfl⟩ := Int.eq_ofNat_of_zero_le hvalue
  obtain ⟨m, rfl⟩ := Int.eq_ofNat_of_zero_le hpos.le
  rw [exactShare, barWidth]
  push_cast
  rfl

theorem exactShare_le_iff (hpos : 0 < total) (k : ℤ) :
    exactShare value total ≤ k ↔ 20 * value ≤ k * total := by
  have hpos' : (0 : ℚ) < total := by exact_mod_cast hpos
  rw [exactShare, div_le_iff₀ hpos']
  exact_mod_cast Iff.rfl

theorem exactShare_le (hle : value ≤ total) (hpos : 0 < total) : exactShare value total ≤ 20 := by
  have hbound : exactShare value total ≤ (20 : ℤ) := (exactShare_le_iff hpos 20).mpr (by omega)
  exact_mod_cast hbound

theorem exactShare_nonneg (hvalue : 0 ≤ value) (hpos : 0 < total) :
    0 ≤ exactShare value total := by
  have hvalue' : (0 : ℚ) ≤ value := by exact_mod_cast hvalue
  have hpos' : (0 : ℚ) < total := by exact_mod_cast hpos
  unfold exactShare
  positivity

/-- Between a whole number and a larger share there is a double. -/
theorem exists_between {k : Nat} (hpos : 0 < total) (htotal : total ≤ 2 ^ 48) (hk : k ≤ 20)
    (hlt : (k : ℚ) < exactShare value total) :
    ∃ bound, Representable bound ∧ (k : ℚ) < bound ∧ bound ≤ exactShare value total := by
  have hpos' : (0 : ℚ) < total := by exact_mod_cast hpos
  have htotal' : (total : ℚ) ≤ 2 ^ 48 := by exact_mod_cast htotal
  refine ⟨k + 1 / 2 ^ 48, ⟨k * 2 ^ 48 + 1, -48, ?_, ?_, by norm_num⟩, ?_, ?_⟩
  · push_cast
    norm_num
    ring
  · rw [abs_of_nonneg (by positivity)]
    omega
  · linarith [show (0 : ℚ) < 1 / 2 ^ 48 by norm_num]
  · -- Both sides are integers, so they differ by one at least.
    have hnumerator : k * total + 1 ≤ 20 * value := by
      rw [exactShare, lt_div_iff₀ hpos'] at hlt
      have hlt' : (k : ℤ) * total < 20 * value := by exact_mod_cast hlt
      omega
    have hnumerator' : (k : ℚ) * total + 1 ≤ 20 * value := by exact_mod_cast hnumerator
    rw [exactShare, le_div_iff₀ hpos', add_mul]
    linarith

/-- The rounded share and the exact one are below the same whole numbers. -/
theorem rounded_le_iff {mantissa k : Nat} {exponent : ℤ}
    (hrounded : Rounded (exactShare value total) mantissa exponent) (hpos : 0 < total)
    (htotal : total ≤ 2 ^ 48) (hk : k ≤ 20) :
    (mantissa : ℚ) * 2 ^ exponent ≤ k ↔ exactShare value total ≤ k := by
  constructor
  · intro hle
    by_contra hlt
    obtain ⟨bound, hbound, hbelow, habove⟩ :=
      exists_between hpos htotal hk (not_le.mp hlt)
    exact (hbelow.trans_le (hrounded.ge_of_ge hbound habove)).not_ge hle
  · intro hle
    refine hrounded.le_of_le ⟨k, 0, by simp, ?_, by norm_num⟩ hle
    rw [abs_of_nonneg (Int.natCast_nonneg k)]
    omega

/-! ### Filled cells -/

/-- A share of the total is never too large for a double. -/
theorem filledCells_eq (hvalue : 0 ≤ value) (hle : value ≤ total) (hpos : 0 < total) :
    ∃ mantissa exponent, Rounded (exactShare value total) mantissa exponent ∧
      filledCells value total =
        .ok (if value = 0 then 0 else min barWidth (ceiling mantissa exponent)) := by
  have hden : 0 < total.natAbs := Int.natAbs_pos.mpr hpos.ne'
  have hrounded := rounded_nearest (barWidth * value.natAbs) hden
  rw [← exactShare_eq hvalue hpos] at hrounded
  refine ⟨_, _, hrounded, ?_⟩
  have hsmall : exactShare value total < Double.overflowBound :=
    calc exactShare value total ≤ 20 := exactShare_le hle hpos
      _ ≤ 2 ^ 53 := by norm_num
      _ ≤ Double.largest := Double.two_pow_le_largest
      _ < Double.overflowBound := Double.largest_lt_overflowBound
  have hrange := (Double.outOfRange_nearest_iff (barWidth * value.natAbs) hden).not.mpr
    (exactShare_eq hvalue hpos ▸ hsmall.not_ge)
  have hzero : value ≤ 0 ↔ value = 0 := by omega
  unfold filledCells
  rw [if_neg hpos.not_ge]
  dsimp only
  rw [if_neg hrange]
  simp only [hzero]
  split <;> rfl

/-- As many cells are filled as the exact share needs. -/
theorem filledCells_eq_ceil (hvalue : 0 ≤ value) (hle : value ≤ total) (hpos : 0 < total)
    (htotal : total ≤ 2 ^ 48) :
    filledCells value total = .ok ⌈exactShare value total⌉₊ := by
  obtain ⟨mantissa, exponent, hrounded, hfilled⟩ := filledCells_eq hvalue hle hpos
  rw [hfilled]
  congr 1
  have htop : ⌈exactShare value total⌉₊ ≤ 20 :=
    Nat.ceil_le.mpr (exactShare_le hle hpos)
  by_cases hzero : value = 0
  · rw [if_pos hzero, hzero, exactShare, Int.cast_zero, mul_zero, zero_div, Nat.ceil_zero]
  · have hceiling {k : Nat} (hk : k ≤ 20) :
        ceiling mantissa exponent ≤ k ↔ ⌈exactShare value total⌉₊ ≤ k := by
      rw [ceiling_le_iff, rounded_le_iff hrounded hpos htotal hk, Nat.ceil_le]
    have hwidth := (hceiling le_rfl).mpr htop
    rw [if_neg hzero, barWidth, min_eq_right hwidth]
    exact le_antisymm ((hceiling htop).mpr le_rfl) ((hceiling hwidth).mp le_rfl)

/-- All of a total fills the bar, however large it is: the quotient is a double. -/
theorem filledCells_total (hpos : 0 < total) : filledCells total total = .ok barWidth := by
  obtain ⟨mantissa, exponent, hrounded, hfilled⟩ := filledCells_eq hpos.le le_rfl hpos
  have hwhole : ((20 : ℤ) : ℚ) ≤ exactShare total total := by
    have hpos' : (total : ℚ) ≠ 0 := by exact_mod_cast hpos.ne'
    rw [exactShare, mul_div_assoc, div_self hpos', mul_one, Int.cast_ofNat]
  have hfull : barWidth ≤ ceiling mantissa exponent := by
    by_contra hlt
    have hle := (ceiling_le_iff mantissa exponent 19).mp (Nat.le_of_lt_succ (not_le.mp hlt))
    have hge := hrounded.ge_of_ge (Double.representable_int (by decide)) hwhole
    have hcontra := hge.trans hle
    norm_num at hcontra
  rw [hfilled, if_neg hpos.ne', min_eq_left hfull]

theorem ceil_share_le_iff (hpos : 0 < total) (k : Nat) :
    ⌈exactShare value total⌉₊ ≤ k ↔ 20 * value ≤ k * total := by
  rw [Nat.ceil_le, ← exactShare_le_iff hpos, Int.cast_natCast]

theorem ceil_share_mono {larger : ℤ} (hpos : 0 < total) (hle : value ≤ larger) :
    ⌈exactShare value total⌉₊ ≤ ⌈exactShare larger total⌉₊ := by
  rw [ceil_share_le_iff hpos]
  calc 20 * value ≤ 20 * larger := by omega
    _ ≤ ⌈exactShare larger total⌉₊ * total := (ceil_share_le_iff hpos _).mp le_rfl

theorem count_bar (filled : Nat) :
    (bar filled).toList.count '█' = filled ∧ (bar filled).toList.count '⋅' = barWidth - filled := by
  simp [bar, List.count_replicate]

/-- **Bars are exact.** Up to a total of `2 ^ 48`, the number of filled cells is the exact share of
twenty cells, rounded up. So a bar has twenty cells, is empty for nothing only, full for more than
nineteen twentieths, and never shorter for more. -/
theorem line_exact (hvalue : 0 ≤ value) (hle : value ≤ total) (hpos : 0 < total)
    (htotal : total ≤ 2 ^ 48) :
    ∃ filled : Nat, filledCells value total = .ok filled ∧
      (filled : ℤ) = ⌈exactShare value total⌉ ∧
      (∀ label, line label value total = .ok (Text.padLeft 16 label ++ ": " ++ bar filled ++ " " ++
        Text.padRight 6 (toString value))) ∧
      (bar filled).length = 20 ∧ (bar filled).toList.count '█' = filled ∧
      (bar filled).toList.count '⋅' = 20 - filled ∧
      (filled = 0 ↔ value = 0) ∧ (filled = 20 ↔ 19 * total < 20 * value) ∧
      ∀ larger, value ≤ larger → larger ≤ total →
        ∃ filled', filledCells larger total = .ok filled' ∧ filled ≤ filled' := by
  have hfilled := filledCells_eq_ceil hvalue hle hpos htotal
  have hnonneg := exactShare_nonneg hvalue hpos
  have htop : ⌈exactShare value total⌉₊ ≤ 20 := Nat.ceil_le.mpr (exactShare_le hle hpos)
  obtain ⟨hcells, hrest⟩ := count_bar ⌈exactShare value total⌉₊
  refine ⟨_, hfilled, Int.natCast_ceil_eq_ceil hnonneg, ?_, length_bar htop, hcells, hrest, ?_, ?_,
    ?_⟩
  · intro label
    exact bind_eq_ok.mpr ⟨_, hfilled, rfl⟩
  · have hempty : ⌈exactShare value total⌉₊ ≤ 0 ↔ 20 * value ≤ (0 : Nat) * total :=
      ceil_share_le_iff hpos 0
    omega
  · have hfull : ⌈exactShare value total⌉₊ ≤ 19 ↔ 20 * value ≤ (19 : Nat) * total :=
      ceil_share_le_iff hpos 19
    omega
  · intro larger hmore hlarger
    exact ⟨_, filledCells_eq_ceil (hvalue.trans hmore) hlarger hpos htotal,
      ceil_share_mono hpos hmore⟩

end Share

/-- A bar is full from the least count on that is above nineteen twentieths, however little. -/
theorem line_exact_barely :
    ∃ filled, filledCells 267401227875109 (2 ^ 48 - 15) = .ok filled ∧ filled = 20 := by
  obtain ⟨filled, hfilled, -, -, -, -, -, -, hfull, -⟩ :=
    @line_exact 267401227875109 (2 ^ 48 - 15) (by decide) (by decide) (by decide) (by decide)
  exact ⟨filled, hfilled, hfull.mpr (by decide)⟩

/-- What is shown of a total: a full bar, or an empty one if there is nothing, and the total. -/
def totalText (label : String) (total : Nat) : String :=
  Text.padLeft 16 label ++ ": " ++ bar (if total = 0 then 0 else barWidth) ++ " " ++
    Text.padRight 6 (toString total)

theorem line_total (label : String) (total : Nat) :
    line label total total = .ok (totalText label total) := by
  have hfilled : filledCells total total = .ok (if total = 0 then 0 else barWidth) := by
    split
    · case isTrue hnone => exact if_pos (by omega)
    · case isFalse hsome => exact filledCells_total (by omega)
  exact bind_eq_ok.mpr ⟨_, hfilled, rfl⟩

end Multigrad.Histogram
