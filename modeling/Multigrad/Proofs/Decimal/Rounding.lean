import Multigrad.Decimal.Rounding

/-!
# Rounding to natural numbers

A rounded ratio is one of the two natural numbers around it, and how long its text is depends on its
size alone.
-/

namespace Multigrad.Decimal

variable {n d k : Nat}

theorem div_le_roundDiv (n d : Nat) : n / d ≤ roundDiv n d := by
  unfold roundDiv
  dsimp only
  split
  · exact Nat.le_refl _
  · split <;> omega

theorem roundDiv_le_succ (n d : Nat) : roundDiv n d ≤ n / d + 1 := by
  unfold roundDiv
  dsimp only
  split
  · omega
  · split <;> omega

/-- What is above a natural number by less than half is not rounded above it. -/
theorem roundDiv_le (hn : 2 * n < (2 * k + 1) * d) : roundDiv n d ≤ k := by
  have hdivision := Nat.div_add_mod n d
  rcases Nat.lt_trichotomy (n / d) k with hlt | heq | hgt
  · have := roundDiv_le_succ n d
    omega
  · have hhalf : 2 * (n % d) < d := by
      rw [heq] at hdivision
      rw [← hdivision, Nat.add_mul, Nat.one_mul, Nat.mul_assoc 2 k d, Nat.mul_comm k d] at hn
      omega
    have hdown : roundDiv n d = k := by rw [roundDiv, if_pos hhalf, heq]
    exact Nat.le_of_eq hdown
  · have hlow : d * (k + 1) ≤ d * (n / d) := Nat.mul_le_mul_left d hgt
    rw [Nat.mul_add, Nat.mul_one, Nat.mul_comm d k] at hlow
    rw [Nat.add_mul, Nat.one_mul, Nat.mul_assoc 2 k d] at hn
    omega

theorem roundDiv_le_of_le (hd : 0 < d) (hn : n ≤ k * d) : roundDiv n d ≤ k := by
  apply roundDiv_le
  rw [Nat.add_mul, Nat.one_mul, Nat.mul_assoc 2 k d]
  omega

theorem le_roundDiv (hd : 0 < d) (hn : k * d ≤ n) : k ≤ roundDiv n d :=
  Nat.le_trans ((Nat.le_div_iff_mul_le hd).mpr hn) (div_le_roundDiv n d)

end Multigrad.Decimal
