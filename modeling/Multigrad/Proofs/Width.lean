import Multigrad.Histogram
import Mathlib.Tactic.Linarith

/-!
# Widths

Padding brings a text to a least width and leaves longer ones as they are, so the width of a line is
a matter of its longest parts. How many characters a number takes is a matter of its size.
-/

namespace Multigrad

namespace Text

theorem length_blanks (count : Nat) : (blanks count).length = count := by
  simp [blanks]

theorem length_padLeft (width : Nat) (text : String) :
    (padLeft width text).length = max width text.length := by
  rw [padLeft, String.length_append, length_blanks]
  omega

theorem length_padRight (width : Nat) (text : String) :
    (padRight width text).length = max width text.length := by
  rw [padRight, String.length_append, length_blanks]
  omega

end Text

namespace Decimal

theorem length_pos (n : Nat) : 0 < length n := Nat.length_toDigits_pos

theorem length_le_iff {n k : Nat} (hk : 0 < k) : length n ≤ k ↔ n < 10 ^ k :=
  Nat.length_toDigits_le_iff (by decide) hk

theorem length_toString (n : Nat) : (toString (n : ℤ)).length = length n := by
  change (Nat.repr n).length = length n
  rw [Nat.repr, String.length_ofList, length]

theorem length_digitsText (width n : Nat) :
    (digitsText width n).length = max width (length n) := by
  simp only [digitsText, String.length_ofList, List.length_append, List.length_replicate, length]
  omega

/-- Two places behind the point, and all digits before it. -/
theorem length_pointText {places : Nat} (hplaces : 0 < places) (units : Nat) :
    (pointText places units).length = length (units / 10 ^ places) + 1 + places := by
  have hrest : length (units % 10 ^ places) ≤ places :=
    (length_le_iff hplaces).mpr (Nat.mod_lt _ (Nat.pow_pos (by decide)))
  have hwhole := length_pos (units / 10 ^ places)
  have hpoint : ".".length = 1 := rfl
  rw [pointText, Nat.pow_eq, if_neg hplaces.ne', String.length_append, String.length_append,
    length_digitsText, length_digitsText, hpoint]
  omega

end Decimal

namespace Double

theorem length_fixed {places : Nat} (hplaces : 0 < places) {x : Float} {parts : Parts}
    (hparts : parts? x = some parts) :
    (fixed places x).length = (if parts.negative then 1 else 0) +
      Decimal.length (Decimal.roundDiv (parts.ratio.1 * 10 ^ places) parts.ratio.2 / 10 ^ places) +
        1 + places := by
  simp only [fixed, finiteText, hparts, withSign, Nat.pow_eq]
  split
  · have hsign : "-".length = 1 := rfl
    rw [String.length_append, hsign, Decimal.length_pointText hplaces]
    omega
  · rw [Decimal.length_pointText hplaces]
    omega

end Double

end Multigrad
