import Multigrad.Double.Basic
import Mathlib.Data.Rat.Floor

/-!
# Limits and integers

A limit is compared with numbers of iterations and evaluations, which are integers. What decides is
the greatest integer below the limit, for doubles as for rationals; a scalar without one, infinite
or undefined, is no limit at all.
-/

namespace Multigrad

/-- Scalars whose greatest integer below decides what integers are above. -/
class Scalar.LawfulFloor (R : Type) [Scalar R] : Prop where
  lessInt_iff {a : R} {n k : Int} : Scalar.floor? a = some n → (Scalar.lessInt a k = true ↔ n < k)

instance : Scalar.LawfulFloor Rat where
  lessInt_iff {a n k} hfloor := by
    obtain rfl := Option.some.inj hfloor
    exact decide_eq_true_iff.trans Rat.floor_lt_iff.symm

namespace Double

theorem Parts.ratio_pos (parts : Parts) : (0 : Int) < parts.ratio.2 := by
  rw [Parts.ratio]
  split
  · exact Int.one_pos
  · exact Int.natCast_pos.mpr (Nat.pow_pos Nat.two_pos)

theorem Parts.compareInt_eq_lt_iff (parts : Parts) (k : Int) :
    parts.compareInt k = .lt ↔ parts.floor < k := by
  have hpos := parts.ratio_pos
  change compare (parts.signed parts.ratio.1) (k * parts.ratio.2) = .lt
    ↔ Int.fdiv (parts.signed parts.ratio.1) parts.ratio.2 < k
  rw [compare_lt_iff_lt, Int.fdiv_eq_ediv_of_nonneg _ hpos.le, Int.ediv_lt_iff_lt_mul hpos]

instance : Scalar.LawfulFloor Float where
  lessInt_iff {a n k} hfloor := by
    obtain ⟨parts, hparts, rfl⟩ := Option.map_eq_some_iff.mp hfloor
    change lessInt a k = true ↔ _
    rw [lessInt, hparts, ← parts.compareInt_eq_lt_iff k]
    exact beq_iff_eq

end Double

theorem Number.less_int_iff {R : Type} [Scalar R] [Scalar.LawfulFloor R] {limit : Number R}
    {n k : Int} (hfloor : limit.floor? = some n) : limit.less (.int k) = true ↔ n < k := by
  cases limit with
  | int m =>
      obtain rfl := Option.some.inj hfloor
      exact decide_eq_true_iff
  | real r => exact Scalar.LawfulFloor.lessInt_iff hfloor

end Multigrad
