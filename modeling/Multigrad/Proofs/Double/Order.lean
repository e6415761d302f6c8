import Multigrad.Double.Completion

/-!
# The order of doubles

Every comparison of doubles asks the same question: how the two are ordered, if they are. An
undefined double has no order, not even with itself. The comparisons of `Scalar` are read off that
answer here, and the answers for the two infinities are worked out, so that nothing later has to
look into a double again.
-/

namespace Multigrad.Double

open Float.Model (UnpackedFloat)
open Float.Model.UnpackedFloat (Sign)

/-- How two doubles are ordered; an undefined one is not ordered with anything. -/
def order (a b : Float) : Option Ordering := a.toModel.unpack.compare b.toModel.unpack

theorem less_eq_order (a b : Float) : Scalar.less a b = (order a b == some .lt) := by
  change decide (decide (a.toModel.unpack.lt b.toModel.unpack = true) = true) = _
  rw [Bool.decide_eq_true, Bool.decide_eq_true]
  rfl

theorem same_eq_order (a b : Float) : Scalar.same a b = (order a b == some .eq) := rfl

/-! ### Decoded doubles -/

theorem compare_sign_swap (s t : Sign) : compare t s = (compare s t).swap := by
  cases s <;> cases t <;> rfl

theorem compare_parts_swap (m n : Nat) (d e : Int) :
    (compare e d).then (compare n m) = ((compare d e).then (compare m n)).swap := by
  rw [Ordering.swap_then, Int.compare_swap, Nat.compare_swap]

theorem compare_swap (x y : UnpackedFloat) : y.compare x = (x.compare y).map Ordering.swap := by
  cases x with
  | notANumber => cases y <;> rfl
  | infinity s =>
      cases y with
      | infinity t => exact congrArg some (compare_sign_swap s t)
      | _ => cases s <;> rfl
  | zero s =>
      cases y with
      | infinity t => cases t <;> rfl
      | finite t n e hn => cases t <;> rfl
      | _ => rfl
  | finite s m d hm =>
      cases y with
      | notANumber => cases s <;> rfl
      | infinity t => cases s <;> cases t <;> rfl
      | zero t => cases s <;> rfl
      | finite t n e hn =>
          cases s <;> cases t
          · exact congrArg (fun o => some o.swap) (compare_parts_swap m n d e)
          · rfl
          · rfl
          · exact congrArg some (compare_parts_swap m n d e)

theorem isSome_compare (x y : UnpackedFloat) :
    (x.compare y).isSome = (!x.isNaN && !y.isNaN) := by
  cases x with
  | notANumber => rfl
  | infinity s => cases y <;> cases s <;> rfl
  | zero s =>
      cases y with
      | infinity t => cases t <;> rfl
      | finite t n e hn => cases t <;> rfl
      | _ => rfl
  | finite s m d hm =>
      cases y with
      | notANumber => cases s <;> rfl
      | infinity t => cases s <;> cases t <;> rfl
      | zero t => cases s <;> rfl
      | finite t n e hn => cases s <;> cases t <;> rfl

theorem compare_lowest_ne_gt (y : UnpackedFloat) :
    UnpackedFloat.compare (.infinity .negative) y ≠ some .gt := by
  cases y with
  | infinity t => cases t <;> decide
  | _ => intro h; cases h

theorem lowest_compare_of_gt {x y : UnpackedFloat} (hgt : x.compare y = some .gt) :
    UnpackedFloat.compare (.infinity .negative) x = some .lt := by
  cases x with
  | notANumber => cases hgt
  | infinity s =>
      cases s with
      | negative => exact absurd hgt (compare_lowest_ne_gt y)
      | positive => rfl
  | _ => rfl

theorem highest_compare_ne_lt (x : UnpackedFloat) :
    UnpackedFloat.compare (.infinity .positive) x ≠ some .lt := by
  cases x with
  | infinity t => cases t <;> decide
  | _ => intro h; cases h

theorem compare_highest_of_lt {x y : UnpackedFloat} (hlt : y.compare x = some .lt) :
    y.compare (.infinity .positive) = some .lt := by
  cases y with
  | notANumber => cases hlt
  | infinity s =>
      cases s with
      | negative => rfl
      | positive => exact absurd hlt (highest_compare_ne_lt x)
  | zero s => rfl
  | finite s m e hm => cases s <;> rfl

/-! ### Doubles -/

theorem order_swap (a b : Float) : order b a = (order a b).map Ordering.swap :=
  compare_swap a.toModel.unpack b.toModel.unpack

theorem order_eq_none_iff (a b : Float) : order a b = none ↔ a.isNaN ∨ b.isNaN := by
  have hsome : (order a b).isSome = (!a.isNaN && !b.isNaN) := isSome_compare _ _
  rw [← Option.not_isSome_iff_eq_none, hsome]
  cases a.isNaN <;> cases b.isNaN <;> decide

theorem unpack_infinity : infinity.toModel.unpack = .infinity .positive := by rfl

theorem unpack_neg_infinity : (-infinity).toModel.unpack = .infinity .negative := by rfl

theorem order_neg_infinity_of_gt {a b : Float} (hgt : order a b = some .gt) :
    order (-infinity) a = some .lt := by
  rw [order, unpack_neg_infinity]
  exact lowest_compare_of_gt hgt

theorem order_infinity_of_gt {a b : Float} (hgt : order a b = some .gt) :
    order b infinity = some .lt := by
  have hlt : order b a = some .lt := by rw [order_swap, hgt]; rfl
  rw [order, unpack_infinity]
  exact compare_highest_of_lt hlt

theorem order_self (a : Float) : order a a = if a.isNaN then none else some .eq := by
  by_cases hnan : a.isNaN
  · rw [if_pos hnan]
    exact (order_eq_none_iff a a).mpr (Or.inl hnan)
  · rw [if_neg hnan]
    have hsome : order a a ≠ none := fun hnone => by
      rcases (order_eq_none_iff a a).mp hnone with h | h <;> exact hnan h
    obtain ⟨o, ho⟩ := Option.ne_none_iff_exists'.mp hsome
    have hswap := order_swap a a
    rw [ho] at hswap ⊢
    cases o with
    | eq => rfl
    | lt => exact absurd hswap (by decide)
    | gt => exact absurd hswap (by decide)

theorem isMissing_eq_isNaN (a : Float) : Scalar.isMissing a = a.isNaN := by
  rw [Scalar.isMissing, same_eq_order, order_self]
  cases a.isNaN <;> rfl

/-! ### Infinite doubles -/

theorem order_eq_comm {a b : Float} : order a b = some .eq ↔ order b a = some .eq := by
  rw [order_swap a b]
  cases order a b with
  | none => decide
  | some o => cases o <;> decide

theorem order_infinity_eq_iff {a : Float} :
    order a infinity = some .eq ↔ a.toModel.unpack = .infinity .positive := by
  rw [order, unpack_infinity]
  cases a.toModel.unpack with
  | infinity s =>
      cases s with
      | negative => exact iff_of_false nofun nofun
      | positive => exact iff_of_true rfl rfl
  | finite s m e hm => cases s <;> exact iff_of_false nofun nofun
  | _ => exact iff_of_false nofun nofun

theorem order_neg_infinity_eq_iff {a : Float} :
    order a (-infinity) = some .eq ↔ a.toModel.unpack = .infinity .negative := by
  rw [order, unpack_neg_infinity]
  cases a.toModel.unpack with
  | infinity s =>
      cases s with
      | positive => exact iff_of_false nofun nofun
      | negative => exact iff_of_true rfl rfl
  | finite s m e hm => cases s <;> exact iff_of_false nofun nofun
  | _ => exact iff_of_false nofun nofun

section Number

variable {a : Float} (hnumber : a.isNaN = false)

include hnumber

theorem order_ne_none {b : Float} (hother : b.isNaN = false) : order a b ≠ none := by
  rw [ne_eq, order_eq_none_iff, hnumber, hother]
  decide

theorem lt_infinity_iff :
    order a infinity = some .lt ↔ order a infinity ≠ some .eq := by
  have hsome : order a infinity ≠ none := order_ne_none hnumber rfl
  have hgt : order a infinity ≠ some .gt := by
    intro hgt
    apply highest_compare_ne_lt a.toModel.unpack
    rw [← unpack_infinity]
    exact (order_swap a infinity).trans (congrArg (Option.map Ordering.swap) hgt)
  cases horder : order a infinity with
  | none => exact absurd horder hsome
  | some o =>
      cases o with
      | gt => exact absurd horder hgt
      | _ => decide

theorem neg_infinity_lt_iff :
    order (-infinity) a = some .lt ↔ order a (-infinity) ≠ some .eq := by
  rw [ne_eq, order_eq_comm]
  have hsome : order (-infinity) a ≠ none := by
    rw [ne_eq, order_eq_none_iff, hnumber]
    decide
  have hgt : order (-infinity) a ≠ some .gt := by
    rw [order, unpack_neg_infinity]
    exact compare_lowest_ne_gt _
  cases horder : order (-infinity) a with
  | none => exact absurd horder hsome
  | some o =>
      cases o with
      | gt => exact absurd horder hgt
      | _ => decide

/-- A number is finite when it is neither infinity. -/
theorem isFinite_iff :
    a.isFinite = true ↔ order a (-infinity) ≠ some .eq ∧ order a infinity ≠ some .eq := by
  rw [ne_eq, ne_eq, order_infinity_eq_iff, order_neg_infinity_eq_iff]
  change a.toModel.unpack.isNaN = false at hnumber
  change a.toModel.unpack.isFinite = true ↔ _
  cases hunpack : a.toModel.unpack with
  | notANumber =>
      rw [hunpack] at hnumber
      cases hnumber
  | infinity s =>
      cases s with
      | negative => exact iff_of_false Bool.false_ne_true fun h => h.1 rfl
      | positive => exact iff_of_false Bool.false_ne_true fun h => h.2 rfl
  | zero s =>
      have hinfinite (sign : Sign) : UnpackedFloat.zero s ≠ .infinity sign := by
        intro heq
        cases heq
      exact iff_of_true rfl ⟨hinfinite _, hinfinite _⟩
  | finite s e m h =>
      have hinfinite (sign : Sign) : UnpackedFloat.finite s e m h ≠ .infinity sign := by
        intro heq
        cases heq
      exact iff_of_true rfl ⟨hinfinite _, hinfinite _⟩

end Number

end Multigrad.Double
