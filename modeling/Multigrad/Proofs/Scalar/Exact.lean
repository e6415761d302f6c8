import Multigrad.Scalar
import Mathlib.Data.Rat.Cast.Order

/-!
# Exact numbers

Among rationals, every number is a scalar and has a greatest integer below, and comparing numbers is
comparing their scalars.
-/

namespace Multigrad.Number

theorem toReal_int (n : Int) : (Number.int n).toReal = .ok (n : Rat) := rfl

theorem exists_toReal (number : Number Rat) : ∃ g, number.toReal = .ok g := by
  cases number with
  | int n => exact ⟨n, rfl⟩
  | real r => exact ⟨r, rfl⟩

theorem exists_floor (number : Number Rat) : ∃ n, number.floor? = some n := by
  cases number with
  | int n => exact ⟨n, rfl⟩
  | real r => exact ⟨r.floor, rfl⟩

theorem less_iff_lt {a b : Number Rat} {x y : Rat} (ha : a.toReal = .ok x) (hb : b.toReal = .ok y) :
    a.less b = true ↔ x < y := by
  cases a with
  | int m =>
      obtain rfl := Except.ok.inj ((toReal_int m).symm.trans ha)
      cases b with
      | int n =>
          obtain rfl := Except.ok.inj ((toReal_int n).symm.trans hb)
          exact decide_eq_true_iff.trans Int.cast_lt.symm
      | real s =>
          obtain rfl := Except.ok.inj hb
          exact decide_eq_true_iff
  | real r =>
      obtain rfl := Except.ok.inj ha
      cases b with
      | int n =>
          obtain rfl := Except.ok.inj ((toReal_int n).symm.trans hb)
          exact decide_eq_true_iff
      | real s =>
          obtain rfl := Except.ok.inj hb
          exact decide_eq_true_iff

end Multigrad.Number
