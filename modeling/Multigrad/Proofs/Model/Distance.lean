import Multigrad.Model.Regression
import Multigrad.Proofs.Model.Straight
import Mathlib.Tactic.Linarith

/-!
# Distances

Squared Euclidean distances in exact arithmetic. How far a move takes a point from another one can
be read off three products of vectors, and a mean is not farther from a point than the farthest of
the points that it is taken of.
-/

namespace Multigrad

def dot (a b : List Rat) : Rat := (List.zipWith (· * ·) a b).sum

def squaredDistance (a b : List Rat) : Rat := (List.zipWith (fun x y => (x - y) ^ 2) a b).sum

@[simp] theorem dot_nil : dot [] [] = 0 := rfl

@[simp] theorem dot_cons (x y : Rat) (a b : List Rat) : dot (x :: a) (y :: b) = x * y + dot a b :=
  List.sum_cons

@[simp] theorem squaredDistance_nil : squaredDistance [] [] = 0 := rfl

@[simp] theorem squaredDistance_cons (x y : Rat) (a b : List Rat) :
    squaredDistance (x :: a) (y :: b) = (x - y) ^ 2 + squaredDistance a b := List.sum_cons

section Expansion

variable {n : Nat} {a b c : List Rat} (ha : a.length = n) (hb : b.length = n) (hc : c.length = n)

include ha hb hc

/-- The distance after a move, expanded. -/
theorem squaredDistance_descend (size : Rat) :
    squaredDistance (descend size a b) c
      = squaredDistance a c - 2 * size * (dot b a - dot b c) + size ^ 2 * dot b b := by
  refine points_induction ?_ ?_ ha hb hc
  · simp [descend]
  · intro x y z a b c ih
    simp only [descend, List.zipWith_cons_cons, squaredDistance_cons, dot_cons] at ih ⊢
    rw [ih]
    ring

theorem dot_zipWith_add : dot a (List.zipWith (· + ·) b c) = dot a b + dot a c := by
  refine points_induction ?_ ?_ ha hb hc
  · exact (add_zero 0).symm
  · intro x y z a b c ih
    simp only [List.zipWith_cons_cons, dot_cons, ih]
    ring

/-- The distance lies above its tangents. -/
theorem tangent_le_squaredDistance :
    squaredDistance a c
        + 2 * (dot (List.zipWith (· - ·) a c) b - dot (List.zipWith (· - ·) a c) a)
      ≤ squaredDistance b c := by
  refine points_induction ?_ ?_ ha hb hc
  · simp
  · intro x y z a b c ih
    have hentry : (x - z) ^ 2 + 2 * ((x - z) * y - (x - z) * x) ≤ (y - z) ^ 2 := by
      linarith [sq_nonneg (y - x)]
    simp only [List.zipWith_cons_cons, squaredDistance_cons, dot_cons]
    linarith

end Expansion

theorem dot_zeros (a : List Rat) (n : Nat) : dot a (List.replicate n 0.0) = 0 := by
  induction a generalizing n with
  | nil => rfl
  | cons x a ih =>
      cases n with
      | zero => rfl
      | succ n =>
          rw [List.replicate_succ, dot_cons, ih]
          norm_num

theorem dot_map_div (a b : List Rat) (divisor : Rat) :
    dot a (b.map (· / divisor)) = dot a b / divisor := by
  induction a generalizing b with
  | nil => exact (zero_div divisor).symm
  | cons x a ih =>
      cases b with
      | nil => exact (zero_div divisor).symm
      | cons y b => rw [List.map_cons, dot_cons, dot_cons, ih, add_div, mul_div_assoc]

/-! ### Means -/

theorem dot_addUp_le {n : Nat} {a sum : List Rat} {points : List (List Rat)} {bound : Rat}
    (ha : a.length = n) (hsum : sum.length = n) (hsized : ∀ point ∈ points, point.length = n)
    (hbound : ∀ point ∈ points, dot a point ≤ bound) :
    dot a (addUp sum points) ≤ dot a sum + points.length * bound := by
  induction points generalizing sum with
  | nil => exact (by simp [addUp])
  | cons point rest ih =>
      rw [List.forall_mem_cons] at hsized hbound
      have hlength : (List.zipWith (· + ·) sum point).length = n :=
        length_zipWith_of_length hsum hsized.1
      calc dot a (addUp sum (point :: rest))
          ≤ dot a (List.zipWith (· + ·) sum point) + rest.length * bound :=
            ih hlength hsized.2 hbound.2
        _ = dot a sum + dot a point + rest.length * bound := by
            rw [dot_zipWith_add ha hsum hsized.1]
        _ ≤ dot a sum + (point :: rest).length * bound := by
            rw [List.length_cons, Nat.cast_add, Nat.cast_one]
            linarith [hbound.1]

/-- A ball is convex: with all points, it has their mean. -/
theorem squaredDistance_mean_le {n : Nat} {points : List (List Rat)} {target : List Rat}
    {bound : Rat} (hpoints : points ≠ []) (hsized : ∀ point ∈ points, point.length = n)
    (htarget : target.length = n)
    (hbound : ∀ point ∈ points, squaredDistance point target ≤ bound) :
    squaredDistance ((addUp (List.replicate n 0.0) points).map (· / (points.length : Rat))) target
      ≤ bound := by
  let zeros := List.replicate n (0.0 : Rat)
  let total := addUp zeros points
  let mean := total.map (· / (points.length : Rat))
  let offset := List.zipWith (· - ·) mean target
  have hzeros : zeros.length = n := List.length_replicate
  have hmean : mean.length = n := by rw [List.length_map, length_addUp hzeros hsized]
  have hoffset : offset.length = n := length_zipWith_of_length hmean htarget
  have hcount : (0 : Rat) < points.length := by
    rw [Nat.cast_pos, List.length_pos_iff]
    exact hpoints
  have htotal : dot offset total = points.length * dot offset mean := by
    rw [dot_map_div, mul_div_cancel₀ _ hcount.ne']
  -- The tangent at the mean lies below the bound at every point, so also at the mean.
  have hslack : ∀ point ∈ points,
      dot offset point ≤ dot offset mean + (bound - squaredDistance mean target) / 2 := by
    intro point hpoint
    have htangent : squaredDistance mean target + 2 * (dot offset point - dot offset mean)
        ≤ squaredDistance point target :=
      tangent_le_squaredDistance hmean (hsized point hpoint) htarget
    linarith [hbound point hpoint]
  have hadded : dot offset total ≤ dot offset zeros
      + points.length * (dot offset mean + (bound - squaredDistance mean target) / 2) :=
    dot_addUp_le hoffset hzeros hsized hslack
  rw [dot_zeros, zero_add, htotal, mul_le_mul_iff_right₀ hcount] at hadded
  change squaredDistance mean target ≤ bound
  linarith

/-! ### Residuals -/

namespace Regression

theorem accumulate_eq (start : Rat) (row x : List Rat) :
    accumulate start row x = start + dot row x := by
  induction row generalizing start x with
  | nil => cases x <;> exact (add_zero start).symm
  | cons entry row ih =>
      cases x with
      | nil => exact (add_zero start).symm
      | cons y x => rw [accumulate, ih, dot_cons, add_assoc]

theorem residual_eq (row : List Rat) (observation : Rat) (x : List Rat) :
    residual row observation x = dot row x - observation := by
  rw [residual, accumulate_eq, neg_add_eq_sub]

theorem descend_gradient (size : Rat) (row : List Rat) (observation : Rat) (point : List Rat) :
    descend size point (gradient row observation point)
      = descend (size * residual row observation point) point row := by
  simp only [descend, gradient, List.zipWith_map_right, mul_assoc]

/-- A step along the gradient of a row that is short enough goes away from no point that the row
fits. -/
theorem squaredDistance_step_le {n : Nat} {row point target : List Rat} {size observation : Rat}
    (hrow : row.length = n) (hpoint : point.length = n) (htarget : target.length = n)
    (hfits : dot row target = observation) (hsize : 0 ≤ size) (hshort : size * dot row row ≤ 2) :
    squaredDistance (descend size point (gradient row observation point)) target
      ≤ squaredDistance point target := by
  let rest := dot row point - observation
  calc squaredDistance (descend size point (gradient row observation point)) target
      = squaredDistance point target - 2 * (size * rest) * rest
          + (size * rest) ^ 2 * dot row row := by
        rw [descend_gradient, residual_eq, squaredDistance_descend hpoint hrow htarget, hfits]
    _ = squaredDistance point target - size * rest ^ 2 * (2 - size * dot row row) := by ring
    _ ≤ squaredDistance point target :=
        sub_le_self _ (mul_nonneg (mul_nonneg hsize (sq_nonneg rest)) (sub_nonneg.mpr hshort))

end Regression

end Multigrad
