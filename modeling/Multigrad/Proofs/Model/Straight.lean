import Multigrad.Proofs.Model.Slopes
import Mathlib.Data.List.Zip
import Mathlib.Tactic.NormNum
import Mathlib.Tactic.Ring

/-!
# Straight moves

Moves along constant slopes in exact arithmetic: one after the other, they come to one move along
the sum of the slopes, in whatever order. The sum of all slopes is the gradient of a model without
its weights.
-/

namespace Multigrad

/-- Induction on three points in one dimension. -/
@[elab_as_elim]
theorem points_induction {R : Type} {motive : List R → List R → List R → Prop}
    (nil : motive [] [] [])
    (cons : ∀ x y z a b c, motive a b c → motive (x :: a) (y :: b) (z :: c)) {n : Nat}
    {a b c : List R} (ha : a.length = n) (hb : b.length = n) (hc : c.length = n) :
    motive a b c := by
  induction n generalizing a b c with
  | zero =>
      rw [List.length_eq_zero_iff] at ha hb hc
      subst ha hb hc
      exact nil
  | succ n ih =>
      obtain ⟨x, a, rfl⟩ := List.exists_cons_of_length_eq_add_one ha
      obtain ⟨y, b, rfl⟩ := List.exists_cons_of_length_eq_add_one hb
      obtain ⟨z, c, rfl⟩ := List.exists_cons_of_length_eq_add_one hc
      rw [List.length_cons, Nat.add_right_cancel_iff] at ha hb hc
      exact cons x y z a b c (ih ha hb hc)

/-- A point moved against a slope. -/
def descend (size : Rat) (point slope : List Rat) : List Rat :=
  List.zipWith (fun entry rise => entry - size * rise) point slope

theorem length_descend {n : Nat} {size : Rat} {point slope : List Rat} (hpoint : point.length = n)
    (hslope : slope.length = n) : (descend size point slope).length = n :=
  length_zipWith_of_length hpoint hslope

theorem descend_descend (size : Rat) (point first second : List Rat) :
    descend size (descend size point first) second
      = descend size point (List.zipWith (· + ·) first second) := by
  have hentry (entry a b : Rat) : entry - size * a - size * b = entry - size * (a + b) := by ring
  simp only [descend, List.zipWith_zipWith_left, List.zipWith_zipWith_right, hentry]

theorem descend_add (size size' : Rat) (point slope : List Rat) :
    descend size (descend size' point slope) slope = descend (size' + size) point slope := by
  have hentry (entry a : Rat) : entry - size' * a - size * a = entry - (size' + size) * a := by ring
  simp only [descend, List.zipWith_zipWith_left, List.zipWith3_same_right, hentry]

theorem descend_of_size_zero {point slope : List Rat} (hlength : point.length = slope.length) :
    descend 0 point slope = point := by
  induction point generalizing slope with
  | nil => rfl
  | cons entry point ih =>
      obtain ⟨a, slope, rfl⟩ := List.exists_cons_of_length_eq_add_one hlength.symm
      have hentry : entry - 0 * a = entry := by ring
      rw [List.length_cons, List.length_cons, Nat.add_right_cancel_iff] at hlength
      rw [descend, List.zipWith_cons_cons, hentry, ← descend, ih hlength]

/-- Moves along several slopes are one move along their sum. -/
theorem foldl_descend (size : Rat) (point sum : List Rat) (slopes : List (List Rat)) :
    slopes.foldl (descend size) (descend size point sum)
      = descend size point (addUp sum slopes) := by
  induction slopes generalizing sum with
  | nil => rfl
  | cons slope rest ih =>
      rw [List.foldl_cons, descend_descend, ih]
      rfl

theorem descend_zeros (size : Rat) (point : List Rat) :
    descend size point (List.replicate point.length 0.0) = point := by
  induction point with
  | nil => rfl
  | cons entry point ih =>
      have hentry : entry - size * 0.0 = entry := by norm_num
      simp only [descend, List.length_cons, List.replicate_succ, List.zipWith_cons_cons, hentry]
        at ih ⊢
      rw [ih]

theorem zipWith_add_assoc (sum first second : List Rat) :
    List.zipWith (· + ·) (List.zipWith (· + ·) sum first) second
      = List.zipWith (· + ·) sum (List.zipWith (· + ·) first second) := by
  simp only [List.zipWith_zipWith_left, List.zipWith_zipWith_right, add_assoc]

theorem zipWith_add_right_comm (sum first second : List Rat) :
    List.zipWith (· + ·) (List.zipWith (· + ·) sum first) second
      = List.zipWith (· + ·) (List.zipWith (· + ·) sum second) first :=
  calc List.zipWith (· + ·) (List.zipWith (· + ·) sum first) second
      = List.zipWith (· + ·) sum (List.zipWith (· + ·) first second) :=
        zipWith_add_assoc sum first second
    _ = List.zipWith (· + ·) sum (List.zipWith (· + ·) second first) :=
        congrArg _ (List.zipWith_comm_of_comm fun a b => add_comm a b)
    _ = List.zipWith (· + ·) (List.zipWith (· + ·) sum second) first :=
        (zipWith_add_assoc sum second first).symm

/-- A sum does not depend on the order of its terms. -/
theorem addUp_perm {slopes slopes' : List (List Rat)} (hperm : slopes.Perm slopes')
    (sum : List Rat) : addUp sum slopes = addUp sum slopes' :=
  hperm.foldl_eq' (fun first _ second _ sum => zipWith_add_right_comm sum first second) sum

/-- Moves of one size come to the same point only along the same slope, unless they are none. -/
theorem descend_eq_iff {n : Nat} {size : Rat} {point slope slope' : List Rat}
    (hpoint : point.length = n) (hslope : slope.length = n) (hslope' : slope'.length = n) :
    descend size point slope = descend size point slope' ↔ size = 0 ∨ slope' = slope := by
  refine points_induction ?_ ?_ hpoint hslope hslope'
  · exact iff_of_true rfl (.inr rfl)
  · intro entry a b point slope slope' ih
    have hentry : entry - size * a = entry - size * b ↔ size = 0 ∨ b = a := by
      rw [sub_right_inj, mul_eq_mul_left_iff, or_comm, eq_comm (a := b)]
    simp only [descend, List.zipWith_cons_cons, List.cons.injEq] at ih ⊢
    rw [ih, hentry, or_and_left]

/-! ### Without weights -/

namespace Model

/-- The same model without its weights. -/
def unweighted {R : Type} [Scalar R] (model : Model R) : Model R :=
  { model with
    problem := { model.problem with weights := List.replicate model.problem.nobj 1.0 } }

theorem weigh_replicate (weight : Rat) (vectors : List (List Rat)) :
    weigh (List.replicate vectors.length weight) vectors = vectors.map (·.map (weight * ·)) := by
  induction vectors with
  | nil => rfl
  | cons vector rest ih =>
      rw [weigh] at ih ⊢
      rw [List.length_cons, List.replicate_succ, List.zipWith_cons_cons, ih, List.map_cons]

theorem weigh_ones (vectors : List (List Rat)) :
    weigh (List.replicate vectors.length 1.0) vectors = vectors := by
  have hvector (vector : List Rat) : vector.map ((1.0 : Rat) * ·) = vector := by norm_num
  rw [weigh_replicate, List.map_congr_left fun vector _ => hvector vector, List.map_id']

theorem Slopes.totalGradient_unweighted {model : Model Rat} {slopes : List (List Rat)}
    {point : List Rat} (hslopes : model.Slopes slopes)
    (hpoint : point.length = model.problem.nvar) :
    model.unweighted.totalGradient (Grid.ofList point)
      = .ok (addUp (List.replicate model.problem.nvar 0.0) slopes) := by
  have hunweighted : model.unweighted.Slopes slopes :=
    ⟨hslopes.length, hslopes.sized, hslopes.gradient⟩
  rw [hunweighted.totalGradient hpoint List.length_replicate]
  change Except.ok (addUp _ (weigh (List.replicate model.problem.nobj 1.0) slopes)) = _
  rw [← hslopes.length, weigh_ones]
  rfl

end Model

end Multigrad
