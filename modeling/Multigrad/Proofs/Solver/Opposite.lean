import Multigrad.Proofs.Solver.Descent
import Multigrad.Proofs.Solver.Solve
import Mathlib.Tactic.NormNum
import Mathlib.Tactic.Ring

/-!
# Maximizing is minimizing the opposite

The opposite of a problem asks for a minimum in place of a maximum, and has the opposite values and
gradients. In exact arithmetic a run on it goes the same way, step by step: the direction cancels
with the sign of the gradients, and the regularization never sees either. Only the reported
objective changes its sign.
-/

namespace Multigrad

variable {σ : Type}

/-! ### Opposites -/

def opposite (vector : List Rat) : List Rat := vector.map fun entry => -entry

namespace Model

/-- The same problem the other way round, with opposite values and gradients. -/
def opposite (model : Model Rat) : Model Rat :=
  { model with
    problem := { model.problem with minimize := !model.problem.minimize }
    value := fun index x => (model.value index x).map fun value => -value
    gradient := fun index x => (model.gradient index x).map Multigrad.opposite }

end Model

def Stats.opposite (stats : Stats Rat) : Stats Rat := { stats with objective := -stats.objective }

theorem neg_zero_scalar : (-0.0 : Rat) = 0.0 := by norm_num

theorem length_opposite (vector : List Rat) : (opposite vector).length = vector.length :=
  List.length_map _

theorem map_mul_opposite (factor : Rat) (vector : List Rat) :
    (opposite vector).map (factor * ·) = opposite (vector.map (factor * ·)) := by
  simp [opposite]

theorem zipWith_add_opposite (a b : List Rat) :
    List.zipWith (· + ·) (opposite a) (opposite b) = opposite (List.zipWith (· + ·) a b) := by
  simp only [opposite, List.zipWith_map, List.map_zipWith, neg_add]

/-! ### Evaluations -/

theorem addOnto_opposite (sum term : List Rat) :
    Model.addOnto (opposite sum) (opposite term) = (Model.addOnto sum term).map opposite := by
  unfold Model.addOnto
  rw [length_opposite, length_opposite]
  by_cases hlength : sum.length = term.length
  · rw [if_pos hlength, if_pos hlength, Except.map, zipWith_add_opposite]
  · rw [if_neg hlength, if_neg hlength]
    match term with
    | [] => rfl
    | [entry] =>
        change Except.ok ((opposite sum).map (· + -entry)) = .ok (opposite (sum.map (· + entry)))
        simp [opposite, add_comm]
    | _ :: _ :: _ => rfl

namespace Model

section Map

variable {R α β : Type} (f : α → β)

/-- What is counted does not depend on what becomes of the value. -/
theorem evaluateAt_map (model : Model R) (counter : ObjectiveCounter) (index : Int) (x : Point R)
    (evaluation : Nat → Grid R → Except Mishap α) (counters : Counters) :
    model.evaluateAt counter index x (fun index x => (evaluation index x).map f) counters
      = ((model.evaluateAt counter index x evaluation counters).1.map f,
          (model.evaluateAt counter index x evaluation counters).2) := by
  unfold evaluateAt
  split
  · cases x with
    | error mishap => rfl
    | ok x =>
        simp only [Except.bind]
        cases evaluation index.toNat x with
        | error mishap => rfl
        | ok value => rfl
  · rfl

theorem evaluate_map (counter : ProblemCounter) (x : Point R)
    (evaluation : Grid R → Except Mishap α) (counters : Counters) :
    evaluate counter x (fun x => (evaluation x).map f) counters
      = ((evaluate counter x evaluation counters).1.map f,
          (evaluate counter x evaluation counters).2) := by
  cases x with
  | error mishap => rfl
  | ok x =>
      simp only [evaluate]
      cases evaluation x with
      | error mishap => rfl
      | ok value => rfl

end Map

variable (model : Model Rat)

theorem sumValues_opposite (x : Grid Rat) (index : Nat) (weights : List Rat) (sum : Rat) :
    model.opposite.sumValues x index weights (-sum)
      = (model.sumValues x index weights sum).map fun value => -value := by
  induction weights generalizing index sum with
  | nil => rfl
  | cons weight rest ih =>
      rw [sumValues, sumValues]
      change ((model.value index x).map _ >>= _) = _
      cases model.value index x with
      | error mishap => rfl
      | ok value =>
          change model.opposite.sumValues x (index + 1) rest (-sum + weight * -value)
            = (model.sumValues x (index + 1) rest (sum + weight * value)).map _
          rw [← ih]
          congr 1
          ring

theorem sumGradients_opposite (x : Grid Rat) (index : Nat) (weights : List Rat)
    (sum : List Rat) :
    model.opposite.sumGradients x index weights (Multigrad.opposite sum)
      = (model.sumGradients x index weights sum).map Multigrad.opposite := by
  induction weights generalizing index sum with
  | nil => rfl
  | cons weight rest ih =>
      rw [sumGradients, sumGradients]
      change ((model.gradient index x).map _ >>= _) = _
      cases model.gradient index x with
      | error mishap => rfl
      | ok gradient =>
          change (addOnto (Multigrad.opposite sum) ((Multigrad.opposite gradient).map (weight * ·))
              >>= _)
            = (addOnto sum (gradient.map (weight * ·)) >>= _).map _
          rw [map_mul_opposite, addOnto_opposite]
          cases addOnto sum (gradient.map (weight * ·)) with
          | error mishap => rfl
          | ok added => exact ih (index + 1) added

theorem total_opposite (x : Grid Rat) :
    model.opposite.total x = (model.total x).map fun value => -value := by
  have hsum := model.sumValues_opposite x 0 model.problem.weights 0.0
  rwa [neg_zero_scalar] at hsum

theorem totalGradient_opposite (x : Grid Rat) :
    model.opposite.totalGradient x = (model.totalGradient x).map Multigrad.opposite := by
  have hsum := model.sumGradients_opposite x 0 model.problem.weights
    (List.replicate model.problem.nvar 0.0)
  rwa [Multigrad.opposite, List.map_replicate, neg_zero_scalar] at hsum

/-! ### Counted evaluations -/

theorem gradI_opposite (index : Int) (x : Point Rat) (counters : Counters) :
    model.opposite.gradI index x counters
      = ((model.gradI index x counters).1.map Multigrad.opposite,
          (model.gradI index x counters).2) :=
  model.evaluateAt_map Multigrad.opposite .gradi index x model.gradient counters

theorem obj_opposite (x : Point Rat) (counters : Counters) :
    model.opposite.obj x counters
      = ((model.obj x counters).1.map fun value => -value, (model.obj x counters).2) := by
  rw [obj, obj, funext model.total_opposite]
  exact evaluate_map _ .obj x model.total counters

theorem grad_opposite (x : Point Rat) (counters : Counters) :
    model.opposite.grad x counters
      = ((model.grad x counters).1.map Multigrad.opposite, (model.grad x counters).2) := by
  rw [grad, grad, funext model.totalGradient_opposite]
  exact evaluate_map _ .grad x model.totalGradient counters

end Model

namespace Solver

/-! ### Iterations -/

theorem direction_opposite (model : Model Rat) :
    direction model.opposite.problem = -direction model.problem := by
  unfold direction Model.opposite
  cases model.problem.minimize <;> norm_num

theorem move_opposite (step : Number Rat) (direction : Rat) (point pulled gradient : List Rat) :
    move step (-direction) point pulled (opposite gradient)
      = move step direction point pulled gradient := by
  have hslope : (opposite gradient).map (-direction * ·) = gradient.map (direction * ·) := by
    simp [opposite]
  rw [move, move, hslope]

theorem Run.evaluate_map {R α β : Type} {f : α → β}
    {evaluation : Counters → Except Model.Failure α × Counters}
    {mapped : Counters → Except Model.Failure β × Counters}
    (hmapped : ∀ counters, mapped counters
      = ((evaluation counters).1.map f, (evaluation counters).2)) :
    (evaluate mapped : Run σ R β) = f <$> evaluate evaluation := by
  funext journal
  rw [evaluate, hmapped]
  change _ = EStateM.map f (evaluate evaluation) journal
  unfold EStateM.map evaluate
  cases evaluation journal.counters with
  | mk result counters => cases result <;> rfl

def Plan.opposite (plan : Plan Rat) : Plan Rat := { plan with model := plan.model.opposite }

theorem visit_opposite (model : Model Rat) (index : Int) (point : List Rat) :
    (visit model.opposite index point : Run σ Rat (List Rat))
      = opposite <$> visit model index point := by
  rw [visit, visit, map_bind]
  congr 1
  funext _
  exact Run.evaluate_map (model.gradI_opposite index _)

namespace Plan

variable (plan : Plan Rat)

theorem step_opposite (stepSize : Number Rat) (point : List Rat) (index : Int) :
    (plan.opposite.step stepSize point index : Run σ Rat (List Rat))
      = plan.step stepSize point index := by
  unfold step
  congr 1
  funext pulled
  -- The pull is the same; the opposite gradient is met by the opposite direction.
  change (visit plan.model.opposite index point >>= _) = _
  rw [visit_opposite, bind_map_left]
  congr 1
  funext gradient
  change Run.lift (move stepSize (direction plan.model.opposite.problem) point pulled _) = _
  rw [direction_opposite, move_opposite]

theorem sweep_opposite (stepSize : Number Rat) (order : List Int) (point sum : List Rat) :
    (plan.opposite.sweep stepSize order point sum : Run σ Rat (List Rat × List Rat))
      = plan.sweep stepSize order point sum := by
  induction order generalizing point sum with
  | nil => rfl
  | cons index rest ih => simp only [sweep, step_opposite, ih]

variable [Completion Rat] (source : OrderSource σ)

theorem advance_opposite (current : Iterate Rat) :
    plan.opposite.advance source current = plan.advance source current := by
  simp only [advance, sweep_opposite]
  rfl

theorem iterate_opposite (limit : Nat) (current : Iterate Rat) :
    plan.opposite.iterate source limit current = plan.iterate source limit current := by
  induction limit generalizing current with
  | zero => rfl
  | succ limit ih =>
      simp only [iterate, advance_opposite, ih]
      rfl

end Plan

/-! ### Runs -/

section Run

variable [Completion Rat] (source : OrderSource σ) (model : Model Rat) (settings : Settings Rat)

theorem norm_opposite (vector : List Rat) : norm (opposite vector) = norm vector := by
  simp only [norm, opposite, List.foldl_map, neg_mul_neg]

omit [Completion Rat] in
theorem evaluateStart_opposite :
    (evaluateStart model.opposite : Run σ Rat (Rat × List Rat))
      = (fun start => (-start.1, opposite start.2)) <$> evaluateStart model := by
  unfold evaluateStart
  simp only [map_bind, map_pure]
  rw [Run.evaluate_map (model.obj_opposite _), Run.evaluate_map (model.grad_opposite _)]
  simp only [bind_map_left]
  rfl

theorem Plan.run_opposite (plan : Plan Rat) (patience : Nat) (objective : Rat)
    (gradient : List Rat) :
    plan.opposite.run source patience (-objective) (Multigrad.opposite gradient)
      = Stats.opposite <$> plan.run source patience objective gradient := by
  unfold Plan.run
  simp only [map_bind, plan.iterate_opposite, norm_opposite]
  congr 1
  funext stepSize
  congr 1
  funext ended
  congr 1
  funext journal
  congr 1
  funext _
  -- Both runs report here, or both refuse the same negative time.
  rw [apply_ite (Stats.opposite <$> ·)]
  rfl

/-- **Maximizing is minimizing the opposite.** -/
theorem solve_opposite (clock : Nat → Rat) (patience : Nat) :
    solve source model.opposite settings clock patience
      = Stats.opposite <$> solve source model settings clock patience := by
  rw [solve_eq_stages, solve_eq_stages, map_bind]
  congr 1
  funext regularizer
  rw [evaluateStart_opposite, bind_map_left, map_bind]
  congr 1
  funext start
  exact Plan.run_opposite source ⟨model, settings, regularizer, clock⟩ patience start.1 start.2

end Run

section Lopsided

attribute [local instance] standIn

/-- The end of two iterations of steps of one half, and the objective that was reported. -/
def endOf (model : Model Rat) : Option (List Rat × Rat) :=
  Run.read? (fun stats => (stats.solution, stats.objective))
    (solve (Orders.source 2) model { halving with maxIter := .int 1 } (fun _ => 0) 0)
    (unvisited [1, 0])

def climb : Model Rat := { lopsided with problem := { lopsided.problem with x0 := [1] } }

/-- Towards a maximum and towards the minimum of the opposite, a run goes upwards from one. -/
example : endOf climb = some ([4], 4) ∧ endOf climb.opposite = some ([4], -4) := by
  decide +kernel

end Lopsided

end Solver

end Multigrad
