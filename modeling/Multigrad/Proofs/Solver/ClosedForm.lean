import Multigrad.Proofs.Solver.Descent
import Multigrad.Proofs.Solver.Trajectory
import Mathlib.Tactic.LinearCombination

/-!
# Runs on a separable quadratic

A single quadratic objective without mixed terms, and the square penalty: exact steps of one size
then act on every coordinate by itself. Each iteration multiplies the distance of a coordinate to
the regularized minimizer by the same factor, so the solution after any number of iterations can be
written down.
-/

namespace Multigrad

/-- A single objective, for a minimum, with the entries `a (x - c)` in its gradient. -/
structure Model.Separable (model : Model Rat) (a c : List Rat) : Prop where
  nobj : model.problem.nobj = 1
  minimize : model.problem.minimize = true
  curvatures : a.length = model.problem.nvar
  centre : c.length = model.problem.nvar
  gradient : ∀ x : List Rat, x.length = model.problem.nvar →
    model.gradient 0 (Grid.ofList x) = .ok (Quadratic.gradient a c x)

namespace Quadratic

variable {R : Type} [Scalar R]

theorem length_gradient {n : Nat} {a c x : List R} (ha : a.length = n) (hc : c.length = n)
    (hx : x.length = n) : (gradient a c x).length = n := by
  rw [← ha]
  refine points_induction rfl ?_ ha hc hx
  intro _ _ _ a c x ih
  rw [gradient, List.length_cons, List.length_cons, ih]

theorem getElem?_gradient {curvatures centre x : List R} {j : Nat} {a c xj : R}
    (hcurvature : curvatures[j]? = some a) (hcentre : centre[j]? = some c) (hx : x[j]? = some xj) :
    (gradient curvatures centre x)[j]? = some (a * (xj - c)) := by
  induction curvatures generalizing centre x j with
  | nil => cases hcurvature
  | cons _ curvatures ih =>
      cases centre with
      | nil => cases hcentre
      | cons _ centre =>
          cases x with
          | nil => cases hx
          | cons _ x =>
              cases j with
              | zero =>
                  obtain rfl := Option.some.inj hcurvature
                  obtain rfl := Option.some.inj hcentre
                  obtain rfl := Option.some.inj hx
                  rfl
              | succ j => exact ih hcurvature hcentre hx

/-- A quadratic model with one row of coefficients is separable. -/
theorem separable {a c : List Rat} {problem : Meta Rat} (hnobj : problem.nobj = 1)
    (hminimize : problem.minimize = true) (ha : a.length = problem.nvar)
    (hc : c.length = problem.nvar) : (model [a] [c] problem).Separable a c where
  nobj := hnobj
  minimize := hminimize
  curvatures := ha
  centre := hc
  gradient x hx := by
    have hcoordinates : coordinates (Grid.ofList x) c.length = .ok x := by
      rw [hc.trans hx.symm]
      change (if x.length < x.length then _ else Except.ok (x.take x.length)) = _
      rw [if_neg (Nat.lt_irrefl _), List.take_length]
    exact bind_eq_ok.mpr ⟨a, rfl, bind_eq_ok.mpr ⟨c, rfl, bind_eq_ok.mpr ⟨x, hcoordinates, rfl⟩⟩⟩

end Quadratic

namespace Solver

variable {σ : Type}

/-! ### One coordinate -/

/-- Where `a (x - c)^2 / 2` and the square penalty are least together. -/
def minimizer (alpha a c : Rat) : Rat := a * c / (a + alpha)

/-- What a step multiplies the distance to the minimizer by. -/
def factor (g alpha a : Rat) : Rat := 1 - g * (a + alpha)

/-- A coordinate that starts at `x`, after so many steps. -/
def settled (g alpha a c x : Rat) (steps : Nat) : Rat :=
  minimizer alpha a c + factor g alpha a ^ steps * (x - minimizer alpha a c)

variable {g alpha a c : Rat}

theorem settled_zero (x : Rat) : settled g alpha a c x 0 = x := by
  rw [settled, pow_zero, one_mul, add_sub_cancel]

theorem settled_minimizer (steps : Nat) :
    settled g alpha a c (minimizer alpha a c) steps = minimizer alpha a c := by
  rw [settled, sub_self, mul_zero, add_zero]

theorem settled_sub_minimizer (x : Rat) (steps : Nat) :
    settled g alpha a c x (steps + 1) - minimizer alpha a c
      = factor g alpha a * (settled g alpha a c x steps - minimizer alpha a c) := by
  rw [settled, settled]
  ring

/-- The step that the regularized gradient takes. -/
theorem step_settled (hcurved : a + alpha ≠ 0) (x : Rat) (steps : Nat) :
    settled g alpha a c x steps
        - g * (alpha * settled g alpha a c x steps + a * (settled g alpha a c x steps - c))
      = settled g alpha a c x (steps + 1) := by
  have hminimizer : (a + alpha) * minimizer alpha a c = a * c := mul_div_cancel₀ _ hcurved
  have hnext : settled g alpha a c x (steps + 1) - minimizer alpha a c
      = (1 - g * (a + alpha)) * (settled g alpha a c x steps - minimizer alpha a c) :=
    settled_sub_minimizer x steps
  linear_combination -g * hminimizer - hnext

theorem abs_settled_sub_le (hfactor : |factor g alpha a| < 1) (x : Rat) (steps : Nat) :
    |settled g alpha a c x (steps + 1) - minimizer alpha a c|
      ≤ |settled g alpha a c x steps - minimizer alpha a c| := by
  rw [settled_sub_minimizer, abs_mul]
  exact mul_le_of_le_one_left (abs_nonneg _) hfactor.le

theorem abs_settled_sub_lt (hfactor : |factor g alpha a| < 1) {x : Rat} {steps : Nat}
    (hoff : settled g alpha a c x steps ≠ minimizer alpha a c) :
    |settled g alpha a c x (steps + 1) - minimizer alpha a c|
      < |settled g alpha a c x steps - minimizer alpha a c| := by
  rw [settled_sub_minimizer, abs_mul]
  exact mul_lt_of_lt_one_left (abs_pos.mpr (sub_ne_zero.mpr hoff)) hfactor

/-! ### One visit -/

section Points

variable [Completion Rat]

namespace Plan

/-- Steps of one size with the square penalty, on a separable quadratic. -/
structure Settles (plan : Plan Rat) (curvatures centre : List Rat) (alpha g : Rat) : Prop where
  model : plan.model.Separable curvatures centre
  x0 : plan.model.problem.x0.length = plan.model.problem.nvar
  regularizer : plan.regularizer = .l2
  strength : plan.settings.alpha.real? = .ok alpha
  curved : ∀ a ∈ curvatures, a + alpha ≠ 0
  learningRate : plan.settings.learningRate = .text LearningRate.constant.name
  stepSize : plan.settings.stepSize.real? = .ok g

variable {plan : Plan Rat} {curvatures centre : List Rat}
  (hplan : plan.Settles curvatures centre alpha g)

include hplan

theorem Settles.moves {visit : Nat × Int} {point next : List Rat}
    (hpoint : point.length = plan.model.problem.nvar) (hmoves : plan.Moves visit point next) :
    next = List.zipWith (fun x rise => x - g * (alpha * x + rise)) point
      (Quadratic.gradient curvatures centre point) := by
  have hindex := hmoves.index_mem
  rw [hplan.model.nobj, mem_objectives] at hindex
  have hfirst : visit.2.toNat = 0 := by omega
  have hgradient : plan.model.gradient visit.2.toNat (Grid.ofList point)
      = .ok (Quadratic.gradient curvatures centre point) := by
    rw [hfirst]
    exact hplan.model.gradient point hpoint
  have hlength : point.length = (Quadratic.gradient curvatures centre point).length := by
    rw [Quadratic.length_gradient hplan.model.curvatures hplan.model.centre hpoint, hpoint]
  have hone (rise : Rat) : 1.0 * rise = rise := by norm_num
  simp only [hmoves.eq_of_constant hplan.learningRate hplan.stepSize hplan.strength
    hplan.model.minimize hgradient hlength, hplan.regularizer, Regularizer.pull, hone]

namespace Traces

variable {orders : List (List Int)} {b : Nat → List Rat} {k : Nat} {solution averaged : List Rat}
  (htraces : plan.Traces orders b k solution averaged)

include htraces

theorem coordinate {j : Nat} (hcurvature : curvatures[j]? = some a) (hcentre : centre[j]? = some c)
    {x : Rat} (hx : plan.model.problem.x0[j]? = some x) {t : Nat} (ht : t ≤ k) :
    (b t)[j]? = some (settled g alpha a c x t) := by
  induction t with
  | zero => rw [htraces.trajectory.start, hx, settled_zero]
  | succ t ih =>
      have hvisits := htraces.length_visits
      rw [hplan.model.nobj, Nat.mul_one] at hvisits
      obtain ⟨visit, hvisit⟩ : ∃ visit, (visitsOf orders)[t]? = some visit :=
        ⟨_, List.getElem?_eq_getElem (by omega)⟩
      have hpoint : (b t).length = plan.model.problem.nvar := by
        rw [htraces.trajectory.sized t (by omega), hplan.x0]
      have hbefore := ih (Nat.le_of_lt ht)
      have hcurved := hplan.curved a (List.mem_of_getElem? hcurvature)
      rw [hplan.moves hpoint (htraces.trajectory.moves t visit hvisit),
        List.getElem?_zipWith_eq_some.mpr ⟨_, _, hbefore,
          Quadratic.getElem?_gradient hcurvature hcentre hbefore, rfl⟩, step_settled hcurved]

theorem solution_coordinate {j : Nat} (hcurvature : curvatures[j]? = some a)
    (hcentre : centre[j]? = some c) {x : Rat} (hx : plan.model.problem.x0[j]? = some x) :
    solution[j]? = some (settled g alpha a c x k) := by
  rw [htraces.point, hplan.model.nobj, Nat.mul_one]
  exact htraces.coordinate hplan hcurvature hcentre hx le_rfl

/-- The mean of the single point of an iteration is that point. -/
theorem averaged_eq_solution (hk : k ≠ 0) : averaged = solution := by
  obtain ⟨k, rfl⟩ := Nat.exists_eq_succ_of_ne_zero hk
  have hlength : (b (k + 1)).length = plan.model.problem.x0.length :=
    htraces.sized (k + 1) (by rw [hplan.model.nobj, Nat.mul_one])
  have hzero : (0.0 : Rat) = 0 := by norm_num
  have hone : (Scalar.ofInt ((1 : Nat) : Int) : Rat) = 1 := rfl
  rw [htraces.average, htraces.point, averageAfter, mean, hplan.model.nobj, hone, List.range_one,
    List.map_singleton, Nat.mul_one, Nat.mul_one, ← hlength, hzero]
  simp only [addUp, List.foldl_cons, List.foldl_nil, Nat.add_zero, zipWith_add_zeros, div_one,
    List.map_id']

end Traces

end Plan

end Points

/-! ### Whole runs -/

section Run

variable [Completion Rat] {source : OrderSource σ} {model : Model Rat} {settings : Settings Rat}
  {clock : Nat → Rat} {patience : Nat} {journal after : Journal σ Rat} {stats : Stats Rat}
  {curvatures centre : List Rat}

/-- **The solution after any number of iterations**, coordinate by coordinate, which is also the
averaged solution. A coordinate at its minimizer stays there, and with a factor below one every
iteration takes it closer. -/
theorem solve_closed_form (hmodel : model.Separable curvatures centre)
    (hx0 : model.problem.x0.length = model.problem.nvar)
    (hpenalty : settings.penalty = .text Penalty.l2.name)
    (halpha : settings.alpha.real? = .ok alpha) (hcurved : ∀ a ∈ curvatures, a + alpha ≠ 0)
    (hrate : settings.learningRate = .text LearningRate.constant.name)
    (hstep : settings.stepSize.real? = .ok g)
    (hpermutes : source.Permutes journal.orders model.problem.nobj)
    (hrun : solve source model settings clock patience journal = .ok stats after) :
    ∃ orders, ∃ b : Nat → List Rat,
      Plan.Traces ⟨model, settings, .l2, clock⟩ orders b stats.iterations stats.solution
          stats.averagedSolution
        ∧ stats.solution.length = model.problem.nvar
        ∧ (stats.iterations ≠ 0 → stats.averagedSolution = stats.solution)
        ∧ ∀ (j : Nat) (a c x : Rat), curvatures[j]? = some a → centre[j]? = some c →
          model.problem.x0[j]? = some x →
            stats.solution[j]? = some (minimizer alpha a c
                + (1 - g * (a + alpha)) ^ stats.iterations * (x - minimizer alpha a c))
              ∧ (x = minimizer alpha a c → ∀ t ≤ stats.iterations, (b t)[j]? = some x)
              ∧ (|1 - g * (a + alpha)| < 1 → ∀ t < stats.iterations, ∃ before next,
                (b t)[j]? = some before ∧ (b (t + 1))[j]? = some next
                  ∧ |next - minimizer alpha a c| ≤ |before - minimizer alpha a c|
                  ∧ (before ≠ minimizer alpha a c →
                    |next - minimizer alpha a c| < |before - minimizer alpha a c|)) := by
  obtain ⟨regularizer, -, orders, b, hregularizer, -, -, htraces⟩ := solve_traces hpermutes hrun
  have hsquare : settings.regularizer = .ok .l2 := by
    rw [Settings.regularizer, Penalty.ofValue?_eq_some.mpr hpenalty]
  obtain rfl := Except.ok.inj (hregularizer.symm.trans hsquare)
  have hplan : Plan.Settles ⟨model, settings, .l2, clock⟩ curvatures centre alpha g :=
    ⟨hmodel, hx0, rfl, halpha, hcurved, hrate, hstep⟩
  refine ⟨orders, b, htraces, ?_, htraces.averaged_eq_solution hplan, ?_⟩
  · rw [htraces.point, htraces.sized _ le_rfl]
    exact hx0
  · intro j a c x hcurvature hcentre hx
    refine ⟨htraces.solution_coordinate hplan hcurvature hcentre hx, ?_, ?_⟩
    · rintro rfl t ht
      rw [htraces.coordinate hplan hcurvature hcentre hx ht, settled_minimizer]
    · intro hfactor t ht
      exact ⟨_, _, htraces.coordinate hplan hcurvature hcentre hx (Nat.le_of_lt ht),
        htraces.coordinate hplan hcurvature hcentre hx ht, abs_settled_sub_le hfactor x t,
        abs_settled_sub_lt hfactor⟩

end Run

section Bowl

attribute [local instance] standIn

/-- Twice `(x - 1)^2 / 2` and once `(y - 4)^2 / 2`, from the origin. -/
def bowl : Model Rat := Quadratic.model [[2, 1]] [[1, 4]] (Meta.ofDimensions 2 1 0)

/-- Steps of one quarter, with a square penalty of weight one. -/
def quartering : Settings Rat :=
  { halving with stepSize := .real (1 / 4), alpha := .real 1, penalty := .text "l2" }

theorem separable_bowl : bowl.Separable [2, 1] [1, 4] := Quadratic.separable rfl rfl rfl rfl

/-- After two iterations, both coordinates are where the formula says. -/
theorem solve_closed_form_bowl : ∃ stats after,
    solve (Orders.source 1) bowl (quartering.withMaxIter 1) (fun _ => 0) 0 (unvisited [0])
        = .ok stats after
      ∧ stats.solution[0]? = some (2 / 3 + (1 / 4) ^ 2 * (0 - 2 / 3))
      ∧ stats.solution[1]? = some (2 + (1 / 2) ^ 2 * (0 - 2))
      ∧ stats.averagedSolution = stats.solution := by
  have hpermutes : (Orders.source 1).Permutes (unvisited [0]).orders 1 :=
    Orders.permutes_listed (by decide)
  have hreturns : Run.read? Stats.iterations
      (solve (Orders.source 1) bowl (quartering.withMaxIter 1) (fun _ => 0) 0)
      (unvisited [0]) = some 2 := by decide +kernel
  have hcurved : ∀ a ∈ [(2 : Rat), 1], a + 1 ≠ 0 := by decide +kernel
  obtain ⟨stats, after, hrun, hiterations⟩ := Run.exists_ok_of_read? hreturns
  obtain ⟨orders, b, -, -, haveraged, hcoordinates⟩ :=
    solve_closed_form separable_bowl rfl rfl rfl hcurved rfl rfl hpermutes hrun
  rw [hiterations] at haveraged hcoordinates
  refine ⟨stats, after, hrun, ?_, ?_, haveraged (by decide)⟩
  · rw [(hcoordinates 0 2 1 0.0 rfl rfl rfl).1]
    decide +kernel
  · rw [(hcoordinates 1 1 4 0.0 rfl rfl rfl).1]
    decide +kernel

end Bowl

end Solver

end Multigrad
