import Multigrad.Model.Rosenbrock
import Multigrad.Proofs.Model.Regression
import Multigrad.Proofs.Solver.Descent

/-!
# Gradients of the shipped models

Values and gradients are computed by kernels of their own. In exact arithmetic they belong together:
what a gradient leaves of the change of its value is of second order in the shift, for every
objective and for the whole problem.
-/

namespace Multigrad

/-! ### The Rosenbrock function -/

namespace Rosenbrock

variable [Completion Rat]

/-- What remains of the valley, by how far the point is from the parabola and how far the shift
leads away from it. -/
def valleyRemainder (x₀ x₁ h₀ h₁ : Rat) : Rat :=
  let u := x₁ - x₀ ^ 2
  let d := h₁ - 2 * x₀ * h₀
  100 * (d ^ 2 - 2 * u * h₀ ^ 2 - 2 * d * h₀ ^ 2 + h₀ ^ 4)

variable (x₀ x₁ h₀ h₁ : Rat)

theorem expands_first :
    Expands (model.value 0) (model.gradient 0) [x₀, x₁] [h₀, h₁] (h₀ ^ 2) := by
  refine ⟨value x₀, [slope x₀, 0.0], rfl, rfl, rfl, ?_⟩
  have hshifted : value (x₀ + h₀) = value x₀ + dot [slope x₀, 0.0] [h₀, h₁] + h₀ ^ 2 := by
    norm_num [value, slope, square]
    ring
  exact congrArg Except.ok hshifted

theorem expands_valley :
    Expands (model.value 1) (model.gradient 1) [x₀, x₁] [h₀, h₁] (valleyRemainder x₀ x₁ h₀ h₁) := by
  refine ⟨valleyValue x₀ x₁, [valleySlopeFirst x₀ x₁, valleySlopeSecond x₀ x₁], rfl, rfl, rfl, ?_⟩
  have hshifted : valleyValue (x₀ + h₀) (x₁ + h₁)
      = valleyValue x₀ x₁ + dot [valleySlopeFirst x₀ x₁, valleySlopeSecond x₀ x₁] [h₀, h₁]
        + valleyRemainder x₀ x₁ h₀ h₁ := by
    norm_num [valleyValue, valleySlopeFirst, valleySlopeSecond, valleyRemainder, offset, square]
    ring
  exact congrArg Except.ok hshifted

theorem expands_whole :
    Expands model.total model.totalGradient [x₀, x₁] [h₀, h₁]
      (h₀ ^ 2 + valleyRemainder x₀ x₁ h₀ h₁) := by
  have hexpands : ∀ index remainder,
      [h₀ ^ 2, valleyRemainder x₀ x₁ h₀ h₁][index]? = some remainder →
        Expands (model.value index) (model.gradient index) [x₀, x₁] [h₀, h₁] remainder := by
    intro index remainder hremainder
    match index with
    | 0 =>
        obtain rfl := Option.some.inj hremainder
        exact expands_first x₀ x₁ h₀ h₁
    | 1 =>
        obtain rfl := Option.some.inj hremainder
        exact expands_valley x₀ x₁ h₀ h₁
    | index + 2 => cases hremainder
  have hlength : (model (R := Rat)).problem.weights.length
      = [h₀ ^ 2, valleyRemainder x₀ x₁ h₀ h₁].length := rfl
  have hexpanded := Model.expands_total (h := [h₀, h₁]) rfl rfl hlength hexpands
  have hweighted : dot model.problem.weights [h₀ ^ 2, valleyRemainder x₀ x₁ h₀ h₁]
      = h₀ ^ 2 + valleyRemainder x₀ x₁ h₀ h₁ := by
    change dot [1.0, 1.0] _ = _
    norm_num
  rwa [hweighted] at hexpanded

end Rosenbrock

/-! ### Both models -/

/-- **The gradients of the shipped models are the exact derivatives of their objectives.** -/
theorem shipped_models_expand [Completion Rat] :
    (∀ data : Regression.Data Rat, data.Proper → ∀ x h : List Rat, x.length = data.columns →
      h.length = data.columns →
        (∀ index, (hindex : index < data.rows.length) →
          Expands ((Regression.model data).value index) ((Regression.model data).gradient index) x h
            (1 / 2 * dot data.rows[index].1 h ^ 2))
        ∧ data.residuals (Grid.ofList x) = .ok (data.misfits x)
        ∧ (Regression.model data).total (Grid.ofList x)
          = .ok (dot (data.misfits x) (data.misfits x) / (2 * data.rows.length))
        ∧ (Regression.model data).totalGradient (Grid.ofList x)
          = .ok ((List.range data.columns).map fun j =>
              dot (data.column j) (data.misfits x) / data.rows.length)
        ∧ Expands (Regression.model data).total (Regression.model data).totalGradient x h
            (dot (data.image h) (data.image h) / (2 * data.rows.length)))
      ∧ ∀ x₀ x₁ h₀ h₁ : Rat,
        Expands (Rosenbrock.model.value 0) (Rosenbrock.model.gradient 0) [x₀, x₁] [h₀, h₁] (h₀ ^ 2)
        ∧ Expands (Rosenbrock.model.value 1) (Rosenbrock.model.gradient 1) [x₀, x₁] [h₀, h₁]
          (Rosenbrock.valleyRemainder x₀ x₁ h₀ h₁)
        ∧ Expands Rosenbrock.model.total Rosenbrock.model.totalGradient [x₀, x₁] [h₀, h₁]
          (h₀ ^ 2 + Rosenbrock.valleyRemainder x₀ x₁ h₀ h₁) := by
  constructor
  · intro data hproper x h hx hh
    refine ⟨?_, Regression.Data.residuals_eq hx, Regression.total_model data x,
      Regression.totalGradient_model hproper x, Regression.expands_whole hproper hx hh⟩
    intro index hindex
    exact Regression.expands_objective (List.getElem?_eq_getElem hindex) hproper hx hh
  · intro x₀ x₁ h₀ h₁
    exact ⟨Rosenbrock.expands_first x₀ x₁ h₀ h₁, Rosenbrock.expands_valley x₀ x₁ h₀ h₁,
      Rosenbrock.expands_whole x₀ x₁ h₀ h₁⟩

section Scattered

attribute [local instance] Solver.standIn

/-- Three rows without an exact fit. -/
def scattered : Regression.Data Rat := ⟨2, [([1, 0], 1), ([0, 1], 2), ([1, 1], 4)]⟩

theorem proper_scattered : scattered.Proper := ⟨by decide, by decide⟩

/-- From seven halves at zero, a shift by one and one leads eleven thirds down along the gradient,
and leaves one. -/
theorem shipped_models_expand_scattered :
    (Regression.model scattered).total (Grid.ofList [0, 0]) = .ok (7 / 2)
      ∧ (Regression.model scattered).totalGradient (Grid.ofList [0, 0]) = .ok [-5 / 3, -2]
      ∧ (Regression.model scattered).total (Grid.ofList [1, 1])
        = .ok (7 / 2 + dot [-5 / 3, -2] [1, 1] + 1) := by
  have hmisfits : dot (scattered.misfits [0, 0]) (scattered.misfits [0, 0])
      / (2 * scattered.rows.length) = 7 / 2 := by decide +kernel
  have hcolumns : (List.range scattered.columns).map (fun j =>
      dot (scattered.column j) (scattered.misfits [0, 0]) / scattered.rows.length)
        = [-5 / 3, -2] := by decide +kernel
  have himage : dot (scattered.image [1, 1]) (scattered.image [1, 1])
      / (2 * scattered.rows.length) = 1 := by decide +kernel
  have hpoint : List.zipWith (· + ·) [0, 0] [1, 1] = ([1, 1] : List Rat) := by norm_num
  obtain ⟨-, -, htotal, hgradient, start, slope, hstart, hslope, -, hshifted⟩ :=
    shipped_models_expand.1 scattered proper_scattered [0, 0] [1, 1] rfl rfl
  rw [hmisfits] at htotal
  rw [hcolumns] at hgradient
  obtain rfl := Except.ok.inj (hstart.symm.trans htotal)
  obtain rfl := Except.ok.inj (hslope.symm.trans hgradient)
  rw [hpoint, himage] at hshifted
  exact ⟨htotal, hgradient, hshifted⟩

end Scattered

end Multigrad
