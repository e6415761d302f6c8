import Multigrad.Proofs.Model.Expansion
import Mathlib.Algebra.BigOperators.Ring.List

/-!
# Regression in closed form

Data have a row of entries and an observation for each objective. The residuals of a point are what
its products with the rows leave of the observations. The objective of the whole problem is their
mean square, halved, and its gradient their mean product with the columns.
-/

namespace Multigrad

namespace Regression

variable {R : Type}

namespace Data

/-- There are rows, and each of them has an entry for every column. -/
structure Proper (data : Data R) : Prop where
  rows : data.rows ≠ []
  sized : ∀ row ∈ data.rows, row.1.length = data.columns

theorem length_of_mem_cut {rows columns : Nat} {entries : List R}
    (hentries : entries.length = rows * columns) :
    ∀ row ∈ cut columns rows entries, row.length = columns := by
  induction rows generalizing entries with
  | zero => exact fun _ hrow => (List.not_mem_nil hrow).elim
  | succ rows ih =>
      rw [Nat.succ_mul] at hentries
      rw [cut, List.forall_mem_cons]
      constructor
      · rw [List.length_take]
        omega
      · apply ih
        rw [List.length_drop]
        omega

theorem length_cut (rows columns : Nat) (entries : List R) :
    (cut columns rows entries).length = rows := by
  induction rows generalizing entries with
  | zero => rfl
  | succ rows ih => rw [cut, List.length_cons, ih]

/-- Data that are read from a matrix with rows, and as many observations, are proper. -/
theorem proper_of_ofGrids {rows columns : Nat} {matrix observations : List R} {data : Data R}
    (hmatrix : matrix.length = rows * columns) (hobservations : observations.length = rows)
    (hrows : rows ≠ 0)
    (hread : ofGrids ⟨[rows, columns], matrix⟩ ⟨[rows], observations⟩ = .ok data) :
    data.Proper := by
  change (if [rows] = [rows] then if columns = 0 then _ else _ else _) = _ at hread
  rw [if_pos rfl] at hread
  split at hread
  · cases hread
  · obtain rfl := Except.ok.inj hread
    constructor
    · rw [← List.length_pos_iff, List.length_zip, length_cut, hobservations, Nat.min_self]
      exact Nat.pos_of_ne_zero hrows
    · intro row hrow
      exact length_of_mem_cut hmatrix _ (List.of_mem_zip hrow).1

/-- At an exact fit, every observation is what its row predicts. -/
structure Fits (data : Data Rat) (target : List Rat) : Prop where
  length : target.length = data.columns
  predicts : ∀ row ∈ data.rows, dot row.1 target = row.2

end Data

theorem Data.row?_eq_ok {data : Data R} {index : Nat} {row : List R × R}
    (hrow : data.rows[index]? = some row) : data.row? index = .ok row := by
  rw [Data.row?, hrow]

theorem gradient_model [Scalar R] [Completion R] {data : Data R} {index : Nat} {row : List R}
    {observation : R} (hrow : data.rows[index]? = some (row, observation)) (x : List R) :
    (model data).gradient index (Grid.ofList x) = .ok (gradient row observation x) :=
  bind_eq_ok.mpr ⟨_, Data.row?_eq_ok hrow, rfl⟩

/-! ### Residuals and columns -/

namespace Data

variable {data : Data Rat}

/-- The products of all rows with a vector. -/
def image (data : Data Rat) (h : List Rat) : List Rat := data.rows.map fun row => dot row.1 h

/-- What the products with a point leave of the observations. -/
def misfits (data : Data Rat) (x : List Rat) : List Rat :=
  data.rows.map fun row => dot row.1 x - row.2

/-- The entries of all rows in a column. -/
def column (data : Data Rat) (j : Nat) : List Rat := data.rows.map (·.1.getD j 0)

theorem residuals_eq {x : List Rat} (hx : x.length = data.columns) :
    data.residuals (Grid.ofList x) = .ok (data.misfits x) := by
  have hresidual (row : List Rat × Rat) :
      accumulate 0.0 row.1 x - row.2 = dot row.1 x - row.2 := by
    rw [accumulate_eq]
    norm_num
  refine (if_pos hx).trans (congrArg Except.ok ?_)
  exact List.map_congr_left fun row _ => hresidual row

end Data

/-! ### One objective -/

section Objective

variable {data : Data Rat} {index : Nat} {row : List Rat} {observation : Rat}

theorem value_eq (row : List Rat) (observation : Rat) (x : List Rat) :
    value row observation x = 1 / 2 * (dot row x - observation) ^ 2 := by
  rw [value, residual_eq]
  ring

/-- Half the square of a residual, expanded: the square of what the shift does to it remains. -/
theorem value_add {x h : List Rat} (hx : row.length = x.length) (hh : row.length = h.length) :
    value row observation (List.zipWith (· + ·) x h)
      = value row observation x + dot (gradient row observation x) h + 1 / 2 * dot row h ^ 2 := by
  rw [value_eq, value_eq, gradient, dot_map_mul, residual_eq, dot_zipWith_add rfl hx.symm hh.symm]
  ring

variable [Completion Rat] (hrow : data.rows[index]? = some (row, observation))

include hrow

theorem value_model (x : List Rat) :
    (model data).value index (Grid.ofList x) = .ok (value row observation x) :=
  bind_eq_ok.mpr ⟨_, Data.row?_eq_ok hrow, rfl⟩

theorem expands_objective (hproper : data.Proper) {x h : List Rat} (hx : x.length = data.columns)
    (hh : h.length = data.columns) :
    Expands ((model data).value index) ((model data).gradient index) x h
      (1 / 2 * dot row h ^ 2) := by
  have hsized : row.length = data.columns := hproper.sized _ (List.mem_of_getElem? hrow)
  refine ⟨_, _, value_model hrow x, gradient_model hrow x, ?_, ?_⟩
  · rw [gradient, List.length_map, hsized, hx]
  · rw [value_model hrow, value_add (hsized.trans hx.symm) (hsized.trans hh.symm)]

end Objective

/-! ### All objectives -/

/-- What a row contributes to the gradient of the whole problem. -/
def share (data : Data Rat) (x : List Rat) (row : List Rat × Rat) : List Rat :=
  (gradient row.1 row.2 x).map (1 / (data.rows.length : Rat) * ·)

section Whole

variable [Completion Rat] {data : Data Rat} {x h : List Rat}

theorem weights_model (data : Data Rat) :
    (model data).problem.weights
      = List.replicate data.rows.length (1 / (data.rows.length : Rat)) := by
  change List.replicate data.rows.length (1.0 / ((data.rows.length : Int) : Rat)) = _
  norm_num

theorem length_weights_model {α : Type} (data : Data Rat) (f : List Rat × Rat → α) :
    (model data).problem.weights.length = (data.rows.map f).length := by
  rw [weights_model, List.length_replicate, List.length_map]

theorem dot_weights_model (data : Data Rat) (f : List Rat × Rat → Rat) :
    dot (model data).problem.weights (data.rows.map f)
      = (data.rows.map f).sum / data.rows.length := by
  rw [weights_model, ← List.length_map f, dot_replicate, List.length_map, one_div_mul_eq_div]

theorem dot_weights_model_half_sq (data : Data Rat) (f : List Rat × Rat → Rat) :
    dot (model data).problem.weights (data.rows.map fun row => 1 / 2 * f row ^ 2)
      = dot (data.rows.map f) (data.rows.map f) / (2 * data.rows.length) := by
  rw [dot_weights_model, List.sum_map_mul_left, dot_map_map]
  simp only [pow_two]
  ring

omit [Completion Rat] in
theorem forall_getElem?_map {α : Type} {f : List Rat × Rat → α} {P : Nat → α → Prop}
    (h : ∀ index row observation, data.rows[index]? = some (row, observation) →
      P index (f (row, observation))) :
    ∀ index a, (data.rows.map f)[index]? = some a → P index a := by
  intro index a ha
  rw [List.getElem?_map, Option.map_eq_some_iff] at ha
  obtain ⟨⟨row, observation⟩, hrow, rfl⟩ := ha
  exact h index row observation hrow

theorem total_model (data : Data Rat) (x : List Rat) :
    (model data).total (Grid.ofList x)
      = .ok (dot (data.misfits x) (data.misfits x) / (2 * data.rows.length)) := by
  have hvalues : ∀ index found,
      (data.rows.map fun row => 1 / 2 * (dot row.1 x - row.2) ^ 2)[index]? = some found →
        (model data).value (0 + index) (Grid.ofList x) = .ok found := by
    apply forall_getElem?_map
    intro index row observation hrow
    rw [Nat.zero_add, value_model hrow, value_eq]
  have hzero (a : Rat) : (0.0 : Rat) + a = a := by norm_num
  rw [Model.total, Model.sumValues_eq 0.0 (length_weights_model data _) hvalues,
    dot_weights_model_half_sq, hzero, Data.misfits]

omit [Completion Rat] in
theorem length_share (hproper : data.Proper) (x : List Rat) :
    ∀ vector ∈ data.rows.map (share data x), vector.length = data.columns := by
  rw [List.forall_mem_map]
  intro row hrow
  rw [share, List.length_map, gradient, List.length_map, hproper.sized row hrow]

omit [Completion Rat] in
theorem getD_share (data : Data Rat) (x : List Rat) (row : List Rat × Rat) (j : Nat) :
    (share data x row).getD j 0
      = 1 / (data.rows.length : Rat) * (row.1.getD j 0 * (dot row.1 x - row.2)) := by
  rw [share, getD_map_mul, gradient, getD_map_mul, residual_eq, mul_comm (dot row.1 x - row.2)]

theorem weigh_gradients (data : Data Rat) (x : List Rat) :
    weigh (model data).problem.weights (data.rows.map fun row => gradient row.1 row.2 x)
      = data.rows.map (share data x) := by
  rw [weights_model, ← List.length_map (fun row => gradient row.1 row.2 x), Model.weigh_replicate,
    List.map_map, List.length_map]
  rfl

theorem totalGradient_eq_addUp (hproper : data.Proper) (x : List Rat) :
    (model data).totalGradient (Grid.ofList x)
      = .ok (addUp (List.replicate data.columns 0.0) (data.rows.map (share data x))) := by
  have hgradients : ∀ index found,
      (data.rows.map fun row => gradient row.1 row.2 x)[index]? = some found →
        (model data).gradient (0 + index) (Grid.ofList x) = .ok found := by
    apply forall_getElem?_map
    intro index row observation hrow
    rw [Nat.zero_add, gradient_model hrow]
  have hsized : ∀ found ∈ data.rows.map fun row => gradient row.1 row.2 x,
      found.length = (List.replicate data.columns (0.0 : Rat)).length := by
    rw [List.forall_mem_map]
    intro row hrow
    rw [gradient, List.length_map, hproper.sized row hrow, List.length_replicate]
  rw [← weigh_gradients]
  exact Model.sumGradients_eq (length_weights_model data _) hgradients hsized

theorem totalGradient_model (hproper : data.Proper) (x : List Rat) :
    (model data).totalGradient (Grid.ofList x)
      = .ok ((List.range data.columns).map fun j =>
          dot (data.column j) (data.misfits x) / data.rows.length) := by
  have hzeros : (List.replicate data.columns (0.0 : Rat)).length = data.columns :=
    List.length_replicate
  have hshares := length_share hproper x
  have hlength := length_addUp hzeros hshares
  rw [totalGradient_eq_addUp hproper]
  congr 1
  apply List.ext_getElem
  · rw [hlength, List.length_map, List.length_range]
  · intro j hj _
    have hlt : j < data.columns := hlength ▸ hj
    have hzero : (List.replicate data.columns (0.0 : Rat)).getD j 0 = 0 := by
      rw [List.getD_replicate _ hlt]
      norm_num
    rw [List.getElem_map, List.getElem_range]
    calc (addUp (List.replicate data.columns 0.0) (data.rows.map (share data x)))[j]
        = (addUp (List.replicate data.columns 0.0) (data.rows.map (share data x))).getD j 0 :=
          (List.getD_eq_getElem _ _ hj).symm
      _ = (data.rows.map fun row => (share data x row).getD j 0).sum := by
          rw [getD_addUp hzeros hshares hlt, hzero, zero_add, List.map_map]
          rfl
      _ = 1 / (data.rows.length : Rat) * dot (data.column j) (data.misfits x) := by
          simp only [getD_share]
          rw [List.sum_map_mul_left, Data.column, Data.misfits, dot_map_map]
      _ = dot (data.column j) (data.misfits x) / data.rows.length := one_div_mul_eq_div _ _

/-- Of the whole problem, half the mean square of what the shift does to the residuals remains. -/
theorem expands_whole (hproper : data.Proper) (hx : x.length = data.columns)
    (hh : h.length = data.columns) :
    Expands (model data).total (model data).totalGradient x h
      (dot (data.image h) (data.image h) / (2 * data.rows.length)) := by
  have hexpands : ∀ index remainder,
      (data.rows.map fun row => 1 / 2 * dot row.1 h ^ 2)[index]? = some remainder →
        Expands ((model data).value index) ((model data).gradient index) x h remainder := by
    apply forall_getElem?_map
    intro index row observation hrow
    exact expands_objective hrow hproper hx hh
  have hexpanded := Model.expands_total hx hh (length_weights_model data _) hexpands
  rwa [dot_weights_model_half_sq] at hexpanded

end Whole

end Regression

end Multigrad
