import Multigrad.Proofs.Solver.Progress
import Multigrad.Model.Coordinatewise

/-!
# Gradients that are the same everywhere

The objectives of a linear model have one slope each, whatever the point. The gradient of such a
model adds its slopes up, each of them as often as its weight says.
-/

namespace Multigrad

variable {R : Type} [Scalar R]

/-- Adds vectors onto a first one, entry by entry. -/
def addUp (sum : List R) (vectors : List (List R)) : List R :=
  vectors.foldl (List.zipWith (· + ·)) sum

/-- Every vector times its weight. -/
def weigh (weights : List R) (vectors : List (List R)) : List (List R) :=
  List.zipWith (fun weight vector => vector.map (weight * ·)) weights vectors

theorem length_addUp {n : Nat} {sum : List R} {vectors : List (List R)} (hsum : sum.length = n)
    (hvectors : ∀ vector ∈ vectors, vector.length = n) : (addUp sum vectors).length = n := by
  induction vectors generalizing sum with
  | nil => exact hsum
  | cons vector rest ih =>
      rw [List.forall_mem_cons] at hvectors
      exact ih (length_zipWith_of_length hsum hvectors.1) hvectors.2

/-- What holds of each member and its number, counted from `index` on, holds of the first member at
`index` and of the others from the next number on. -/
theorem forall_getElem?_cons {α : Type} {P : Nat → α → Prop} {index : Nat} {a : α} {rest : List α}
    (h : ∀ k b, (a :: rest)[k]? = some b → P (index + k) b) :
    P index a ∧ ∀ k b, rest[k]? = some b → P (index + 1 + k) b := by
  refine ⟨h 0 a rfl, ?_⟩
  intro k b hb
  rw [Nat.add_assoc, Nat.add_comm 1 k]
  exact h (k + 1) b hb

namespace Model

/-! ### The length of a gradient -/

theorem length_of_sumGradients {model : Model R} {x : Grid R} {index : Nat}
    {weights sum total : List R} (h : model.sumGradients x index weights sum = .ok total) :
    total.length = sum.length := by
  induction weights generalizing index sum with
  | nil => rw [Except.ok.inj h]
  | cons weight rest ih =>
      obtain ⟨gradient, -, hrest⟩ := bind_eq_ok.mp h
      obtain ⟨added, hadded, htotal⟩ := bind_eq_ok.mp hrest
      rw [ih htotal, (addOnto_length hadded).1]

theorem length_of_totalGradient {model : Model R} {x : Grid R} {total : List R}
    (h : model.totalGradient x = .ok total) : total.length = model.problem.nvar := by
  rw [length_of_sumGradients h, List.length_replicate]

theorem sumGradients_eq {model : Model R} {x : Grid R} {index : Nat} {weights sum : List R}
    {gradients : List (List R)} (hlength : weights.length = gradients.length)
    (hgradients : ∀ k gradient, gradients[k]? = some gradient →
      model.gradient (index + k) x = .ok gradient)
    (hsized : ∀ gradient ∈ gradients, gradient.length = sum.length) :
    model.sumGradients x index weights sum = .ok (addUp sum (weigh weights gradients)) := by
  induction weights generalizing index gradients sum with
  | nil => rfl
  | cons weight rest ih =>
      obtain ⟨gradient, gradients, rfl⟩ := List.exists_cons_of_length_eq_add_one hlength.symm
      rw [List.forall_mem_cons] at hsized
      obtain ⟨hfirst, hrest⟩ :=
        forall_getElem?_cons (P := fun k gradient => model.gradient k x = .ok gradient) hgradients
      have hscaled : (gradient.map (weight * ·)).length = sum.length := by
        rw [List.length_map, hsized.1]
      have hadded : (List.zipWith (· + ·) sum (gradient.map (weight * ·))).length = sum.length :=
        length_zipWith_of_length rfl hscaled
      refine bind_eq_ok.mpr ⟨gradient, hfirst, bind_eq_ok.mpr ⟨_, if_pos hscaled.symm, ?_⟩⟩
      apply ih (Nat.succ.inj hlength) hrest
      rw [hadded]
      exact hsized.2

/-! ### Slopes -/

/-- The objectives have these gradients at every point. -/
structure Slopes (model : Model R) (slopes : List (List R)) : Prop where
  length : slopes.length = model.problem.nobj
  sized : ∀ slope ∈ slopes, slope.length = model.problem.nvar
  gradient : ∀ index slope, slopes[index]? = some slope →
    ∀ point : List R, point.length = model.problem.nvar →
      model.gradient index (Grid.ofList point) = .ok slope

namespace Slopes

variable {model : Model R} {slopes : List (List R)} {point : List R}

theorem sumGradients (hslopes : model.Slopes slopes) (hpoint : point.length = model.problem.nvar)
    {index : Nat} {weights : List R} (hindex : index + weights.length = model.problem.nobj)
    {sum : List R} (hsum : sum.length = model.problem.nvar) :
    model.sumGradients (Grid.ofList point) index weights sum
      = .ok (addUp sum (weigh weights (slopes.drop index))) := by
  apply sumGradients_eq
  · rw [List.length_drop, hslopes.length]
    omega
  · intro k slope hslope
    rw [List.getElem?_drop] at hslope
    exact hslopes.gradient (index + k) slope hslope point hpoint
  · intro slope hslope
    rw [hslopes.sized slope (List.mem_of_mem_drop hslope), hsum]

theorem totalGradient (hslopes : model.Slopes slopes) (hpoint : point.length = model.problem.nvar)
    (hweights : model.problem.weights.length = model.problem.nobj) :
    model.totalGradient (Grid.ofList point)
      = .ok (addUp (List.replicate model.problem.nvar 0.0) (weigh model.problem.weights slopes)) :=
  hslopes.sumGradients hpoint (by rw [hweights, Nat.zero_add]) List.length_replicate

omit [Scalar R] in
theorem gradI (hslopes : model.Slopes slopes) (hpoint : point.length = model.problem.nvar)
    {index : Nat} {slope : List R} (hslope : slopes[index]? = some slope) (counters : Counters) :
    (model.gradI index (.ok (Grid.ofList point)) counters).1 = .ok slope := by
  obtain ⟨hlt, -⟩ := List.getElem?_eq_some_iff.mp hslope
  rw [hslopes.length] at hlt
  exact gradI_eq_ok.mpr ⟨mem_objectives.mpr ⟨Int.natCast_nonneg index, Int.ofNat_lt.mpr hlt⟩,
    hslopes.gradient index slope hslope point hpoint⟩

end Slopes

end Model

/-! ### Linear models -/

namespace Linear

variable {rows : List (List R)} {problem : Meta R} {row : List R} {index : Nat}

omit [Scalar R] in
theorem rowOf_eq_ok : rowOf rows index = .ok row ↔ rows[index]? = some row := by
  unfold rowOf
  split
  · rename_i found hfound
    rw [hfound, Except.ok.injEq, Option.some.injEq]
  · rename_i hfound
    rw [hfound]
    exact iff_of_false (fun h => nomatch h) (fun h => nomatch h)

variable (hlength : rows.length = problem.nobj) (hsized : ∀ row ∈ rows, row.length = problem.nvar)

include hlength hsized

theorem slopes : (model rows problem).Slopes rows :=
  ⟨hlength, hsized, fun _ _ hrow _ _ => rowOf_eq_ok.mpr hrow⟩

omit [Scalar R] in
theorem exists_row (hindex : index < problem.nobj) :
    ∃ row, rowOf rows index = .ok row ∧ row.length = problem.nvar := by
  rw [← hlength] at hindex
  exact ⟨rows[index], rowOf_eq_ok.mpr (List.getElem?_eq_getElem hindex),
    hsized _ (List.getElem_mem hindex)⟩

theorem answers (hx0 : problem.x0.length = problem.nvar)
    (hweights : problem.weights.length = problem.nobj) : (model rows problem).Answers where
  x0 := hx0
  weights := hweights
  value := by
    intro index hindex point hpoint
    obtain ⟨row, hrow, hrowLength⟩ := exists_row hlength hsized hindex
    have hcovered : ¬point.length < row.length := by
      rw [hpoint, hrowLength]
      exact Nat.lt_irrefl _
    exact ⟨_, bind_eq_ok.mpr ⟨row, hrow, bind_eq_ok.mpr ⟨_, if_neg hcovered, rfl⟩⟩⟩
  gradient := by
    intro index hindex point _
    obtain ⟨row, hrow, hrowLength⟩ := exists_row hlength hsized hindex
    exact ⟨row, hrow, .inl hrowLength⟩

end Linear

end Multigrad
