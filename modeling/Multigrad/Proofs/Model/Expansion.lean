import Multigrad.Proofs.Model.Distance
import Mathlib.Data.List.GetD

/-!
# Expansions

What a gradient is for, in exact arithmetic: where a point is shifted, the value changes by the
product of the gradient with the shift, and by a remainder. The remainders of the objectives add up
to that of their weighted sum, each as often as its weight says.
-/

namespace Multigrad

/-- From `x` to `x + h`, the value changes by the gradient times `h` and a remainder. -/
def Expands (value : Grid Rat → Except Mishap Rat) (gradient : Grid Rat → Except Mishap (List Rat))
    (x h : List Rat) (remainder : Rat) : Prop :=
  ∃ start slope, value (Grid.ofList x) = .ok start ∧ gradient (Grid.ofList x) = .ok slope
    ∧ slope.length = x.length
    ∧ value (Grid.ofList (List.zipWith (· + ·) x h)) = .ok (start + dot slope h + remainder)

/-! ### Products -/

theorem dot_comm (a b : List Rat) : dot a b = dot b a :=
  congrArg List.sum (List.zipWith_comm_of_comm fun x y => mul_comm x y)

theorem dot_zipWith_add_left {n : Nat} {a b c : List Rat} (ha : a.length = n) (hb : b.length = n)
    (hc : c.length = n) : dot (List.zipWith (· + ·) a b) c = dot a c + dot b c := by
  rw [dot_comm, dot_zipWith_add hc ha hb, dot_comm c, dot_comm c]

theorem dot_map_mul (factor : Rat) (a b : List Rat) :
    dot (a.map (factor * ·)) b = factor * dot a b := by
  induction a generalizing b with
  | nil => exact (mul_zero factor).symm
  | cons x a ih =>
      cases b with
      | nil => exact (mul_zero factor).symm
      | cons y b =>
          rw [List.map_cons, dot_cons, dot_cons, ih]
          ring

theorem dot_replicate (factor : Rat) (a : List Rat) :
    dot (List.replicate a.length factor) a = factor * a.sum := by
  induction a with
  | nil => exact (mul_zero factor).symm
  | cons x a ih => rw [List.length_cons, List.replicate_succ, dot_cons, ih, List.sum_cons, mul_add]

theorem dot_map_map {α : Type} (members : List α) (f g : α → Rat) :
    dot (members.map f) (members.map g) = (members.map fun a => f a * g a).sum := by
  rw [dot, List.zipWith_map, List.zipWith_self]

/-! ### Entries -/

theorem getD_map_mul (factor : Rat) (a : List Rat) (j : Nat) :
    (a.map (factor * ·)).getD j 0 = factor * a.getD j 0 := by
  conv_lhs => rw [← mul_zero factor]
  exact List.getD_map a 0 (factor * ·)

theorem getD_addUp {n j : Nat} {sum : List Rat} {vectors : List (List Rat)} (hsum : sum.length = n)
    (hsized : ∀ vector ∈ vectors, vector.length = n) (hj : j < n) :
    (addUp sum vectors).getD j 0 = sum.getD j 0 + (vectors.map (·.getD j 0)).sum := by
  induction vectors generalizing sum with
  | nil => exact (add_zero _).symm
  | cons vector rest ih =>
      rw [List.forall_mem_cons] at hsized
      have hadded : (List.zipWith (· + ·) sum vector).length = n :=
        length_zipWith_of_length hsum hsized.1
      have hentry : (List.zipWith (· + ·) sum vector).getD j 0
          = sum.getD j 0 + vector.getD j 0 := by
        rw [List.getD_eq_getElem _ _ (hadded ▸ hj), List.getElem_zipWith,
          List.getD_eq_getElem _ _ (hsum ▸ hj), List.getD_eq_getElem _ _ (hsized.1 ▸ hj)]
      calc (addUp sum (vector :: rest)).getD j 0
          = (List.zipWith (· + ·) sum vector).getD j 0 + (rest.map (·.getD j 0)).sum :=
            ih hadded hsized.2
        _ = sum.getD j 0 + ((vector :: rest).map (·.getD j 0)).sum := by
            rw [hentry, List.map_cons, List.sum_cons, add_assoc]

/-! ### Weighted sums -/

namespace Model

variable {model : Model Rat}

theorem sumValues_eq {x : Grid Rat} {index : Nat} {weights values : List Rat} (sum : Rat)
    (hlength : weights.length = values.length)
    (hvalues : ∀ k value, values[k]? = some value → model.value (index + k) x = .ok value) :
    model.sumValues x index weights sum = .ok (sum + dot weights values) := by
  induction weights generalizing index values sum with
  | nil => exact congrArg Except.ok (add_zero sum).symm
  | cons weight rest ih =>
      obtain ⟨value, values, rfl⟩ := List.exists_cons_of_length_eq_add_one hlength.symm
      obtain ⟨hfirst, hrest⟩ :=
        forall_getElem?_cons (P := fun k value => model.value k x = .ok value) hvalues
      refine bind_eq_ok.mpr ⟨value, hfirst, ?_⟩
      rw [ih (sum + weight * value) (Nat.succ.inj hlength) hrest, dot_cons, add_assoc]

/-- On the way, the sum at the shifted point is ahead by what the gradients so far and the
remainders so far make of it. -/
theorem expands_sum {x h weights remainders sums : List Rat} {index : Nat} (sum ahead : Rat)
    (hlength : weights.length = remainders.length)
    (hexpands : ∀ k remainder, remainders[k]? = some remainder →
      Expands (model.value (index + k)) (model.gradient (index + k)) x h remainder)
    (hsums : sums.length = x.length) (hh : h.length = x.length) :
    ∃ total slope, model.sumValues (Grid.ofList x) index weights sum = .ok total
      ∧ model.sumGradients (Grid.ofList x) index weights sums = .ok slope
      ∧ slope.length = x.length
      ∧ model.sumValues (Grid.ofList (List.zipWith (· + ·) x h)) index weights
          (sum + dot sums h + ahead)
        = .ok (total + dot slope h + (ahead + dot weights remainders)) := by
  induction weights generalizing index remainders sum sums ahead with
  | nil => exact ⟨sum, sums, rfl, rfl, hsums, by simp [sumValues, dot]⟩
  | cons weight rest ih =>
      obtain ⟨remainder, remainders, rfl⟩ := List.exists_cons_of_length_eq_add_one hlength.symm
      obtain ⟨hfirst, hrest⟩ := forall_getElem?_cons
        (P := fun k remainder => Expands (model.value k) (model.gradient k) x h remainder) hexpands
      obtain ⟨value, gradient, hvalue, hgradient, hsized, hshifted⟩ := hfirst
      have hscaled : (gradient.map (weight * ·)).length = x.length := by
        rw [List.length_map, hsized]
      have hadded : addOnto sums (gradient.map (weight * ·))
          = .ok (List.zipWith (· + ·) sums (gradient.map (weight * ·))) :=
        if_pos (hsums.trans hscaled.symm)
      have haddedLength : (List.zipWith (· + ·) sums (gradient.map (weight * ·))).length
          = x.length := length_zipWith_of_length hsums hscaled
      obtain ⟨total, slope, htotal, hslope, hslopeLength, htotalShifted⟩ :=
        ih (sum + weight * value) (ahead + weight * remainder) (Nat.succ.inj hlength) hrest
          haddedLength
      have hahead : sum + dot sums h + ahead + weight * (value + dot gradient h + remainder)
          = sum + weight * value + dot (List.zipWith (· + ·) sums (gradient.map (weight * ·))) h
            + (ahead + weight * remainder) := by
        rw [dot_zipWith_add_left hsums hscaled hh, dot_map_mul]
        ring
      refine ⟨total, slope, bind_eq_ok.mpr ⟨value, hvalue, htotal⟩,
        bind_eq_ok.mpr ⟨gradient, hgradient, bind_eq_ok.mpr ⟨_, hadded, hslope⟩⟩, hslopeLength, ?_⟩
      refine bind_eq_ok.mpr ⟨_, hshifted, ?_⟩
      rw [hahead, htotalShifted, dot_cons, add_assoc ahead]

/-- The weighted sum of objectives expands as they do. -/
theorem expands_total {x h remainders : List Rat} (hx : x.length = model.problem.nvar)
    (hh : h.length = model.problem.nvar)
    (hlength : model.problem.weights.length = remainders.length)
    (hexpands : ∀ k remainder, remainders[k]? = some remainder →
      Expands (model.value k) (model.gradient k) x h remainder) :
    Expands model.total model.totalGradient x h (dot model.problem.weights remainders) := by
  have hzeros : (List.replicate model.problem.nvar (0.0 : Rat)).length = x.length := by
    rw [List.length_replicate, hx]
  have hstart : (0.0 : Rat) + dot (List.replicate model.problem.nvar 0.0) h + 0 = 0.0 := by
    rw [dot_comm, dot_zeros, add_zero, add_zero]
  have hexpands' : ∀ k remainder, remainders[k]? = some remainder →
      Expands (model.value (0 + k)) (model.gradient (0 + k)) x h remainder := by
    simpa only [Nat.zero_add] using hexpands
  obtain ⟨total, slope, htotal, hslope, hslopeLength, hshifted⟩ :=
    expands_sum 0.0 0 hlength hexpands' hzeros (hh.trans hx.symm)
  rw [hstart, zero_add] at hshifted
  exact ⟨total, slope, htotal, hslope, hslopeLength, hshifted⟩

end Model

end Multigrad
