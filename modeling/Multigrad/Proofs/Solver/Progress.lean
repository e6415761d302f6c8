import Multigrad.Proofs.Solver.Solve

/-!
# Iterations that cannot fail

An iteration fails only where something that it uses fails: an evaluation of the model, the source
of the orders, the regularization or the step size. Where none of them does, the iteration comes to
a next point, and the point has as many entries as there are variables.
-/

namespace Multigrad

variable {R : Type}

/-- What goes with `n` variables: an entry for each of them, or a single one for all. -/
def Spans (n : Nat) (vector : List R) : Prop := vector.length = n ∨ vector.length = 1

theorem Spans.map {n : Nat} {vector : List R} (hspans : Spans n vector) (f : R → R) :
    Spans n (vector.map f) := by
  rwa [Spans, List.length_map]

theorem length_zipWith_of_length {α β γ : Type} {f : α → β → γ} {n : Nat} {a : List α} {b : List β}
    (ha : a.length = n) (hb : b.length = n) : (List.zipWith f a b).length = n := by
  rw [List.length_zipWith, ha, hb, Nat.min_self]

variable [Scalar R]

/-! ### Models -/

namespace Model

theorem addOnto_length {sum term total : List R} (hadd : addOnto sum term = .ok total) :
    total.length = sum.length ∧ (sum.length = term.length ∨ term.length = 1) := by
  unfold addOnto at hadd
  split at hadd
  · rename_i heq
    obtain rfl := Except.ok.inj hadd
    exact ⟨length_zipWith_of_length rfl heq.symm, .inl heq⟩
  · split at hadd
    · obtain rfl := Except.ok.inj hadd
      exact ⟨List.length_map _, .inr rfl⟩
    · cases hadd

theorem addOnto_of_spans {n : Nat} {sum term : List R} (hsum : sum.length = n)
    (hterm : Spans n term) : ∃ total, addOnto sum term = .ok total ∧ total.length = n := by
  by_cases heq : sum.length = term.length
  · exact ⟨_, if_pos heq, length_zipWith_of_length hsum (heq.symm.trans hsum)⟩
  · have hsingle : term.length = 1 := hterm.resolve_left fun h => heq (hsum.trans h.symm)
    obtain ⟨entry, rfl⟩ := List.length_eq_one_iff.mp hsingle
    exact ⟨_, if_neg heq, by rw [List.length_map, hsum]⟩

omit [Scalar R] in
theorem gradI_eq_ok {model : Model R} {index : Int} {x : Grid R} {counters : Counters}
    {gradient : List R} :
    (model.gradI index (.ok x) counters).1 = .ok gradient ↔
      index ∈ objectives model.problem.nobj ∧ model.gradient index.toNat x = .ok gradient := by
  rw [mem_objectives, gradI, evaluateAt]
  split
  · rename_i hindex
    rw [and_iff_right hindex]
    exact mapError_eq_ok
  · rename_i hindex
    constructor
    · intro h
      cases h
    · intro h
      exact absurd h.1 hindex

/-- A model that can be evaluated at every point with an entry for each variable. -/
structure Answers (model : Model R) : Prop where
  x0 : model.problem.x0.length = model.problem.nvar
  weights : model.problem.weights.length = model.problem.nobj
  value : ∀ index < model.problem.nobj, ∀ point : List R, point.length = model.problem.nvar →
    ∃ value, model.value index (Grid.ofList point) = .ok value
  gradient : ∀ index < model.problem.nobj, ∀ point : List R,
    point.length = model.problem.nvar →
      ∃ gradient, model.gradient index (Grid.ofList point) = .ok gradient
        ∧ Spans model.problem.nvar gradient

namespace Answers

variable {model : Model R} {point : List R}

theorem sumValues (hanswers : model.Answers) (hpoint : point.length = model.problem.nvar)
    {index : Nat} {weights : List R} (hindex : index + weights.length = model.problem.nobj)
    (sum : R) : ∃ total, model.sumValues (Grid.ofList point) index weights sum = .ok total := by
  induction weights generalizing index sum with
  | nil => exact ⟨sum, rfl⟩
  | cons weight rest ih =>
      rw [List.length_cons] at hindex
      obtain ⟨value, hvalue⟩ := hanswers.value index (by omega) point hpoint
      have hrest : index + 1 + rest.length = model.problem.nobj := by omega
      obtain ⟨total, htotal⟩ := ih hrest (sum + weight * value)
      exact ⟨total, bind_eq_ok.mpr ⟨value, hvalue, htotal⟩⟩

theorem sumGradients (hanswers : model.Answers) (hpoint : point.length = model.problem.nvar)
    {index : Nat} {weights : List R} (hindex : index + weights.length = model.problem.nobj)
    {sum : List R} (hsum : sum.length = model.problem.nvar) :
    ∃ total, model.sumGradients (Grid.ofList point) index weights sum = .ok total := by
  induction weights generalizing index sum with
  | nil => exact ⟨sum, rfl⟩
  | cons weight rest ih =>
      rw [List.length_cons] at hindex
      obtain ⟨gradient, hgradient, hspans⟩ := hanswers.gradient index (by omega) point hpoint
      obtain ⟨added, hadded, hlength⟩ := addOnto_of_spans hsum (hspans.map (weight * ·))
      have hrest : index + 1 + rest.length = model.problem.nobj := by omega
      obtain ⟨total, htotal⟩ := ih hrest hlength
      exact ⟨total, bind_eq_ok.mpr ⟨gradient, hgradient, bind_eq_ok.mpr ⟨added, hadded, htotal⟩⟩⟩

theorem total (hanswers : model.Answers) :
    ∃ objective, model.total (Grid.ofList model.problem.x0) = .ok objective :=
  hanswers.sumValues hanswers.x0 (by rw [hanswers.weights, Nat.zero_add]) _

theorem totalGradient (hanswers : model.Answers) :
    ∃ gradient, model.totalGradient (Grid.ofList model.problem.x0) = .ok gradient :=
  hanswers.sumGradients hanswers.x0 (by rw [hanswers.weights, Nat.zero_add])
    List.length_replicate

omit [Scalar R] in
theorem gradI (hanswers : model.Answers) (hpoint : point.length = model.problem.nvar) {index : Int}
    (hindex : index ∈ objectives model.problem.nobj) (counters : Counters) :
    ∃ gradient, (model.gradI index (.ok (Grid.ofList point)) counters).1 = .ok gradient
      ∧ Spans model.problem.nvar gradient := by
  have hrange := mem_objectives.mp hindex
  obtain ⟨gradient, hgradient, hspans⟩ := hanswers.gradient index.toNat (by omega) point hpoint
  exact ⟨gradient, gradI_eq_ok.mpr ⟨hindex, hgradient⟩, hspans⟩

end Answers

end Model

/-! ### Sources of orders -/

/-- A source that has an order whenever a run draws one. -/
structure OrderSource.Serves {σ : Type} (source : OrderSource σ) (initial : σ) : Prop where
  start : ∃ state, source.start initial = .ok state
  next : ∀ state, source.Reachable initial state →
    ∃ order after, source.next state = .ok (order, after)

omit [Scalar R] in
theorem Orders.serves_listed {orders : List (List Int)} (horders : orders ≠ []) (n used : Nat) :
    (source n : OrderSource (Orders R)).Serves (.listed orders used) where
  start := ⟨_, rfl⟩
  next := by
    have hlisted : ∀ state, (source n : OrderSource (Orders R)).Reachable (.listed orders used)
        state → ∃ used, state = .listed orders used := by
      intro state hstate
      induction hstate with
      | start h => exact ⟨used, (Except.ok.inj h).symm⟩
      | next _ h ih =>
          obtain ⟨used, rfl⟩ := ih
          simp only [source, Orders.next] at h
          split at h
          · cases h
            exact ⟨used + 1, rfl⟩
          · cases h
    intro state hstate
    obtain ⟨used, rfl⟩ := hlisted state hstate
    have hlt : used % orders.length < orders.length :=
      Nat.mod_lt _ (List.length_pos_of_ne_nil horders)
    refine ⟨orders[used % orders.length], .listed orders (used + 1), ?_⟩
    simp only [source, Orders.next, List.getElem?_eq_getElem hlt]

namespace Solver

variable {σ : Type}

/-! ### One step -/

omit [Scalar R] in
theorem combine_of_spans {f : R → R → R} {n : Nat} {a b : List R} (ha : a.length = n)
    (hb : Spans n b) : ∃ c, combine f a b = .ok c ∧ c.length = n := by
  by_cases heq : a.length = b.length
  · exact ⟨_, if_pos heq, length_zipWith_of_length ha (heq.symm.trans ha)⟩
  · have hsingle : b.length = 1 := hb.resolve_left fun h => heq (ha.trans h.symm)
    obtain ⟨entry, rfl⟩ := List.length_eq_one_iff.mp hsingle
    refine ⟨a.map (f · entry), ?_, by rw [List.length_map, ha]⟩
    rw [combine, if_neg heq]
    · rintro other rfl
      exact heq rfl

theorem move_of_spans {step : Number R} {size : R} (hstep : step.toReal = .ok size) {n : Nat}
    {point pulled gradient : List R} (hpoint : point.length = n) (hpulled : pulled.length = n)
    (hgradient : Spans n gradient) (direction : R) :
    ∃ next, move step direction point pulled gradient = .ok next ∧ next.length = n := by
  obtain ⟨slope, hslope, hlength⟩ := combine_of_spans (f := (· + ·)) hpulled
    (hgradient.map (direction * ·))
  have hscaled : Spans n (slope.map (size * ·)) := .map (.inl hlength) _
  obtain ⟨next, hnext, hnextLength⟩ := combine_of_spans (f := (· - ·)) hpoint hscaled
  refine ⟨next, ?_, hnextLength⟩
  exact bind_eq_ok.mpr ⟨slope, hslope, bind_eq_ok.mpr ⟨size, hstep, hnext⟩⟩

theorem pull_of_alpha {settings : Settings R} {alpha : R}
    (halpha : settings.alpha.real? = .ok alpha) (regularizer : Regularizer R) (point : List R) :
    ∃ pulled, pull settings regularizer point = .ok pulled ∧ pulled.length = point.length := by
  refine ⟨_, bind_eq_ok.mpr ⟨alpha, halpha, rfl⟩, ?_⟩
  rw [List.length_map, Regularizer.direction, List.length_map]

namespace Plan

variable {plan : Plan R} {alpha size : R} {stepSize : Number R} {point sum : List R}

theorem step_of_answers (hanswers : plan.model.Answers)
    (halpha : plan.settings.alpha.real? = .ok alpha) (hstep : stepSize.toReal = .ok size)
    (hpoint : point.length = plan.model.problem.nvar) {index : Int}
    (hindex : index ∈ objectives plan.model.problem.nobj) (journal : Journal σ R) :
    ∃ next after, plan.step stepSize point index journal = .ok next after
      ∧ next.length = plan.model.problem.nvar := by
  obtain ⟨pulled, hpulled, hlength⟩ := pull_of_alpha halpha plan.regularizer point
  obtain ⟨gradient, hgradient, hspans⟩ := hanswers.gradI hpoint hindex journal.counters
  obtain ⟨next, hnext, hnextLength⟩ := move_of_spans hstep hpoint (hlength.trans hpoint) hspans
    (direction plan.model.problem)
  exact ⟨next, _, step_eq_ok.mpr ⟨pulled, gradient, hpulled, hgradient, hnext, rfl⟩, hnextLength⟩

theorem sweep_of_answers (hanswers : plan.model.Answers)
    (halpha : plan.settings.alpha.real? = .ok alpha) (hstep : stepSize.toReal = .ok size)
    {order : List Int} (horder : ∀ index ∈ order, index ∈ objectives plan.model.problem.nobj)
    (hpoint : point.length = plan.model.problem.nvar)
    (hsum : sum.length = plan.model.problem.nvar) (journal : Journal σ R) :
    ∃ last total after, plan.sweep stepSize order point sum journal = .ok (last, total) after
      ∧ last.length = plan.model.problem.nvar ∧ total.length = plan.model.problem.nvar := by
  induction order generalizing point sum journal with
  | nil => exact ⟨point, sum, journal, rfl, hpoint, hsum⟩
  | cons index rest ih =>
      rw [List.forall_mem_cons] at horder
      obtain ⟨next, mid, hnext, hlength⟩ := step_of_answers hanswers halpha hstep hpoint horder.1
        journal
      obtain ⟨added, hadded, haddedLength⟩ := Model.addOnto_of_spans hsum (.inl hlength)
      obtain ⟨last, total, after, hrest, hlengths⟩ := ih horder.2 hlength haddedLength mid
      exact ⟨last, total, after, sweep_cons_eq_ok.mpr ⟨next, added, mid, hnext, hadded, hrest⟩,
        hlengths⟩

end Plan

/-! ### One iteration -/

/-- An iterate with an entry for each variable. -/
structure Iterate.Sized (iterate : Iterate R) (nvar : Nat) : Prop where
  point : iterate.point.length = nvar
  average : iterate.average.length = nvar

omit [Scalar R] in
theorem sized_initialIterate {model : Model R} (hanswers : model.Answers) (stepSize : Number R) :
    (initialIterate model stepSize).Sized model.problem.nvar :=
  ⟨hanswers.x0, hanswers.x0⟩

variable [Completion R] {plan : Plan R} {source : OrderSource σ} {initial : σ}

theorem Plan.advance_of_answers (hanswers : plan.model.Answers)
    (hpermutes : source.Permutes initial plan.model.problem.nobj) (hserves : source.Serves initial)
    {current : Iterate R} (hsized : current.Sized plan.model.problem.nvar) {alpha size : R}
    {stepSize : Number R} (halpha : plan.settings.alpha.real? = .ok alpha)
    (hnext : plan.settings.nextStep current.iterations current.stepSize = .ok stepSize)
    (hstep : stepSize.toReal = .ok size) {journal : Journal σ R}
    (hreachable : source.Reachable initial journal.orders) :
    ∃ next after, plan.advance source current journal = .ok next after
      ∧ next.Sized plan.model.problem.nvar := by
  obtain ⟨order, orders, hdraw⟩ := hserves.next _ hreachable
  have hperm := hpermutes _ hreachable _ _ hdraw
  have hzeros : (current.average.map fun _ => (0.0 : R)).length = plan.model.problem.nvar := by
    rw [List.length_map, hsized.average]
  obtain ⟨last, total, mid, hsweep, hlast, htotal⟩ := sweep_of_answers hanswers halpha hstep
    (fun _ => hperm.mem_iff.mp) hsized.point hzeros { journal with orders }
  refine ⟨_, _, advance_eq_ok.mpr ⟨stepSize, order, orders, last, total, mid, hnext, hdraw, hsweep,
    rfl, rfl⟩, hlast, ?_⟩
  rw [List.length_map, htotal]

end Solver

end Multigrad
