import Multigrad.Proofs.Model.Straight
import Multigrad.Proofs.Solver.Loop

/-!
# What a run descends

The problem's own objective is the weighted sum of all objectives, but a step goes along the
gradient of the visited objective as it is. Where the gradients are the same everywhere, and exact,
an iteration without regularization therefore descends the sum without the weights, in whatever
order the objectives come. It descends the weighted sum only where the weights make no difference.
-/

namespace Multigrad

namespace Solver

variable {σ : Type}

/-! ### One sweep -/

theorem pull_of_zero {settings : Settings Rat} (halpha : settings.alpha.real? = .ok 0)
    (regularizer : Regularizer Rat) (point : List Rat) :
    pull settings regularizer point = .ok (List.replicate point.length 0) := by
  refine bind_eq_ok.mpr ⟨0, halpha, ?_⟩
  simp only [zero_mul, Regularizer.direction, List.map_map, Function.comp_def, List.map_const',
    pure_eq_ok]

theorem zipWith_add_zeros (vector : List Rat) :
    List.zipWith (· + ·) (List.replicate vector.length 0) vector = vector := by
  induction vector with
  | nil => rfl
  | cons entry rest ih =>
      rw [List.length_cons, List.replicate_succ, List.zipWith_cons_cons, zero_add, ih]

theorem move_of_zero {step : Number Rat} {g : Rat} (hstep : step.toReal = .ok g) (direction : Rat)
    {point gradient : List Rat} (hlength : point.length = gradient.length) :
    move step direction point (List.replicate point.length 0) gradient
      = .ok (descend (direction * g) point gradient) := by
  have hslope : combine (· + ·) (List.replicate point.length 0) (gradient.map (direction * ·))
      = .ok (gradient.map (direction * ·)) := by
    have hlength' : point.length = (gradient.map (direction * ·)).length := by
      rw [List.length_map, hlength]
    rw [combine_of_length (by rw [List.length_replicate, hlength']), hlength', zipWith_add_zeros]
  refine bind_eq_ok.mpr ⟨_, hslope, bind_eq_ok.mpr ⟨g, hstep, ?_⟩⟩
  rw [combine_of_length (by rw [List.length_map, List.length_map, hlength]), descend, List.map_map,
    List.zipWith_map_right]
  congr 2
  funext entry rise
  simp only [Function.comp_apply]
  ring

namespace Plan

variable {plan : Plan Rat} {slopes : List (List Rat)} {stepSize : Number Rat} {g : Rat}
  {point : List Rat}

theorem step_of_slopes (hslopes : plan.model.Slopes slopes)
    (halpha : plan.settings.alpha.real? = .ok 0) (hstep : stepSize.toReal = .ok g)
    (hpoint : point.length = plan.model.problem.nvar) {index : Nat} {slope : List Rat}
    (hslope : slopes[index]? = some slope) (journal : Journal σ Rat) :
    ∃ after, plan.step stepSize point index journal
      = .ok (descend (direction plan.model.problem * g) point slope) after := by
  have hlength : point.length = slope.length := by
    rw [hpoint, hslopes.sized slope (List.mem_of_getElem? hslope)]
  exact ⟨_, step_eq_ok.mpr ⟨_, slope, pull_of_zero halpha _ _, hslopes.gradI hpoint hslope _,
    move_of_zero hstep _ hlength, rfl⟩⟩

/-- A sweep moves the point along the slopes of the objectives that it visits, in their order. -/
theorem sweep_of_slopes (hslopes : plan.model.Slopes slopes)
    (halpha : plan.settings.alpha.real? = .ok 0) (hstep : stepSize.toReal = .ok g)
    {indices : List Nat} (hindices : ∀ index ∈ indices, index < slopes.length)
    (hpoint : point.length = plan.model.problem.nvar) {sum : List Rat}
    (hsum : sum.length = plan.model.problem.nvar) (journal : Journal σ Rat) :
    ∃ total after, plan.sweep stepSize (indices.map Int.ofNat) point sum journal
        = .ok ((indices.filterMap (slopes[·]?)).foldl
            (descend (direction plan.model.problem * g)) point, total) after
      ∧ total.length = plan.model.problem.nvar := by
  induction indices generalizing point sum journal with
  | nil => exact ⟨sum, journal, rfl, hsum⟩
  | cons index rest ih =>
      rw [List.forall_mem_cons] at hindices
      have hslope : slopes[index]? = some slopes[index] := List.getElem?_eq_getElem hindices.1
      have hmoved : (descend (direction plan.model.problem * g) point slopes[index]).length
          = plan.model.problem.nvar :=
        length_descend hpoint (hslopes.sized _ (List.getElem_mem hindices.1))
      obtain ⟨mid, hmid⟩ := step_of_slopes hslopes halpha hstep hpoint hslope journal
      obtain ⟨added, hadded, haddedLength⟩ := Model.addOnto_of_spans hsum (.inl hmoved)
      obtain ⟨total, after, hrest, htotal⟩ := ih hindices.2 hmoved haddedLength mid
      refine ⟨total, after, ?_, htotal⟩
      rw [List.filterMap_cons_some hslope, List.foldl_cons]
      exact sweep_cons_eq_ok.mpr ⟨_, added, mid, hmid, hadded, hrest⟩

end Plan

/-! ### One iteration -/

theorem filterMap_range_getElem? {α : Type} (members : List α) :
    (List.range members.length).filterMap (members[·]?) = members := by
  induction members with
  | nil => rfl
  | cons a rest ih =>
      have hfirst : (a :: rest)[0]? = some a := rfl
      rw [List.length_cons, List.range_succ_eq_map, List.filterMap_cons_some hfirst,
        List.filterMap_map]
      exact congrArg (a :: ·) ih

/-- An order of all objectives visits every slope once. -/
theorem exists_indices_of_perm {order : List Int} {slopes : List (List Rat)}
    (hperm : order.Perm (objectives slopes.length)) :
    ∃ indices : List Nat, order = indices.map Int.ofNat ∧ (∀ index ∈ indices, index < slopes.length)
      ∧ (indices.filterMap (slopes[·]?)).Perm slopes := by
  have hindices : (order.map Int.toNat).Perm (List.range slopes.length) := by
    have hmapped := hperm.map Int.toNat
    rwa [objectives, List.map_map, List.map_id''] at hmapped
    exact Int.toNat_natCast
  refine ⟨order.map Int.toNat, ?_, ?_, ?_⟩
  · rw [List.map_map, List.map_congr_left (g := id), List.map_id]
    intro index hindex
    exact Int.toNat_of_nonneg (mem_objectives.mp (hperm.mem_iff.mp hindex)).1
  · intro index hindex
    exact List.mem_range.mp (hindices.mem_iff.mp hindex)
  · have hfound := hindices.filterMap (slopes[·]?)
    rwa [filterMap_range_getElem?] at hfound

section Iteration

variable [Completion Rat] {plan : Plan Rat} {slopes : List (List Rat)} {source : OrderSource σ}
  {current : Iterate Rat} {stepSize : Number Rat} {g : Rat} {journal : Journal σ Rat}
  {order : List Int} {orders : σ}

theorem Plan.advance_of_slopes (hslopes : plan.model.Slopes slopes)
    (halpha : plan.settings.alpha.real? = .ok 0)
    (hsized : current.Sized plan.model.problem.nvar)
    (hnext : plan.settings.nextStep current.iterations current.stepSize = .ok stepSize)
    (hstep : stepSize.toReal = .ok g) (hdraw : source.next journal.orders = .ok (order, orders))
    (hperm : order.Perm (objectives plan.model.problem.nobj)) :
    ∃ next after, plan.advance source current journal = .ok next after
      ∧ next.Sized plan.model.problem.nvar
      ∧ next.point = descend (direction plan.model.problem * g) current.point
          (addUp (List.replicate plan.model.problem.nvar 0.0) slopes) := by
  rw [← hslopes.length] at hperm
  obtain ⟨indices, rfl, hindices, hvisited⟩ := exists_indices_of_perm hperm
  have hzeros : (current.average.map fun _ => (0.0 : Rat)).length = plan.model.problem.nvar := by
    rw [List.length_map, hsized.average]
  obtain ⟨total, mid, hsweep, htotal⟩ := sweep_of_slopes hslopes halpha hstep hindices hsized.point
    hzeros { journal with orders }
  have hmoves : (indices.filterMap (slopes[·]?)).foldl
        (descend (direction plan.model.problem * g)) current.point
      = descend (direction plan.model.problem * g) current.point
          (addUp (List.replicate plan.model.problem.nvar 0.0) slopes) := by
    -- The point is its own move along zeros, and the slopes of the sweep are added to these.
    conv_lhs => rw [← descend_zeros (direction plan.model.problem * g) current.point]
    rw [foldl_descend, addUp_perm hvisited, hsized.point]
  rw [hmoves] at hsweep
  refine ⟨_, _, advance_eq_ok.mpr ⟨stepSize, _, orders, _, total, mid, hnext, hdraw, hsweep, rfl,
    rfl⟩, ⟨?_, ?_⟩, rfl⟩
  · exact length_descend hsized.point (length_addUp List.length_replicate hslopes.sized)
  · rw [List.length_map, htotal]

/-- An iteration has one result, so that is where every iteration that succeeds comes to. -/
theorem Plan.point_of_advance {next : Iterate Rat} {after : Journal σ Rat}
    (hslopes : plan.model.Slopes slopes) (halpha : plan.settings.alpha.real? = .ok 0)
    (hsized : current.Sized plan.model.problem.nvar)
    (hadvance : plan.advance source current journal = .ok next after)
    (hnext : plan.settings.nextStep current.iterations current.stepSize = .ok stepSize)
    (hstep : stepSize.toReal = .ok g)
    (hperms : ∀ order orders, source.next journal.orders = .ok (order, orders) →
      order.Perm (objectives plan.model.problem.nobj)) :
    next.Sized plan.model.problem.nvar
      ∧ next.point = descend (direction plan.model.problem * g) current.point
          (addUp (List.replicate plan.model.problem.nvar 0.0) slopes) := by
  obtain ⟨_, order, orders, _, _, _, -, hdraw, -⟩ := advance_eq_ok.mp hadvance
  obtain ⟨reached, ending, hreached, hreachedSized, hpoint⟩ :=
    advance_of_slopes hslopes halpha hsized hnext hstep hdraw (hperms order orders hdraw)
  obtain ⟨rfl, -⟩ := EStateM.Result.ok.inj (hreached.symm.trans hadvance)
  exact ⟨hreachedSized, hpoint⟩

/-- **An iteration descends the unweighted sum.** It goes where the gradient of all objectives
without their weights leads, and where the weighted one leads only if both are the same or the step
is none. -/
theorem advance_descends_unweighted (hslopes : plan.model.Slopes slopes)
    (halpha : plan.settings.alpha.real? = .ok 0)
    (hsized : current.Sized plan.model.problem.nvar)
    (hnext : plan.settings.nextStep current.iterations current.stepSize = .ok stepSize)
    (hstep : stepSize.toReal = .ok g) (hdraw : source.next journal.orders = .ok (order, orders))
    (hperm : order.Perm (objectives plan.model.problem.nobj)) :
    ∃ next after total, plan.advance source current journal = .ok next after
      ∧ plan.model.unweighted.totalGradient (Grid.ofList current.point) = .ok total
      ∧ next.point = descend (direction plan.model.problem * g) current.point total
      ∧ ∀ weighted, plan.model.totalGradient (Grid.ofList current.point) = .ok weighted →
        (next.point = descend (direction plan.model.problem * g) current.point weighted
          ↔ g = 0 ∨ weighted = total) := by
  obtain ⟨next, after, hadvance, -, hpoint⟩ := Plan.advance_of_slopes hslopes halpha hsized hnext
    hstep hdraw hperm
  refine ⟨next, after, _, hadvance, hslopes.totalGradient_unweighted hsized.point, hpoint, ?_⟩
  intro weighted hweighted
  have hdirection : direction plan.model.problem ≠ 0 := by
    unfold direction
    split <;> norm_num
  rw [hpoint, descend_eq_iff hsized.point (length_addUp List.length_replicate hslopes.sized)
    (Model.length_of_totalGradient hweighted), mul_eq_zero, or_iff_right hdirection]

end Iteration

section Tilted

/-- Stands in for what exact arithmetic lacks, in runs that ask for none of it. -/
local instance standIn : Completion Rat where
  infinity := 0
  missing := 0
  sqrt a := a
  power _ _ := .error .malformed
  ofText? _ := none

/-- Objectives of a single variable with these slopes and weights. -/
def tilted (minimize : Bool) (slopes weights : List Rat) : Model Rat :=
  Linear.model (slopes.map ([·])) { Meta.ofDimensions 1 slopes.length 0 with weights, minimize }

theorem slopes_tilted (minimize : Bool) (slopes weights : List Rat) :
    (tilted minimize slopes weights).Slopes (slopes.map ([·])) := by
  apply Linear.slopes
  · exact List.length_map _
  · intro row hrow
    obtain ⟨slope, -, rfl⟩ := List.mem_map.mp hrow
    rfl

/-- Steps of one half, without regularization. -/
def halving : Settings Rat :=
  { (Settings.initial : Settings Rat) with
    learningRate := .text "constant", stepSize := .real (1 / 2), alpha := .real 0 }

def descent (model : Model Rat) : Plan Rat := ⟨model, halving, .l2, fun _ => 0⟩

def origin (model : Model Rat) : Iterate Rat := initialIterate model (.real (1 / 2))

def unvisited (order : List Int) : Journal (Orders Rat) Rat where
  counters := .empty order.length
  orders := .listed [order] 0
  visits := []
  notices := []

/-- Two slopes with different weights, for a maximum. -/
def lopsided : Model Rat := tilted false [1, 2] [2, 1]

/-- The unweighted sum leads to another point than the weighted one. -/
theorem advance_descends_lopsided : ∃ next after,
    (descent lopsided).advance (Orders.source 2) (origin lopsided) (unvisited [1, 0])
        = .ok next after
      ∧ next.point = [3 / 2]
      ∧ next.point
        ≠ descend (direction lopsided.problem * (1 / 2)) (origin lopsided).point [4] := by
  have hslopes : (descent lopsided).model.Slopes [[1], [2]] := slopes_tilted false [1, 2] [2, 1]
  have hsized : (origin lopsided).Sized lopsided.problem.nvar := ⟨rfl, rfl⟩
  have hdraw : (Orders.source 2).next (unvisited [1, 0]).orders
      = .ok ([1, 0], .listed [[1, 0]] 1) := rfl
  have hperm : [1, 0].Perm (objectives 2) := by decide
  obtain ⟨next, after, total, hadvance, htotal, hpoint, hweighted⟩ :=
    advance_descends_unweighted (g := 1 / 2) hslopes rfl hsized rfl rfl hdraw hperm
  have hsum :
      lopsided.unweighted.totalGradient (Grid.ofList (origin lopsided).point) = .ok [3] := by
    decide +kernel
  have hweightedSum : lopsided.totalGradient (Grid.ofList (origin lopsided).point) = .ok [4] := by
    decide +kernel
  obtain rfl := Except.ok.inj (htotal.symm.trans hsum)
  refine ⟨next, after, hadvance, ?_, ?_⟩
  · rw [hpoint]
    decide +kernel
  · exact fun heq => absurd ((hweighted _ hweightedSum).mp heq) (by decide +kernel)

/-- A single objective with a double weight. -/
def heavy : Model Rat := tilted true [1] [2]

/-- An objective counts twice in the problem's own gradient, and once in an iteration. -/
theorem advance_ignores_weight : ∃ next after,
    (descent heavy).advance (Orders.source 1) (origin heavy) (unvisited [0]) = .ok next after
      ∧ heavy.totalGradient (Grid.ofList (origin heavy).point) = .ok [2]
      ∧ next.point ≠ descend (direction heavy.problem * (1 / 2)) (origin heavy).point [2] := by
  have hslopes : (descent heavy).model.Slopes [[1]] := slopes_tilted true [1] [2]
  have hsized : (origin heavy).Sized 1 := ⟨rfl, rfl⟩
  have hdraw : (Orders.source 1).next (unvisited [0]).orders = .ok ([0], .listed [[0]] 1) := rfl
  have hperm : [0].Perm (objectives 1) := by decide
  obtain ⟨next, after, hadvance, -, hpoint⟩ :=
    Plan.advance_of_slopes (g := 1 / 2) hslopes rfl hsized rfl rfl hdraw hperm
  refine ⟨next, after, hadvance, by decide +kernel, ?_⟩
  rw [hpoint]
  decide +kernel

end Tilted

/-! ### A whole run -/

section Run

variable [Completion Rat] {plan : Plan Rat} {slopes : List (List Rat)} {source : OrderSource σ}
  {current : Iterate Rat} {g : Rat} {journal : Journal σ Rat}

/-- With a constant step size, a run stays on the line along the unweighted sum. -/
theorem Plan.Passes.point_of_slopes {middle : Journal σ Rat} (hslopes : plan.model.Slopes slopes)
    (hx0 : plan.model.problem.x0.length = plan.model.problem.nvar)
    (halpha : plan.settings.alpha.real? = .ok 0)
    (hrate : LearningRate.ofValue? plan.settings.learningRate = some .constant)
    (hstep : plan.settings.stepSize.real? = .ok g)
    (hpermutes : source.Permutes journal.orders plan.model.problem.nobj)
    (hfits : journal.counters.Fits plan.model.problem.nobj)
    (hpasses : plan.Passes source journal current middle) :
    current.Sized plan.model.problem.nvar
      ∧ current.point = descend (direction plan.model.problem * g * current.iterations)
          plan.model.problem.x0 (addUp (List.replicate plan.model.problem.nvar 0.0) slopes) := by
  obtain ⟨first, hfirst, htoReal⟩ := bind_eq_ok.mp hstep
  have hconstant (k : Nat) : plan.settings.scheduledStep k = plan.settings.stepSize.number? := by
    rw [Settings.scheduledStep, hrate]
  obtain ⟨orders, stepSize, hstart, hnumber, hreaches⟩ := hpasses
  induction hreaches with
  | start =>
      refine ⟨⟨hx0, hx0⟩, ?_⟩
      have hlength := length_addUp (List.length_replicate (a := (0.0 : Rat))) hslopes.sized
      rw [initialIterate, Nat.cast_zero, mul_zero, descend_of_size_zero (hx0.trans hlength.symm)]
  | @advance earlier next mid after hearlier _ hadvance ih =>
      obtain ⟨hsized, hpoint⟩ := ih
      have hbefore : plan.Passes source journal earlier mid :=
        ⟨orders, stepSize, hstart, hnumber, hearlier⟩
      obtain ⟨taken, _, _, _, _, _, hnext, -⟩ := advance_eq_ok.mp hadvance
      have hready := (hbefore.ready_and_counters hpermutes hfits).1
      have htaken : taken = first := by
        rw [Settings.nextStep_eq_scheduledStep hbefore.stepBefore, hconstant, hfirst] at hnext
        exact (Except.ok.inj hnext).symm
      obtain ⟨hnextSized, hnextPoint⟩ := point_of_advance hslopes halpha hsized hadvance hnext
        (htaken ▸ htoReal) (hpermutes _ hready.orders)
      refine ⟨hnextSized, ?_⟩
      rw [hnextPoint, hpoint, descend_add, advance_iterations hadvance, Nat.cast_add,
        Nat.cast_one, mul_add, mul_one]

/-- A run that returns has gone along that line as far as its iterations took it. -/
theorem solve_descends_unweighted {model : Model Rat} {settings : Settings Rat} {clock : Nat → Rat}
    {patience : Nat} {stats : Stats Rat} {after : Journal σ Rat} (hslopes : model.Slopes slopes)
    (hx0 : model.problem.x0.length = model.problem.nvar) (halpha : settings.alpha.real? = .ok 0)
    (hrate : settings.learningRate = .text LearningRate.constant.name)
    (hstep : settings.stepSize.real? = .ok g)
    (hpermutes : source.Permutes journal.orders model.problem.nobj)
    (hfits : journal.counters.Fits model.problem.nobj)
    (hrun : solve source model settings clock patience journal = .ok stats after) :
    ∃ total, model.unweighted.totalGradient (Grid.ofList model.problem.x0) = .ok total
      ∧ stats.solution
        = descend (direction model.problem * g * stats.iterations) model.problem.x0 total := by
  refine ⟨_, hslopes.totalGradient_unweighted hx0, ?_⟩
  obtain ⟨regularizer, orders, objective, gradient, ⟨-, -, hstart, -, -⟩, hplan⟩ :=
    solve_eq_ok.mp hrun
  obtain ⟨stepSize, last, status, ending, hnumber, hiterate, -, rfl, -⟩ := Plan.run_eq_ok.mp hplan
  obtain ⟨hreaches, -⟩ := Plan.Reaches.start.iterate_ok hiterate
  let plan : Plan Rat := ⟨model, settings, regularizer, clock⟩
  have hpasses : plan.Passes source journal last ending :=
    ⟨orders, stepSize, hstart, hnumber, hreaches⟩
  exact (hpasses.point_of_slopes hslopes hx0 halpha (LearningRate.ofValue?_eq_some.mpr hrate) hstep
    hpermutes hfits).2

end Run

end Solver

end Multigrad
