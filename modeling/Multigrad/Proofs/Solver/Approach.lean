import Multigrad.Proofs.Model.Regression
import Multigrad.Proofs.Solver.Descent
import Multigrad.Proofs.Solver.Trajectory

/-!
# Approaching an exact fit

A step along the gradient of a row, if it is short and exact and not regularized, goes away from no
point that the row fits. A point that fits all rows is therefore approached with every visit: by the
points that a run comes to, by their mean, and by the solution the longer the run is.
-/

namespace Multigrad

/-- Settings without regularization and with a constant step size, short for all rows. -/
structure Settings.Gentle (settings : Settings Rat) (data : Regression.Data Rat) (g : Rat) :
    Prop where
  learningRate : settings.learningRate = .text LearningRate.constant.name
  alpha : settings.alpha.real? = .ok 0
  stepSize : settings.stepSize.real? = .ok g
  nonneg : 0 ≤ g
  short : ∀ row ∈ data.rows, g * dot row.1 row.1 ≤ 2

/-- The orders that a run is given do not depend on how many it is given. -/
theorem OrderSource.Supplies.begins {σ : Type} {source : OrderSource σ} {initial state after : σ}
    {orders given : List (List Int)} (hsupplies : source.Supplies initial orders)
    (hstart : source.start initial = .ok state) (hgives : source.Gives state given after)
    (hle : orders.length ≤ given.length) : ∃ later, given = orders ++ later := by
  obtain ⟨state', middle, hstart', hgives'⟩ := hsupplies
  obtain rfl := Except.ok.inj (hstart'.symm.trans hstart)
  exact hgives'.begins hgives hle

theorem OrderSource.Supplies.eq_of_gives {σ : Type} {source : OrderSource σ}
    {initial state after : σ} {orders given : List (List Int)}
    (hsupplies : source.Supplies initial orders) (hstart : source.start initial = .ok state)
    (hgives : source.Gives state given after) (hlength : orders.length = given.length) :
    orders = given := by
  obtain ⟨state', middle, hstart', hgives'⟩ := hsupplies
  obtain rfl := Except.ok.inj (hstart'.symm.trans hstart)
  exact hgives'.unique hgives hlength

namespace Solver

variable {σ : Type}

section Points

variable [Completion Rat]

namespace Plan

/-- Gentle steps from `x0` on, for a regression of these data. -/
structure Regresses (plan : Plan Rat) (data : Regression.Data Rat) (x0 : List Rat) (g : Rat) :
    Prop where
  model : plan.model = (Regression.model data).startingAt x0
  proper : data.Proper
  x0 : x0.length = data.columns
  gentle : plan.settings.Gentle data g

variable {plan plan' : Plan Rat} {data : Regression.Data Rat} {x0 target : List Rat} {g : Rat}

namespace Regresses

variable (hplan : plan.Regresses data x0 g)

include hplan

theorem nobj : plan.model.problem.nobj = data.rows.length := by
  rw [hplan.model]
  rfl

theorem start : plan.model.problem.x0 = x0 := by
  rw [hplan.model]
  rfl

/-- A visit is a step along the gradient of its row. -/
theorem moves_along_row {visit : Nat × Int} {point next : List Rat}
    (hpoint : point.length = data.columns) (hmoves : plan.Moves visit point next) :
    ∃ row observation, data.rows[visit.2.toNat]? = some (row, observation)
      ∧ next = descend g point (Regression.gradient row observation point) := by
  have hindex := hmoves.index_mem
  rw [hplan.nobj, mem_objectives] at hindex
  obtain ⟨row, observation, hrow⟩ : ∃ row observation,
      data.rows[visit.2.toNat]? = some (row, observation) :=
    ⟨_, _, List.getElem?_eq_getElem (by omega)⟩
  refine ⟨row, observation, hrow, ?_⟩
  have hgradient : plan.model.gradient visit.2.toNat (Grid.ofList point)
      = .ok (Regression.gradient row observation point) := by
    rw [hplan.model]
    exact Regression.gradient_model hrow point
  have hlength : point.length = (Regression.gradient row observation point).length := by
    rw [Regression.gradient, List.length_map, hpoint,
      hplan.proper.sized _ (List.mem_of_getElem? hrow)]
  have hminimize : plan.model.problem.minimize = true := by
    rw [hplan.model]
    rfl
  have hone (rise : Rat) : 1.0 * rise = rise := by norm_num
  simp only [hmoves.eq_of_constant hplan.gentle.learningRate hplan.gentle.stepSize
    hplan.gentle.alpha hminimize hgradient hlength, descend, zero_mul, zero_add, hone]

end Regresses

/-! ### The points of a run -/

namespace Traces

variable {orders orders' : List (List Int)} {b b' : Nat → List Rat} {k k' : Nat}
  {solution averaged solution' averaged' : List Rat}
  (hplan : plan.Regresses data x0 g) (htraces : plan.Traces orders b k solution averaged)

include hplan htraces

theorem length_point {t : Nat} (ht : t ≤ k * data.rows.length) :
    (b t).length = data.columns := by
  rw [← hplan.nobj] at ht
  rw [htraces.sized t ht, hplan.start, hplan.x0]

theorem step_along_row {t : Nat} (ht : t < k * data.rows.length) :
    ∃ visit row observation, (visitsOf orders)[t]? = some visit
      ∧ data.rows[visit.2.toNat]? = some (row, observation)
      ∧ b (t + 1) = descend g (b t) (Regression.gradient row observation (b t)) := by
  obtain ⟨visit, hvisit⟩ : ∃ visit, (visitsOf orders)[t]? = some visit := by
    rw [← hplan.nobj, ← htraces.length_visits] at ht
    exact ⟨_, List.getElem?_eq_getElem ht⟩
  obtain ⟨row, observation, hrow, hnext⟩ := hplan.moves_along_row
    (htraces.length_point hplan (Nat.le_of_lt ht)) (htraces.trajectory.moves t _ hvisit)
  exact ⟨visit, row, observation, hvisit, hrow, hnext⟩

theorem squaredDistance_step (hfits : data.Fits target) {t : Nat} (ht : t < k * data.rows.length) :
    squaredDistance (b (t + 1)) target ≤ squaredDistance (b t) target := by
  obtain ⟨visit, row, observation, -, hfound, hnext⟩ := htraces.step_along_row hplan ht
  have hrow := List.mem_of_getElem? hfound
  rw [hnext]
  exact Regression.squaredDistance_step_le (hplan.proper.sized _ hrow)
    (htraces.length_point hplan (Nat.le_of_lt ht)) hfits.length (hfits.predicts _ hrow)
    hplan.gentle.nonneg (hplan.gentle.short _ hrow)

theorem squaredDistance_le (hfits : data.Fits target) {s t : Nat} (hst : s ≤ t)
    (ht : t ≤ k * data.rows.length) :
    squaredDistance (b t) target ≤ squaredDistance (b s) target := by
  induction t, hst using Nat.le_induction with
  | base => exact le_rfl
  | succ t hst ih =>
      have hstep := htraces.squaredDistance_step hplan hfits ht
      exact hstep.trans (ih (Nat.le_of_lt ht))

theorem squaredDistance_start_le (hfits : data.Fits target) {t : Nat}
    (ht : t ≤ k * data.rows.length) :
    squaredDistance (b t) target ≤ squaredDistance x0 target := by
  have hstart : b 0 = x0 := htraces.trajectory.start.trans hplan.start
  rw [← hstart]
  exact htraces.squaredDistance_le hplan hfits (Nat.zero_le t) ht

theorem squaredDistance_averaged_le (hfits : data.Fits target) :
    squaredDistance averaged target ≤ squaredDistance x0 target := by
  rw [htraces.average]
  cases k with
  | zero => rw [averageAfter, hplan.start]
  | succ k =>
      let swept := (List.range data.rows.length).map fun j => b (k * data.rows.length + j + 1)
      have hlast : ∀ point ∈ swept, ∃ t ≤ (k + 1) * data.rows.length, point = b t := by
        intro point hpoint
        obtain ⟨j, hj, rfl⟩ := List.mem_map.mp hpoint
        rw [List.mem_range] at hj
        refine ⟨_, ?_, rfl⟩
        rw [Nat.succ_mul]
        omega
      have hsized : ∀ point ∈ swept, point.length = data.columns := by
        intro point hpoint
        obtain ⟨t, ht, rfl⟩ := hlast point hpoint
        exact htraces.length_point hplan ht
      have hbound : ∀ point ∈ swept, squaredDistance point target ≤ squaredDistance x0 target := by
        intro point hpoint
        obtain ⟨t, ht, rfl⟩ := hlast point hpoint
        exact htraces.squaredDistance_start_le hplan hfits ht
      have hcount : swept.length = data.rows.length := by rw [List.length_map, List.length_range]
      have hswept : swept ≠ [] := by
        rw [← List.length_pos_iff, hcount, List.length_pos_iff]
        exact hplan.proper.rows
      have hmean := squaredDistance_mean_le hswept hsized hfits.length hbound
      rw [averageAfter, mean, hplan.nobj, hplan.start, hplan.x0]
      rwa [hcount] at hmean

/-- Runs with the same orders come to the same points, as far as both go. -/
theorem agree (hplan' : plan'.Regresses data x0 g)
    (htraces' : plan'.Traces orders' b' k' solution' averaged') {later : List (List Int)}
    (horders : orders' = orders ++ later) {t : Nat} (ht : t ≤ k * data.rows.length) :
    b' t = b t := by
  have hle : k * data.rows.length ≤ k' * data.rows.length := by
    apply Nat.mul_le_mul_right
    rw [← htraces.iterations, ← htraces'.iterations, horders, List.length_append]
    exact Nat.le_add_right _ _
  obtain ⟨added, hvisits⟩ := visitsOf_append orders later
  rw [← horders] at hvisits
  induction t with
  | zero =>
      rw [htraces.trajectory.start, htraces'.trajectory.start, hplan.start, hplan'.start]
  | succ t ih =>
      obtain ⟨visit, row, observation, hvisit, hrow, hnext⟩ := htraces.step_along_row hplan ht
      obtain ⟨visit', row', observation', hvisit', hrow', hnext'⟩ :=
        htraces'.step_along_row hplan' (Nat.lt_of_lt_of_le ht hle)
      obtain ⟨hlt, -⟩ := List.getElem?_eq_some_iff.mp hvisit
      rw [hvisits, List.getElem?_append_left hlt, hvisit] at hvisit'
      obtain rfl := Option.some.inj hvisit'
      obtain ⟨rfl, rfl⟩ := Prod.mk.inj (Option.some.inj (hrow.symm.trans hrow'))
      rw [hnext, hnext', ih (Nat.le_of_lt ht)]

theorem squaredDistance_longer_le (hplan' : plan'.Regresses data x0 g)
    (htraces' : plan'.Traces orders' b' k' solution' averaged') {later : List (List Int)}
    (horders : orders' = orders ++ later) (hfits : data.Fits target) :
    squaredDistance solution' target ≤ squaredDistance solution target := by
  have hle : k * data.rows.length ≤ k' * data.rows.length := by
    apply Nat.mul_le_mul_right
    rw [← htraces.iterations, ← htraces'.iterations, horders, List.length_append]
    exact Nat.le_add_right _ _
  have hshorter : solution = b' (k * data.rows.length) := by
    rw [htraces.agree hplan hplan' htraces' horders le_rfl, htraces.point, hplan.nobj]
  rw [hshorter, htraces'.point, hplan'.nobj]
  exact htraces'.squaredDistance_le hplan' hfits hle le_rfl

end Traces

end Plan

end Points

/-! ### Whole runs -/

section Run

variable [Completion Rat] {data : Regression.Data Rat} {x0 target : List Rat} {g : Rat}
  {source : OrderSource σ} {settings : Settings Rat} {clock : Nat → Rat} {patience : Nat}
  {journal after : Journal σ Rat} {stats : Stats Rat}

/-- **The distance to an exact fit never grows.** No visit goes away from the fit, the solution and
the averaged solution are not farther from it than the initial point, and with the same orders a
longer run does not end farther from it. -/
theorem solve_approaches_fit (hproper : data.Proper) (hx0 : x0.length = data.columns)
    (hfits : data.Fits target) (hgentle : settings.Gentle data g)
    (hpermutes : source.Permutes journal.orders data.rows.length)
    (hrun : solve source ((Regression.model data).startingAt x0) settings clock patience journal
      = .ok stats after) :
    (∃ regularizer orders b, settings.regularizer = .ok regularizer
        ∧ Plan.Traces ⟨(Regression.model data).startingAt x0, settings, regularizer, clock⟩ orders b
          stats.iterations stats.solution stats.averagedSolution
        ∧ source.Supplies journal.orders orders
        ∧ ∀ t < stats.iterations * data.rows.length,
          squaredDistance (b (t + 1)) target ≤ squaredDistance (b t) target)
      ∧ squaredDistance stats.solution target ≤ squaredDistance x0 target
      ∧ squaredDistance stats.averagedSolution target ≤ squaredDistance x0 target
      ∧ ∀ {τ : Type} (source' : OrderSource τ) settings' clock' patience' journal' stats' after'
          orders,
        settings'.Gentle data g → source'.Permutes journal'.orders data.rows.length →
        solve source' ((Regression.model data).startingAt x0) settings' clock' patience' journal'
          = .ok stats' after' →
        stats.iterations ≤ stats'.iterations → orders.length = stats.iterations →
        source.Supplies journal.orders orders → source'.Supplies journal'.orders orders →
          squaredDistance stats'.solution target ≤ squaredDistance stats.solution target := by
  obtain ⟨regularizer, state, given, b, hregularizer, hstart, hgives, htraces⟩ :=
    solve_traces hpermutes hrun
  have hplan : Plan.Regresses
      ⟨(Regression.model data).startingAt x0, settings, regularizer, clock⟩ data x0 g :=
    ⟨rfl, hproper, hx0, hgentle⟩
  have hsupplied : source.Supplies journal.orders given := ⟨state, _, hstart, hgives⟩
  refine ⟨⟨regularizer, given, b, hregularizer, htraces, hsupplied, ?_⟩, ?_, ?_, ?_⟩
  · intro t ht
    exact htraces.squaredDistance_step hplan hfits ht
  · rw [htraces.point]
    exact htraces.squaredDistance_start_le hplan hfits le_rfl
  · exact htraces.squaredDistance_averaged_le hplan hfits
  · intro τ source' settings' clock' patience' journal' stats' after' orders hgentle' hpermutes'
      hrun' hle hlength hsupplies hsupplies'
    obtain ⟨regularizer', state', given', b', -, hstart', hgives', htraces'⟩ :=
      solve_traces hpermutes' hrun'
    have hplan' : Plan.Regresses
        ⟨(Regression.model data).startingAt x0, settings', regularizer', clock'⟩ data x0 g :=
      ⟨rfl, hproper, hx0, hgentle'⟩
    obtain rfl := hsupplies.eq_of_gives hstart hgives (hlength.trans htraces.iterations.symm)
    obtain ⟨later, horders⟩ := hsupplies'.begins hstart' hgives'
      (by rwa [hlength, htraces'.iterations])
    exact htraces.squaredDistance_longer_le hplan hplan' htraces' horders hfits

end Run

section Crossing

attribute [local instance] standIn

/-- Two rows that cross in a point. -/
def crossing : Regression.Data Rat := ⟨2, [([1, 0], 1), ([1, 1], 3)]⟩

theorem proper_crossing : crossing.Proper := by
  have hmatrix : ([1, 0, 1, 1] : List Rat).length = 2 * 2 := rfl
  have hobservations : ([1, 3] : List Rat).length = 2 := rfl
  exact Regression.Data.proper_of_ofGrids hmatrix hobservations (by decide) rfl

theorem fits_crossing : crossing.Fits [1, 2] := ⟨rfl, by decide +kernel⟩

theorem gentle_halving (limit : Nat) : (halving.withMaxIter limit).Gentle crossing (1 / 2) :=
  ⟨rfl, rfl, rfl, by norm_num, by decide +kernel⟩

/-- From a distance whose square is eight, two iterations do not end farther from the crossing than
one does. -/
theorem solve_approaches_crossing : ∃ stats after stats' after',
    solve (Orders.source 2) ((Regression.model crossing).startingAt [3, 0]) (halving.withMaxIter 0)
        (fun _ => 0) 0 (unvisited [1, 0]) = .ok stats after
      ∧ solve (Orders.source 2) ((Regression.model crossing).startingAt [3, 0])
        (halving.withMaxIter 1) (fun _ => 0) 0 (unvisited [1, 0]) = .ok stats' after'
      ∧ squaredDistance stats.solution [1, 2] ≤ 8
      ∧ squaredDistance stats.averagedSolution [1, 2] ≤ 8
      ∧ squaredDistance stats'.solution [1, 2] ≤ squaredDistance stats.solution [1, 2] := by
  have hpermutes : (Orders.source 2).Permutes (unvisited [1, 0]).orders crossing.rows.length :=
    Orders.permutes_listed (by decide)
  have hsupplies : (Orders.source 2).Supplies (unvisited [1, 0]).orders [[1, 0]] :=
    ⟨_, _, rfl, _, rfl, rfl⟩
  have hdistance : squaredDistance [3, 0] [1, 2] = 8 := by decide +kernel
  have hreturns : Run.read? Stats.iterations (solve (Orders.source 2)
      ((Regression.model crossing).startingAt [3, 0]) (halving.withMaxIter 0) (fun _ => 0) 0)
      (unvisited [1, 0]) = some 1 := by decide +kernel
  have hreturns' : Run.read? Stats.iterations (solve (Orders.source 2)
      ((Regression.model crossing).startingAt [3, 0]) (halving.withMaxIter 1) (fun _ => 0) 0)
      (unvisited [1, 0]) = some 2 := by decide +kernel
  obtain ⟨stats, after, hrun, hiterations⟩ := Run.exists_ok_of_read? hreturns
  obtain ⟨stats', after', hrun', hiterations'⟩ := Run.exists_ok_of_read? hreturns'
  obtain ⟨-, hsolution, haveraged, hlonger⟩ := solve_approaches_fit
    proper_crossing rfl fits_crossing (gentle_halving 0) hpermutes hrun
  rw [hdistance] at hsolution haveraged
  refine ⟨stats, after, stats', after', hrun, hrun', hsolution, haveraged, ?_⟩
  exact hlonger _ _ _ _ _ _ _ [[1, 0]] (gentle_halving 1) hpermutes hrun' (by omega)
    hiterations.symm hsupplies hsupplies

end Crossing

end Solver

end Multigrad
