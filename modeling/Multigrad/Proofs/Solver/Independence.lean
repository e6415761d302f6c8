import Multigrad.Proofs.Model.Slopes
import Multigrad.Proofs.Solver.Termination

/-!
# What the course of a run depends on

When a run stops, why, and what it has counted by then depends on the schedule, the limits, the
number of objectives and the number of evaluations before it. Points, gradients, orders, weights and
penalties have no say in it, as long as none of them makes the run fail.
-/

namespace Multigrad

namespace Settings

variable {R : Type}

/-- Settings that agree on the schedule and on all limits but the time. -/
structure SameControl (first second : Settings R) : Prop where
  learningRate : first.learningRate = second.learningRate
  stepSize : first.stepSize = second.stepSize
  alpha : first.alpha = second.alpha
  powerT : first.powerT = second.powerT
  stepTol : first.stepTol = second.stepTol
  maxEval : first.maxEval = second.maxEval
  maxIter : first.maxIter = second.maxIter

variable [Scalar R]

/-- The clock never reads more than the time that a run may take. -/
def WithinTime (settings : Settings R) (clock : Nat → R) : Prop :=
  ∃ limit, settings.maxTime.number? = .ok limit
    ∧ ∀ k, Number.less limit (.real (clock k)) = false

theorem WithinTime.not_exceedsTime {settings : Settings R} {clock : Nat → R}
    (htime : settings.WithinTime clock) (k : Nat) : ¬settings.ExceedsTime (clock k) := by
  obtain ⟨limit, hlimit, hwithin⟩ := htime
  rw [← exceedsTime_iff hlimit, hwithin k]
  exact Bool.false_ne_true

/-- A clock that reads neither less than nothing nor more than the time that a run may take. -/
structure Timely (settings : Settings R) (clock : Nat → R) : Prop where
  within : settings.WithinTime clock
  nonneg : ∀ k, Scalar.atMost 0.0 (clock k) = true

/-- Within their time, tests have the same verdict where the limits on evaluations are exceeded in
both or in neither. -/
theorem stop?_congr {first second : Settings R} {clock clock' : Nat → R}
    (htime : first.WithinTime clock) (htime' : second.WithinTime clock')
    (hiter : first.maxIter = second.maxIter) (htol : first.stepTol = second.stepTol)
    {count count' : Nat}
    (heval : first.exceedsEvaluations count = second.exceedsEvaluations count') (k : Nat)
    (step : Number R) :
    first.stop? (clock k) count k step = second.stop? (clock' k) count' k step := by
  obtain ⟨limit, hlimit, hwithin⟩ := htime
  obtain ⟨limit', hlimit', hwithin'⟩ := htime'
  have hexhausted :
      first.exhausted? (clock k) count k = second.exhausted? (clock' k) count' k := by
    rw [exhausted?, exhausted?, hlimit, hlimit', heval, hiter]
    change (if _ then _ else _) = (if _ then _ else _)
    rw [hwithin k, hwithin' k]
  rw [stop?, stop?, hexhausted, converged, converged, htol]

namespace SameControl

variable {first second : Settings R} (hcontrol : first.SameControl second)

include hcontrol

theorem horizon?_eq : first.horizon? = second.horizon? := by
  rw [horizon?, horizon?, hcontrol.maxIter, hcontrol.maxEval]

theorem scheduledStep_eq [Completion R] (k : Nat) :
    first.scheduledStep k = second.scheduledStep k := by
  simp only [scheduledStep, optimalStep, scaledStep, hcontrol.learningRate, hcontrol.stepSize,
    hcontrol.alpha, hcontrol.powerT]

theorem stepBefore_eq [Completion R] (k : Nat) : first.stepBefore k = second.stepBefore k := by
  cases k with
  | zero => rw [stepBefore, stepBefore, hcontrol.stepSize]
  | succ k => exact hcontrol.scheduledStep_eq k

theorem steps_iff [Completion R] (k : Nat) : first.Steps k ↔ second.Steps k := by
  rw [Steps, Steps, hcontrol.alpha, hcontrol.scheduledStep_eq]

variable {clock clock' : Nat → R} (htime : first.WithinTime clock)
  (htime' : second.WithinTime clock')

include htime htime'

/-- Tests of the same number of iterations have the same verdict. -/
theorem stop?_eq (count k : Nat) (step : Number R) :
    first.stop? (clock k) count k step = second.stop? (clock' k) count k step := by
  apply stop?_congr htime htime' hcontrol.maxIter hcontrol.stepTol
  rw [exceedsEvaluations, exceedsEvaluations, hcontrol.maxEval]

theorem stopsAt_iff [Completion R] (count nobj k : Nat) :
    Solver.StopsAt first clock count nobj k ↔ Solver.StopsAt second clock' count nobj k := by
  have hexceeds := iff_of_false (htime.not_exceedsTime k) (htime'.not_exceedsTime k)
  simp only [Solver.StopsAt, hexceeds, hcontrol.stepBefore_eq, SmallStep, ExceedsEvaluations,
    ExceedsIterations, hcontrol.stepTol, hcontrol.maxEval, hcontrol.maxIter]

end SameControl

end Settings

/-! ### Counters -/

namespace Counters

theorem count_afterPasses (counters : Counters) (passes : Nat) (counter : ProblemCounter) :
    (((counters.tick .obj).tick .grad).afterPasses passes).count counter
      = counters.count counter + if counter = .obj ∨ counter = .grad then 1 else 0 := by
  cases counter <;> rfl

theorem entries_afterPasses (counters : Counters) (passes : Nat) (counter : ObjectiveCounter) :
    (((counters.tick .obj).tick .grad).afterPasses passes).entries counter
      = (counters.entries counter).map (· + if counter = .gradi then passes else 0) := by
  cases counter with
  | gradi => rfl
  | obji => exact (List.map_id' _).symm
  | hessi => exact (List.map_id' _).symm
  | hiprod => exact (List.map_id' _).symm

end Counters

namespace Solver

variable {R : Type} [Scalar R] [Completion R]

/-! ### What one run tells about another -/

section Loop

variable {σ : Type} {plan : Plan R} {source : OrderSource σ} {journal ending : Journal σ R}
  {last : Iterate R} {status : Status}

theorem Loop.stopsAt (hloop : Loop plan source journal last status ending)
    (hpermutes : source.Permutes journal.orders plan.model.problem.nobj)
    (hfits : journal.counters.Fits plan.model.problem.nobj) :
    StopsAt plan.settings plan.clock journal.counters.total plan.model.problem.nobj
      last.iterations :=
  stopsAt_of_verdict hloop.passes.stepBefore (hloop.passes.verdict hpermutes hfits hloop.stops)

/-- Every test of a loop had a verdict. -/
theorem Loop.test_eq_ok (hloop : Loop plan source journal last status ending)
    (hpermutes : source.Permutes journal.orders plan.model.problem.nobj)
    (hfits : journal.counters.Fits plan.model.problem.nobj) {k : Nat} (hk : k ≤ last.iterations)
    {step : Number R} (hstep : plan.settings.stepBefore k = .ok step) :
    ∃ verdict, plan.settings.stop? (plan.clock k)
      (journal.counters.total + 2 + k * plan.model.problem.nobj) k step = .ok verdict := by
  obtain hlt | rfl := Nat.lt_or_eq_of_le hk
  · obtain ⟨earlier, mid, -, -, hearlier, rfl, hgoesOn, -⟩ := hloop.passes.before hlt
    obtain rfl := Except.ok.inj (hearlier.stepBefore.symm.trans hstep)
    exact ⟨none, (hearlier.stop?_iff hpermutes hfits).mp hgoesOn⟩
  · obtain rfl := Except.ok.inj (hloop.passes.stepBefore.symm.trans hstep)
    exact ⟨some status, (hloop.passes.stop?_iff hpermutes hfits).mp hloop.stops⟩

/-- An iteration that was carried out could take its steps. -/
theorem Loop.steps (hloop : Loop plan source journal last status ending)
    (hpermutes : source.Permutes journal.orders plan.model.problem.nobj)
    (hfits : journal.counters.Fits plan.model.problem.nobj) (hnobj : 0 < plan.model.problem.nobj)
    {k : Nat} (hk : k < last.iterations) : plan.settings.Steps k := by
  obtain ⟨earlier, mid, next, after, hearlier, rfl, -, hadvance⟩ := hloop.passes.before hk
  obtain ⟨stepSize, order, orders, point, sum, swept, hnext, hdraw, hsweep, -, -⟩ :=
    Plan.advance_eq_ok.mp hadvance
  rw [Settings.nextStep_eq_scheduledStep hearlier.stepBefore] at hnext
  have hready := (hearlier.ready_and_counters hpermutes hfits).1
  have hlength := (hpermutes _ hready.orders _ _ hdraw).length_eq
  rw [length_objectives] at hlength
  -- There is an objective to visit, and its step shows what the step size and the pull are.
  cases order with
  | nil => exact absurd hlength (Nat.ne_of_lt hnobj)
  | cons index rest =>
      obtain ⟨moved, total, visited, hstep, -, -⟩ := Plan.sweep_cons_eq_ok.mp hsweep
      obtain ⟨pulled, gradient, hpull, -, hmove, -⟩ := Plan.step_eq_ok.mp hstep
      obtain ⟨alpha, halpha, -⟩ := bind_eq_ok.mp hpull
      obtain ⟨slope, -, hrest⟩ := bind_eq_ok.mp hmove
      obtain ⟨size, hsize, -⟩ := bind_eq_ok.mp hrest
      exact ⟨⟨alpha, halpha⟩, stepSize, size, hnext, hsize⟩

end Loop

omit [Completion R] in
theorem validate_eq_ok_of_sameControl {first second : Settings R}
    (hcontrol : first.SameControl second) (hfirst : validate first = .ok ()) {penalty : Penalty}
    (hpenalty : second.penalty = .text penalty.name) : validate second = .ok () := by
  rw [← Penalty.ofValue?_eq_some] at hpenalty
  unfold validate at hfirst ⊢
  rw [hcontrol.learningRate, hcontrol.alpha] at hfirst
  rw [hpenalty]
  generalize LearningRate.ofValue? second.learningRate = rate at hfirst ⊢
  generalize Penalty.ofValue? first.penalty = other at hfirst
  cases rate with
  | none => cases hfirst
  | some rate =>
      cases other with
      | none => cases hfirst
      | some other =>
          cases rate with
          | optimal => exact hfirst
          | invscaling => rfl
          | constant => rfl

/-! ### Two runs -/

/-- A run that nothing of its own can stop: its evaluations and orders do not fail, its penalty can
be used, and its clock does not go backwards. -/
structure Unhindered {σ : Type} (source : OrderSource σ) (model : Model R) (settings : Settings R)
    (clock : Nat → R) (journal : Journal σ R) : Prop where
  undisturbed : Undisturbed source model journal
  penalty : ∃ penalty : Penalty, settings.penalty = .text penalty.name
  regularizer : ∃ regularizer, settings.regularizer = .ok regularizer
  clock : ∀ k, Scalar.atMost 0.0 (clock k) = true

/-- What two runs report that took the same course; `before` and `after` are the counters of each
around its run. -/
structure SameCourse (before before' after after' : Counters) (stats stats' : Stats R) : Prop where
  iterations : stats.iterations = stats'.iterations
  status : stats.status = stats'.status
  finalStep : ∃ step, stats.solverSpecific.get? "final_step_size" = some (Value.ofNumber step)
    ∧ stats'.solverSpecific.get? "final_step_size" = some (Value.ofNumber step)
  problem : ∀ counter, ∃ added, after.count counter = before.count counter + added
    ∧ after'.count counter = before'.count counter + added
  objective : ∀ counter, ∃ added,
    after.entries counter = (before.entries counter).map (· + added)
      ∧ after'.entries counter = (before'.entries counter).map (· + added)

section Pair

variable {σ σ' : Type} {source : OrderSource σ} {source' : OrderSource σ'} {journal : Journal σ R}
  {journal' : Journal σ' R}

/-- Two runs alike in what controls them: the schedule, the limits, the number of objectives and the
number of evaluations before them. Both visit permuted objectives, within their time. -/
structure Alike (source : OrderSource σ) (source' : OrderSource σ') (model model' : Model R)
    (settings settings' : Settings R) (clock clock' : Nat → R) (journal : Journal σ R)
    (journal' : Journal σ' R) : Prop where
  control : settings.SameControl settings'
  nobj : model.problem.nobj = model'.problem.nobj
  count : journal.counters.total = journal'.counters.total
  permutes : source.Permutes journal.orders model.problem.nobj
  permutes' : source'.Permutes journal'.orders model'.problem.nobj
  fits : journal.counters.Fits model.problem.nobj
  fits' : journal'.counters.Fits model'.problem.nobj
  time : settings.WithinTime clock
  time' : settings'.WithinTime clock'

namespace Alike

variable {plan plan' : Plan R} {last last' : Iterate R} {status status' : Status}
  {ending : Journal σ R} {ending' : Journal σ' R}
  (halike : Alike source source' plan.model plan'.model plan.settings plan'.settings plan.clock
    plan'.clock journal journal')

include halike

theorem stopsAt_iff (k : Nat) :
    StopsAt plan.settings plan.clock journal.counters.total plan.model.problem.nobj k ↔
      StopsAt plan'.settings plan'.clock journal'.counters.total plan'.model.problem.nobj k := by
  rw [← halike.nobj, ← halike.count]
  exact halike.control.stopsAt_iff halike.time halike.time' _ _ k

omit [Completion R] in
theorem stop?_eq (k : Nat) (step : Number R) :
    plan.settings.stop? (plan.clock k)
        (journal.counters.total + 2 + k * plan.model.problem.nobj) k step
      = plan'.settings.stop? (plan'.clock k)
        (journal'.counters.total + 2 + k * plan'.model.problem.nobj) k step := by
  rw [← halike.nobj, ← halike.count]
  exact halike.control.stop?_eq halike.time halike.time' _ k step

/-- Loops of runs that are alike end after as many iterations, with the same step and status. -/
theorem loops (hloop : Loop plan source journal last status ending)
    (hloop' : Loop plan' source' journal' last' status' ending') :
    last.iterations = last'.iterations ∧ last.stepSize = last'.stepSize ∧ status = status' := by
  have hle : last.iterations ≤ last'.iterations := by
    apply Nat.le_of_not_lt
    intro hlt
    exact hloop.passes.not_stopsAt halike.permutes halike.fits hlt
      ((halike.stopsAt_iff _).mpr (hloop'.stopsAt halike.permutes' halike.fits'))
  have hge : last'.iterations ≤ last.iterations := by
    apply Nat.le_of_not_lt
    intro hlt
    exact hloop'.passes.not_stopsAt halike.permutes' halike.fits' hlt
      ((halike.stopsAt_iff _).mp (hloop.stopsAt halike.permutes halike.fits))
  have hiterations := Nat.le_antisymm hle hge
  have hstep : last.stepSize = last'.stepSize := by
    apply Except.ok.inj
    rw [← hloop.passes.stepBefore, ← hloop'.passes.stepBefore, hiterations,
      halike.control.stepBefore_eq]
  have hverdict := (hloop.passes.stop?_iff halike.permutes halike.fits).mp hloop.stops
  have hverdict' := (hloop'.passes.stop?_iff halike.permutes' halike.fits').mp hloop'.stops
  rw [halike.stop?_eq, hiterations, hstep, hverdict'] at hverdict
  exact ⟨hiterations, hstep, (Option.some.inj (Except.ok.inj hverdict)).symm⟩

/-- What one run could look up in its settings, the other one can. -/
theorem computes (hloop : Loop plan source journal last status ending)
    (hnobj : 0 < plan.model.problem.nobj) :
    plan'.settings.Computes plan'.clock journal'.counters.total plan'.model.problem.nobj := by
  have hstops := (halike.stopsAt_iff _).mp (hloop.stopsAt halike.permutes halike.fits)
  constructor
  · intro k step hearlier hstep
    have hk : k ≤ last.iterations := Nat.le_of_not_lt fun hlt => hearlier _ hlt hstops
    rw [← halike.control.stepBefore_eq] at hstep
    rw [← halike.stop?_eq]
    exact hloop.test_eq_ok halike.permutes halike.fits hk hstep
  · intro k hearlier
    have hk : k < last.iterations := Nat.lt_of_not_le fun hle => hearlier _ hle hstops
    rw [← halike.control.steps_iff]
    exact hloop.steps halike.permutes halike.fits hnobj hk

end Alike

variable {model model' : Model R} {settings settings' : Settings R} {clock clock' : Nat → R}
  {patience : Nat} {after : Journal σ R} {after' : Journal σ' R} {stats stats' : Stats R}

theorem Alike.sameCourse (halike : Alike source source' model model' settings settings' clock clock'
      journal journal')
    (hrun : solve source model settings clock patience journal = .ok stats after)
    (hrun' : solve source' model' settings' clock' patience journal' = .ok stats' after') :
    SameCourse journal.counters journal'.counters after.counters after'.counters stats stats' := by
  obtain ⟨regularizer, last, status, ending, hloop, -, hiterations, hstatus, hfinal, hafter⟩ :=
    solve_loop hrun
  obtain ⟨regularizer', last', status', ending', hloop', -, hiterations', hstatus', hfinal',
    hafter'⟩ := solve_loop hrun'
  let plan : Plan R := ⟨model, settings, regularizer, clock⟩
  let plan' : Plan R := ⟨model', settings', regularizer', clock'⟩
  have hplans : Alike source source' plan.model plan'.model plan.settings plan'.settings plan.clock
    plan'.clock journal journal' := halike
  obtain ⟨hk, hstep, rfl⟩ := hplans.loops hloop hloop'
  have hcounters := (hloop.passes.ready_and_counters halike.permutes halike.fits).2
  have hcounters' := (hloop'.passes.ready_and_counters halike.permutes' halike.fits').2
  rw [← hk] at hcounters'
  rw [hafter, hafter', hcounters, hcounters']
  exact {
    iterations := by rw [hiterations, hiterations', hk]
    status := by rw [hstatus, hstatus']
    finalStep := ⟨last.stepSize, hfinal, by rw [hfinal', hstep]⟩
    problem := fun counter =>
      ⟨_, Counters.count_afterPasses _ _ counter, Counters.count_afterPasses _ _ counter⟩
    objective := fun counter =>
      ⟨_, Counters.entries_afterPasses _ _ counter, Counters.entries_afterPasses _ _ counter⟩ }

theorem Alike.returns (halike : Alike source source' model model' settings settings' clock clock'
      journal journal')
    (hrun : solve source model settings clock patience journal = .ok stats after)
    (hnobj : 0 < model.problem.nobj)
    (hunhindered : Unhindered source' model' settings' clock' journal') :
    ∃ stats' after', solve source' model' settings' clock' patience journal'
      = .ok stats' after' := by
  obtain ⟨-, -, -, -, ⟨hvalid, -⟩, -⟩ := solve_eq_ok.mp hrun
  obtain ⟨regularizer, last, status, ending, hloop, hwithin, -⟩ := solve_loop hrun
  obtain ⟨regularizer', hregularizer'⟩ := hunhindered.regularizer
  obtain ⟨penalty, hpenalty⟩ := hunhindered.penalty
  obtain ⟨-, stepSize, -, hstep, -⟩ := hloop.passes
  let plan : Plan R := ⟨model, settings, regularizer, clock⟩
  let plan' : Plan R := ⟨model', settings', regularizer', clock'⟩
  have hplans : Alike source source' plan.model plan'.model plan.settings plan'.settings plan.clock
    plan'.clock journal journal' := halike
  have hstops := (hplans.stopsAt_iff _).mp (hloop.stopsAt halike.permutes halike.fits)
  have hvalid' := validate_eq_ok_of_sameControl halike.control hvalid hpenalty
  have hstep' : settings'.stepSize.number? = .ok stepSize := halike.control.stepSize ▸ hstep
  rw [halike.control.horizon?_eq] at hwithin
  obtain ⟨last', -, -, after', -, hends, -⟩ := solve_ends hunhindered.undisturbed hvalid'
    hregularizer' hstep' (hplans.computes hloop hnobj) hstops hwithin
  obtain ⟨stats', hrun'⟩ := hends.exists_ok (hunhindered.clock _)
  exact ⟨stats', after', hrun'⟩

/-- **The course of a run does not depend on its data.** Where a run returns, every run that is
alike in what controls it takes the same course if it returns, and returns unless something of its
own stops it. -/
theorem solve_same_course (halike : Alike source source' model model' settings settings' clock
      clock' journal journal')
    (hrun : solve source model settings clock patience journal = .ok stats after) :
    (∀ stats' after', solve source' model' settings' clock' patience journal' = .ok stats' after' →
        SameCourse journal.counters journal'.counters after.counters after'.counters stats stats')
      ∧ (0 < model.problem.nobj → Unhindered source' model' settings' clock' journal' →
        ∃ stats' after', solve source' model' settings' clock' patience journal'
          = .ok stats' after') := by
  constructor
  · intro stats' after' hrun'
    exact halike.sameCourse hrun hrun'
  · intro hnobj hunhindered
    exact halike.returns hrun hnobj hunhindered

end Pair

/-- A problem with the dimensions of the seesaw, and nothing else in common with it. -/
def crosswind : Model Float :=
  Linear.model [[1.0, 2.0, 3.0], [-1.0, 0.5, 4.0]]
    { Meta.ofDimensions 3 2 0 with
      weights := [2.0, 5.0], x0 := [1.0, 1.0, 1.0], minimize := false }

theorem answers_crosswind : crosswind.Answers :=
  Linear.answers rfl (by decide) rfl rfl

/-- The same schedule and limits, with another penalty. -/
def fallingMixed : Settings Float :=
  { falling with penalty := .text "elasticnet", rho := .real 0.5, seed := .int 7 }

/-- A journal that starts with another order. -/
def unusedToo : Journal (Orders Float) Float := { unused with orders := .listed [[0, 1]] 5 }

theorem solve_same_course_crosswind : ∃ stats after,
    solve (Orders.source 2) crosswind fallingMixed (fun _ => 1.0) 0 unusedToo = .ok stats after
      ∧ stats.iterations = 3 ∧ stats.status = .smallStep := by
  have hpermutes : (Orders.source 2).Permutes unusedToo.orders 2 :=
    Orders.permutes_listed (by decide)
  have hwithin : Number.less (.real (60.0 : Float)) (.real 0.0) = false := by decide +kernel
  have hwithin' : Number.less (.real (60.0 : Float)) (.real 1.0) = false := by decide +kernel
  have hclock : Scalar.atMost (0.0 : Float) 1.0 = true := by decide +kernel
  have halike : Alike (Orders.source 2) (Orders.source 2) seesaw crosswind falling fallingMixed
      (fun _ => 0.0) (fun _ => 1.0) unused unusedToo :=
    { control := ⟨rfl, rfl, rfl, rfl, rfl, rfl, rfl⟩
      nobj := rfl
      count := rfl
      permutes := permutes_unused
      permutes' := hpermutes
      fits := Counters.fits_empty 2
      fits' := Counters.fits_empty 2
      time := ⟨.real 60.0, rfl, fun _ => hwithin⟩
      time' := ⟨.real 60.0, rfl, fun _ => hwithin'⟩ }
  have hunhindered : Unhindered (Orders.source 2) crosswind fallingMixed (fun _ => 1.0) unusedToo :=
    { undisturbed := ⟨answers_crosswind, Orders.serves_listed (by decide) 2 5, hpermutes,
        Counters.fits_empty 2⟩
      penalty := ⟨.elasticnet, rfl⟩
      regularizer := ⟨_, rfl⟩
      clock := fun _ => hclock }
  have hreturns : Run.read? (fun stats => (stats.iterations, stats.status))
      (solve (Orders.source 2) seesaw falling (fun _ => 0.0) 0) unused =
        some (3, .smallStep) := by decide +kernel
  obtain ⟨first, ending, hrun, hread⟩ := Run.exists_ok_of_read? hreturns
  obtain ⟨hiterations, hstatus⟩ := Prod.mk.inj hread
  obtain ⟨hcourse, hsecond⟩ := solve_same_course halike hrun
  obtain ⟨stats, after, hreturned⟩ := hsecond (by decide) hunhindered
  have hsame := hcourse stats after hreturned
  exact ⟨stats, after, hreturned, hsame.iterations ▸ hiterations, hsame.status ▸ hstatus⟩

end Solver

end Multigrad
