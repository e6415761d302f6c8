import Multigrad.Proofs.Solver.Accounting
import Mathlib.Order.Bounds.Defs

/-!
# When a run stops

A run tests whether to stop before its first iteration and after every one. What a test looks at is
determined by the number of iterations alone: the clock, the evaluations that so many iterations
count, and the step size of the schedule. A run that returns stops at the first test that gives a
reason, and reports the reason that comes first.
-/

namespace Multigrad

namespace Settings

variable {R : Type} [Scalar R]

/-! ### Step sizes -/

/-- The step size of the schedule in an iteration; a constant one is that of the settings. -/
def scheduledStep [Completion R] (settings : Settings R) (iteration : Nat) :
    Except Mishap (Number R) :=
  match LearningRate.ofValue? settings.learningRate with
  | some .optimal => (settings.optimalStep iteration).map .real
  | some .invscaling => (settings.scaledStep iteration).map .real
  | _ => settings.stepSize.number?

/-- The last step size before the test after so many iterations. -/
def stepBefore [Completion R] (settings : Settings R) : Nat → Except Mishap (Number R)
  | 0 => settings.stepSize.number?
  | iteration + 1 => settings.scheduledStep iteration

theorem stepBefore_of_constant [Completion R] {settings : Settings R}
    (hconstant : ∀ iteration, settings.scheduledStep iteration = settings.stepSize.number?)
    (iteration : Nat) : settings.stepBefore iteration = settings.stepSize.number? := by
  cases iteration with
  | zero => rfl
  | succ iteration => exact hconstant iteration

/-- A run takes the steps of the schedule. -/
theorem nextStep_eq_scheduledStep [Completion R] {settings : Settings R} {iteration : Nat}
    {step : Number R} (hstep : settings.stepBefore iteration = .ok step) :
    settings.nextStep iteration step = settings.scheduledStep iteration := by
  cases hrate : LearningRate.ofValue? settings.learningRate with
  | none =>
      have hconstant (k : Nat) : settings.scheduledStep k = settings.stepSize.number? := by
        rw [scheduledStep, hrate]
      rw [hconstant, ← stepBefore_of_constant hconstant iteration, hstep, nextStep, hrate]
  | some rate =>
      cases rate with
      | optimal => rw [nextStep, scheduledStep, hrate]
      | invscaling => rw [nextStep, scheduledStep, hrate]
      | constant =>
          have hconstant (k : Nat) : settings.scheduledStep k = settings.stepSize.number? := by
            rw [scheduledStep, hrate]
          rw [hconstant, ← stepBefore_of_constant hconstant iteration, hstep, nextStep, hrate]

/-! ### Reasons to stop -/

structure Test (R : Type) where
  elapsed : R
  evaluations : Nat
  iterations : Nat
  step : Number R

def SmallStep (settings : Settings R) (step : Number R) : Prop :=
  ∃ tolerance, settings.stepTol.number? = .ok tolerance ∧ Number.less step tolerance = true

def ExceedsTime (settings : Settings R) (elapsed : R) : Prop :=
  ∃ limit, settings.maxTime.number? = .ok limit ∧ Number.less limit (.real elapsed) = true

/-- A limit that is not positive is none. -/
def ExceedsEvaluations (settings : Settings R) (count : Nat) : Prop :=
  ∃ limit, settings.maxEval.number? = .ok limit ∧ Number.less (.int 0) limit = true
    ∧ Number.less limit (.int count) = true

def ExceedsIterations (settings : Settings R) (iterations : Nat) : Prop :=
  ∃ limit, settings.maxIter.number? = .ok limit ∧ Number.less limit (.int iterations) = true

/-- A status is the reason that comes first: a small step before any budget, and the budgets in the
order time, evaluations, iterations. -/
inductive Verdict (settings : Settings R) (test : Test R) : Option Status → Prop where
  | smallStep (hstep : settings.SmallStep test.step) : Verdict settings test (some .smallStep)
  | maxTime (hstep : ¬settings.SmallStep test.step) (htime : settings.ExceedsTime test.elapsed) :
      Verdict settings test (some .maxTime)
  | maxEval (hstep : ¬settings.SmallStep test.step) (htime : ¬settings.ExceedsTime test.elapsed)
      (heval : settings.ExceedsEvaluations test.evaluations) :
      Verdict settings test (some .maxEval)
  | maxIter (hstep : ¬settings.SmallStep test.step) (htime : ¬settings.ExceedsTime test.elapsed)
      (heval : ¬settings.ExceedsEvaluations test.evaluations)
      (hiter : settings.ExceedsIterations test.iterations) : Verdict settings test (some .maxIter)
  | goesOn (hstep : ¬settings.SmallStep test.step) (htime : ¬settings.ExceedsTime test.elapsed)
      (heval : ¬settings.ExceedsEvaluations test.evaluations)
      (hiter : ¬settings.ExceedsIterations test.iterations) : Verdict settings test none

theorem Verdict.status {settings : Settings R} {test : Test R} {status : Status}
    (hverdict : settings.Verdict test (some status)) :
    (status = .smallStep ↔ settings.SmallStep test.step)
      ∧ (status = .maxTime ↔ ¬settings.SmallStep test.step ∧ settings.ExceedsTime test.elapsed)
      ∧ (status = .maxEval ↔ ¬settings.SmallStep test.step ∧ ¬settings.ExceedsTime test.elapsed
        ∧ settings.ExceedsEvaluations test.evaluations)
      ∧ (status = .maxIter ↔ ¬settings.SmallStep test.step ∧ ¬settings.ExceedsTime test.elapsed
        ∧ ¬settings.ExceedsEvaluations test.evaluations
        ∧ settings.ExceedsIterations test.iterations)
      ∧ status ≠ .unknown := by
  cases hverdict with
  | smallStep hstep => simp [hstep]
  | maxTime hstep htime => simp [hstep, htime]
  | maxEval hstep htime heval => simp [hstep, htime, heval]
  | maxIter hstep htime heval hiter => simp [hstep, htime, heval, hiter]

theorem converged_iff {settings : Settings R} {step : Number R} {small : Bool}
    (hread : settings.converged step = .ok small) : small = true ↔ settings.SmallStep step := by
  obtain ⟨tolerance, htolerance, hpure⟩ := bind_eq_ok.mp hread
  obtain rfl := pure_eq_ok.mp hpure
  simp [SmallStep, htolerance]

theorem exceedsEvaluations_iff {settings : Settings R} {count : Nat} {exceeded : Bool}
    (hread : settings.exceedsEvaluations count = .ok exceeded) :
    exceeded = true ↔ settings.ExceedsEvaluations count := by
  obtain ⟨limit, hlimit, hpure⟩ := bind_eq_ok.mp hread
  obtain rfl := pure_eq_ok.mp hpure
  simp [ExceedsEvaluations, hlimit]

theorem exceedsTime_iff {settings : Settings R} {elapsed : R} {limit : Number R}
    (hlimit : settings.maxTime.number? = .ok limit) :
    Number.less limit (.real elapsed) = true ↔ settings.ExceedsTime elapsed := by
  simp [ExceedsTime, hlimit]

theorem exceedsIterations_iff {settings : Settings R} {iterations : Nat} {limit : Number R}
    (hlimit : settings.maxIter.number? = .ok limit) :
    Number.less limit (.int iterations) = true ↔ settings.ExceedsIterations iterations := by
  simp [ExceedsIterations, hlimit]

theorem stop?_verdict {settings : Settings R} {test : Test R} {verdict : Option Status}
    (hstop : settings.stop? test.elapsed test.evaluations test.iterations test.step
      = .ok verdict) : settings.Verdict test verdict := by
  obtain ⟨exhausted, hexhausted, hrest⟩ := bind_eq_ok.mp hstop
  obtain ⟨small, hsmall, hpure⟩ := bind_eq_ok.mp hrest
  obtain rfl := pure_eq_ok.mp hpure
  cases small with
  | true => exact .smallStep ((converged_iff hsmall).mp rfl)
  | false =>
      have hstep := mt (converged_iff hsmall).mpr Bool.false_ne_true
      obtain ⟨timeLimit, htimeLimit, hrest⟩ := bind_eq_ok.mp hexhausted
      split at hrest
      · rename_i hless
        obtain rfl := pure_eq_ok.mp hrest
        exact .maxTime hstep ((exceedsTime_iff htimeLimit).mp hless)
      · rename_i hless
        have htime := mt (exceedsTime_iff htimeLimit).mpr hless
        obtain ⟨exceeded, hexceeded, hrest⟩ := bind_eq_ok.mp hrest
        cases exceeded with
        | true =>
            obtain rfl := pure_eq_ok.mp hrest
            exact .maxEval hstep htime ((exceedsEvaluations_iff hexceeded).mp rfl)
        | false =>
            have heval := mt (exceedsEvaluations_iff hexceeded).mpr Bool.false_ne_true
            obtain ⟨iterLimit, hiterLimit, hrest⟩ := bind_eq_ok.mp hrest
            split at hrest
            · rename_i hless
              obtain rfl := pure_eq_ok.mp hrest
              exact .maxIter hstep htime heval ((exceedsIterations_iff hiterLimit).mp hless)
            · rename_i hless
              obtain rfl := pure_eq_ok.mp hrest
              exact .goesOn hstep htime heval (mt (exceedsIterations_iff hiterLimit).mpr hless)

end Settings

namespace Solver

variable {σ R : Type} [Scalar R] [Completion R]

/-- The stopping rule after `k` iterations of a run that began with `count` evaluations. -/
def StopsAt (settings : Settings R) (clock : Nat → R) (count nobj k : Nat) : Prop :=
  (∃ step, settings.stepBefore k = .ok step ∧ settings.SmallStep step)
    ∨ settings.ExceedsTime (clock k) ∨ settings.ExceedsEvaluations (count + 2 + k * nobj)
    ∨ settings.ExceedsIterations k

section Verdict

variable {settings : Settings R} {clock : Nat → R} {count nobj k : Nat} {step : Number R}

def testAfter (clock : Nat → R) (count nobj k : Nat) (step : Number R) : Settings.Test R :=
  ⟨clock k, count + 2 + k * nobj, k, step⟩

theorem not_stopsAt_of_goesOn (hstep : settings.stepBefore k = .ok step)
    (hverdict : settings.Verdict (testAfter clock count nobj k step) none) :
    ¬StopsAt settings clock count nobj k := by
  cases hverdict with
  | goesOn hsmall htime heval hiter =>
      rintro (⟨found, hfound, h⟩ | h | h | h)
      · obtain rfl := Except.ok.inj (hstep.symm.trans hfound)
        exact hsmall h
      · exact htime h
      · exact heval h
      · exact hiter h

theorem stopsAt_of_verdict {status : Status} (hstep : settings.stepBefore k = .ok step)
    (hverdict : settings.Verdict (testAfter clock count nobj k step) (some status)) :
    StopsAt settings clock count nobj k := by
  cases hverdict with
  | smallStep h => exact .inl ⟨step, hstep, h⟩
  | maxTime _ h => exact .inr (.inl h)
  | maxEval _ _ h => exact .inr (.inr (.inl h))
  | maxIter _ _ _ h => exact .inr (.inr (.inr h))

end Verdict

variable {source : OrderSource σ} {model : Model R} {settings : Settings R} {clock : Nat → R}
  {patience : Nat} {journal after : Journal σ R}

namespace Plan

variable {plan : Plan R} {initial : σ} {first current : Iterate R} {start : Journal σ R}

theorem Reaches.stepBefore (hfirst : plan.settings.stepBefore first.iterations = .ok first.stepSize)
    (hreaches : plan.Reaches source first start current journal) :
    plan.settings.stepBefore current.iterations = .ok current.stepSize := by
  induction hreaches with
  | start => exact hfirst
  | advance _ _ hadvance ih =>
      obtain ⟨stepSize, order, orders, point, sum, mid, hnext, -, -, rfl, rfl⟩ :=
        advance_eq_ok.mp hadvance
      exact (Settings.nextStep_eq_scheduledStep ih).symm.trans hnext

theorem Reaches.verdict {count : Nat} {verdict : Option Status}
    (hpermutes : source.Permutes initial plan.model.problem.nobj)
    (hready : start.Ready source initial plan.model.problem.nobj)
    (htotal : start.counters.total = count + 2) (hfirst : first.iterations = 0)
    (hreaches : plan.Reaches source first start current journal)
    (hstop : plan.stop? current journal = .ok verdict after) :
    plan.settings.Verdict (testAfter plan.clock count plan.model.problem.nobj current.iterations
      current.stepSize) verdict := by
  obtain ⟨hread, -⟩ := stop?_eq_ok.mp hstop
  have hcounters := (hreaches.counters hpermutes hready hfirst).2
  rw [hcounters, Counters.total_afterPasses hready.counters, htotal] at hread
  exact Settings.stop?_verdict hread

theorem Reaches.not_stopsAt {count k : Nat}
    (hpermutes : source.Permutes initial plan.model.problem.nobj)
    (hready : start.Ready source initial plan.model.problem.nobj)
    (htotal : start.counters.total = count + 2) (hfirst : first.iterations = 0)
    (hstep : plan.settings.stepBefore first.iterations = .ok first.stepSize)
    (hreaches : plan.Reaches source first start current journal) (hk : k < current.iterations) :
    ¬StopsAt plan.settings plan.clock count plan.model.problem.nobj k := by
  induction hreaches with
  | start => rw [hfirst] at hk; exact (Nat.not_lt_zero k hk).elim
  | @advance current next journal after hcurrent hgoesOn hadvance ih =>
      obtain ⟨stepSize, order, orders, point, sum, mid, -, -, -, rfl, rfl⟩ :=
        advance_eq_ok.mp hadvance
      -- Either an earlier test is meant, or the one that let this iteration happen.
      obtain hlt | rfl := Nat.lt_succ_iff_lt_or_eq.mp hk
      · exact ih hlt
      · exact not_stopsAt_of_goesOn (hcurrent.stepBefore hstep)
          (hcurrent.verdict hpermutes hready htotal hfirst hgoesOn)

end Plan

/-- Where a run that began with `count` evaluations stops, and what it reports about it. -/
structure Stops (model : Model R) (settings : Settings R) (clock : Nat → R) (count : Nat)
    (stats : Stats R) (finalStep : Number R) : Prop where
  least : IsLeast {k | StopsAt settings clock count model.problem.nobj k} stats.iterations
  scheduled : settings.stepBefore stats.iterations = .ok finalStep
  reported : stats.solverSpecific.get? "final_step_size" = some (Value.ofNumber finalStep)
  smallStep : stats.status = .smallStep ↔ settings.SmallStep finalStep
  maxTime : stats.status = .maxTime ↔
    ¬settings.SmallStep finalStep ∧ settings.ExceedsTime (clock stats.iterations)
  maxEval : stats.status = .maxEval ↔
    ¬settings.SmallStep finalStep ∧ ¬settings.ExceedsTime (clock stats.iterations)
      ∧ settings.ExceedsEvaluations (count + 2 + stats.iterations * model.problem.nobj)
  maxIter : stats.status = .maxIter ↔
    ¬settings.SmallStep finalStep ∧ ¬settings.ExceedsTime (clock stats.iterations)
      ∧ ¬settings.ExceedsEvaluations (count + 2 + stats.iterations * model.problem.nobj)
      ∧ settings.ExceedsIterations stats.iterations
  known : stats.status ≠ .unknown

/-- **A run stops at the first reason**, for every visiting order and every clock. -/
theorem solve_stops (hpermutes : source.Permutes journal.orders model.problem.nobj)
    (hfits : journal.counters.Fits model.problem.nobj) {stats : Stats R}
    (hrun : solve source model settings clock patience journal = .ok stats after) :
    ∃ finalStep, Stops model settings clock journal.counters.total stats finalStep := by
  obtain ⟨regularizer, orders, objective, gradient, ⟨-, -, hstart, -, -⟩, hplan⟩ :=
    solve_eq_ok.mp hrun
  obtain ⟨stepSize, last, status, mid, hstep, hiterate, -, rfl, rfl⟩ := Plan.run_eq_ok.mp hplan
  have hready : Journal.Ready source journal.orders model.problem.nobj
      (prepared settings model orders journal) :=
    ⟨.start hstart, (hfits.tick .obj).tick .grad⟩
  have htotal : (prepared settings model orders journal).counters.total
      = journal.counters.total + 2 := by
    rw [prepared, Counters.total_tick, Counters.total_tick]
  have hstep : settings.stepBefore (initialIterate model stepSize).iterations
      = .ok (initialIterate model stepSize).stepSize := hstep
  obtain ⟨hreaches, hstop⟩ := Plan.Reaches.start.iterate_ok hiterate
  have hlast := hreaches.stepBefore hstep
  have hverdict := hreaches.verdict hpermutes hready htotal rfl hstop
  have hleast : ∀ k ∈ {k | StopsAt settings clock journal.counters.total model.problem.nobj k},
      last.iterations ≤ k := by
    intro k hk
    apply Nat.le_of_not_lt
    intro hlt
    exact hreaches.not_stopsAt hpermutes hready htotal rfl hstep hlt hk
  obtain ⟨hsmall, hmaxTime, hmaxEval, hmaxIter, hknown⟩ := hverdict.status
  exact ⟨last.stepSize, ⟨stopsAt_of_verdict hlast hverdict, hleast⟩, hlast, rfl, hsmall, hmaxTime,
    hmaxEval, hmaxIter, hknown⟩

/-- Both the step size and the number of iterations are a reason to stop after three iterations; the
step size comes first. -/
theorem solve_stops_seesaw : ∃ stats after finalStep,
    solve (Orders.source 2) seesaw { falling with maxIter := .int 2 } (fun _ => 0.0) 0 unused
        = .ok stats after
      ∧ Stops seesaw { falling with maxIter := .int 2 } (fun _ => 0.0) 0 stats finalStep
      ∧ stats.iterations = 3 ∧ stats.status = .smallStep := by
  have hreturns : Run.read? (fun stats => (stats.iterations, stats.status))
      (solve (Orders.source 2) seesaw { falling with maxIter := .int 2 } (fun _ => 0.0) 0) unused =
        some (3, .smallStep) := by decide +kernel
  obtain ⟨stats, after, hrun, hread⟩ := Run.exists_ok_of_read? hreturns
  obtain ⟨hiterations, hstatus⟩ := Prod.mk.inj hread
  obtain ⟨finalStep, hstops⟩ := solve_stops permutes_unused (Counters.fits_empty 2) hrun
  exact ⟨stats, after, finalStep, hrun, hstops, hiterations, hstatus⟩

end Solver

end Multigrad
