import Multigrad.Proofs.Scalar.Floor
import Multigrad.Proofs.Solver.Loop
import Multigrad.Proofs.Solver.Progress

/-!
# Every limited run ends

Budgets are tested between iterations only. A limit on the iterations is exceeded by one iteration;
a limit on the evaluations by the evaluations of one iteration at most, or by those before the first
one. Where nothing that a run uses fails, a limit of either kind brings the run to an end.
-/

namespace Multigrad

namespace Settings

variable {R : Type} [Scalar R] [Completion R] {settings : Settings R}

/-! ### Readable settings -/

/-- Settings that a run accepts, with numbers where it needs numbers. -/
structure Valid (settings : Settings R) : Prop where
  accepted : Solver.validate settings = .ok ()
  regularizer : ∃ regularizer, settings.regularizer = .ok regularizer
  stepSize : ∃ step, settings.stepSize.number? = .ok step
  stepTol : ∃ tolerance, settings.stepTol.number? = .ok tolerance
  maxTime : ∃ limit, settings.maxTime.number? = .ok limit
  maxEval : ∃ limit, settings.maxEval.number? = .ok limit
  maxIter : ∃ limit, settings.maxIter.number? = .ok limit

theorem Valid.exhausted?_eq_ok (hvalid : settings.Valid) (elapsed : R) (count : Nat)
    (iteration : Int) : ∃ status, settings.exhausted? elapsed count iteration = .ok status := by
  obtain ⟨maxTime, hmaxTime⟩ := hvalid.maxTime
  obtain ⟨maxEval, hmaxEval⟩ := hvalid.maxEval
  obtain ⟨maxIter, hmaxIter⟩ := hvalid.maxIter
  obtain ⟨exceeded, hexceeded⟩ :
      ∃ exceeded, settings.exceedsEvaluations count = .ok exceeded :=
    ⟨_, bind_eq_ok.mpr ⟨maxEval, hmaxEval, rfl⟩⟩
  by_cases htime : Number.less maxTime (.real elapsed) = true
  · exact ⟨_, bind_eq_ok.mpr ⟨maxTime, hmaxTime, if_pos htime⟩⟩
  simp only [exhausted?, bind_eq_ok, hmaxTime, hexceeded, Except.ok.injEq, exists_eq_left',
    if_neg htime]
  cases exceeded with
  | true => exact ⟨_, rfl⟩
  | false =>
      simp only [bind_eq_ok, hmaxIter, Except.ok.injEq, exists_eq_left', reduceCtorEq, if_false]
      split
      · exact ⟨_, rfl⟩
      · exact ⟨_, rfl⟩

theorem Valid.stop?_eq_ok (hvalid : settings.Valid) (elapsed : R) (count iteration : Nat)
    (step : Number R) :
    ∃ verdict, settings.stop? elapsed count iteration step = .ok verdict := by
  obtain ⟨exhausted, hexhausted⟩ := hvalid.exhausted?_eq_ok elapsed count iteration
  obtain ⟨tolerance, htolerance⟩ := hvalid.stepTol
  have hconverged : settings.converged step = .ok (Number.less step tolerance) :=
    bind_eq_ok.mpr ⟨tolerance, htolerance, rfl⟩
  exact ⟨_, bind_eq_ok.mpr ⟨exhausted, hexhausted, bind_eq_ok.mpr ⟨_, hconverged, rfl⟩⟩⟩

/-- An iteration with this number can take its steps: the schedule has a step size for it, and both
the step size and the regularization are scalars. -/
def Steps (settings : Settings R) (iteration : Nat) : Prop :=
  (∃ alpha, settings.alpha.real? = .ok alpha)
    ∧ ∃ step size, settings.scheduledStep iteration = .ok step ∧ step.toReal = .ok size

/-- Whatever a run looks up in its settings before it stops can be looked up: the verdict of every
test, and the steps of every iteration. -/
structure Computes (settings : Settings R) (clock : Nat → R) (count nobj : Nat) : Prop where
  test : ∀ k step, (∀ j < k, ¬Solver.StopsAt settings clock count nobj j) →
    settings.stepBefore k = .ok step →
      ∃ verdict, settings.stop? (clock k) (count + 2 + k * nobj) k step = .ok verdict
  steps : ∀ k, (∀ j ≤ k, ¬Solver.StopsAt settings clock count nobj j) → settings.Steps k

end Settings

namespace Solver

variable {σ R : Type} [Scalar R] [Completion R] {source : OrderSource σ} {model : Model R}
  {settings : Settings R} {clock : Nat → R} {patience : Nat} {journal : Journal σ R}

/-! ### Loops that end -/

/-- Nothing that a run takes from outside fails: the model answers, and the source has an order of
all objectives whenever one is drawn. -/
structure Undisturbed (source : OrderSource σ) (model : Model R) (journal : Journal σ R) :
    Prop where
  answers : model.Answers
  serves : source.Serves journal.orders
  permutes : source.Permutes journal.orders model.problem.nobj
  fits : journal.counters.Fits model.problem.nobj

namespace Plan

variable {plan : Plan R} {current : Iterate R} {middle : Journal σ R} {bound limit : Nat}

/-- A test before the bound has a verdict; one at the bound has found a reason to stop. -/
theorem Passes.tests (hundisturbed : Undisturbed source plan.model journal)
    (hcomputes : plan.settings.Computes plan.clock journal.counters.total plan.model.problem.nobj)
    (hstops : StopsAt plan.settings plan.clock journal.counters.total plan.model.problem.nobj bound)
    (hpasses : plan.Passes source journal current middle) :
    ∃ verdict, plan.stop? current middle = .ok verdict middle
      ∧ (verdict = none → current.iterations < bound) := by
  have hpermutes := hundisturbed.permutes
  have hfits := hundisturbed.fits
  obtain ⟨verdict, hverdict⟩ := hcomputes.test current.iterations current.stepSize
    (fun j hj => hpasses.not_stopsAt hpermutes hfits hj) hpasses.stepBefore
  have hstop := (hpasses.stop?_iff hpermutes hfits).mpr hverdict
  refine ⟨verdict, hstop, ?_⟩
  rintro rfl
  obtain hlt | rfl | hgt := Nat.lt_trichotomy current.iterations bound
  · exact hlt
  · exact (hpasses.not_stopsAt_of_goesOn hpermutes hfits hstop hstops).elim
  · exact (hpasses.not_stopsAt hpermutes hfits hgt hstops).elim

theorem Passes.advances (hundisturbed : Undisturbed source plan.model journal)
    (hcomputes : plan.settings.Computes plan.clock journal.counters.total plan.model.problem.nobj)
    (hpasses : plan.Passes source journal current middle)
    (hsized : current.Sized plan.model.problem.nvar)
    (hgoesOn : plan.stop? current middle = .ok none middle) :
    ∃ next after, plan.advance source current middle = .ok next after
      ∧ next.Sized plan.model.problem.nvar := by
  have hpermutes := hundisturbed.permutes
  have hfits := hundisturbed.fits
  have hearlier : ∀ j ≤ current.iterations, ¬StopsAt plan.settings plan.clock
      journal.counters.total plan.model.problem.nobj j := by
    intro j hj
    obtain hlt | rfl := Nat.lt_or_eq_of_le hj
    · exact hpasses.not_stopsAt hpermutes hfits hlt
    · exact hpasses.not_stopsAt_of_goesOn hpermutes hfits hgoesOn
  obtain ⟨⟨alpha, halpha⟩, step, size, hscheduled, hsize⟩ := hcomputes.steps _ hearlier
  have hnext := (Settings.nextStep_eq_scheduledStep hpasses.stepBefore).trans hscheduled
  have hready := (hpasses.ready_and_counters hpermutes hfits).1
  exact advance_of_answers hundisturbed.answers hpermutes hundisturbed.serves hsized halpha hnext
    hsize hready.orders

theorem Passes.iterate_returns (hundisturbed : Undisturbed source plan.model journal)
    (hcomputes : plan.settings.Computes plan.clock journal.counters.total plan.model.problem.nobj)
    (hstops : StopsAt plan.settings plan.clock journal.counters.total plan.model.problem.nobj bound)
    (hpasses : plan.Passes source journal current middle)
    (hsized : current.Sized plan.model.problem.nvar)
    (hlimit : bound ≤ current.iterations + limit) :
    ∃ last status ending, plan.iterate source limit current middle = .ok (last, status) ending
      ∧ Loop plan source journal last status ending := by
  induction limit generalizing current middle with
  | zero =>
      obtain ⟨verdict, hstop, hbefore⟩ := hpasses.tests hundisturbed hcomputes hstops
      cases verdict with
      | some status =>
          exact ⟨current, status, middle, Run.bind_of_ok hstop, hpasses, hstop⟩
      | none => exact absurd (hbefore rfl) (Nat.not_lt.mpr hlimit)
  | succ limit ih =>
      obtain ⟨verdict, hstop, -⟩ := hpasses.tests hundisturbed hcomputes hstops
      cases verdict with
      | some status =>
          exact ⟨current, status, middle, Run.bind_of_ok hstop, hpasses, hstop⟩
      | none =>
          obtain ⟨next, after, hadvance, hnextSized⟩ := hpasses.advances hundisturbed hcomputes
            hsized hstop
          have hnext := advance_iterations hadvance
          obtain ⟨last, status, ending, hrest, hloop⟩ := ih (hpasses.advance hstop hadvance)
            hnextSized (by omega)
          refine ⟨last, status, ending, ?_, hloop⟩
          rw [iterate, Run.bind_of_ok hstop]
          exact (Run.bind_of_ok hadvance).trans hrest

end Plan

/-! ### Runs that end -/

/-- How a run ends whose loop ends after so many iterations: with statistics, or, where the clock
went backwards, with the refusal of a negative time. -/
inductive EndsAfter (clock : Nat → R) (iterations : Nat) (after : Journal σ R) :
    EStateM.Result (Failure R) (Journal σ R) (Stats R) → Prop where
  | returns {stats : Stats R} (hiterations : stats.iterations = iterations) :
      EndsAfter clock iterations after (.ok stats after)
  | negative (hclock : Scalar.atMost 0.0 (clock iterations) = false) :
      EndsAfter clock iterations after (.error .negativeTime after)

omit [Completion R] in
theorem EndsAfter.exists_ok {iterations : Nat} {after : Journal σ R}
    {result : EStateM.Result (Failure R) (Journal σ R) (Stats R)}
    (hends : EndsAfter clock iterations after result)
    (hclock : Scalar.atMost 0.0 (clock iterations) = true) :
    ∃ stats, result = .ok stats after := by
  cases hends with
  | returns => exact ⟨_, rfl⟩
  | negative hnegative =>
      rw [hclock] at hnegative
      cases hnegative

theorem Plan.run_ends {plan : Plan R} (objective : R) (gradient : List R) {stepSize : Number R}
    {last : Iterate R} {status : Status} {ending : Journal σ R}
    (hstep : plan.settings.stepSize.number? = .ok stepSize)
    (hiterate : plan.iterate source (plan.settings.horizon?.getD patience)
      (initialIterate plan.model stepSize) journal = .ok (last, status) ending) :
    ∃ after, EndsAfter plan.clock last.iterations after
        (plan.run source patience objective gradient journal)
      ∧ after.counters = ending.counters := by
  let after := ending.noted (.finished plan.settings.name last.iterations status
    (plan.clock last.iterations) ending.counters.total)
  have hrun : plan.run source patience objective gradient journal
      = (if Scalar.atMost 0.0 (plan.clock last.iterations) then
          pure (report plan.settings last status objective (norm gradient)
            (plan.clock last.iterations) ending.counters)
        else throw .negativeTime : Run σ R (Stats R)) after := by
    rw [Plan.run, Run.bind_of_ok (Run.lift_eq_ok.mpr ⟨hstep, rfl⟩)]
    exact Run.bind_of_ok hiterate
  refine ⟨after, ?_, rfl⟩
  rw [hrun]
  cases hclock : Scalar.atMost 0.0 (plan.clock last.iterations) with
  | true => exact .returns rfl
  | false => exact .negative hclock

theorem solve_ends (hundisturbed : Undisturbed source model journal)
    (haccepted : validate settings = .ok ()) {regularizer : Regularizer R}
    (hregularizer : settings.regularizer = .ok regularizer) {stepSize : Number R}
    (hstep : settings.stepSize.number? = .ok stepSize)
    (hcomputes : settings.Computes clock journal.counters.total model.problem.nobj) {bound : Nat}
    (hstops : StopsAt settings clock journal.counters.total model.problem.nobj bound)
    (hbound : bound ≤ settings.horizon?.getD patience) :
    ∃ last status ending after,
      Loop ⟨model, settings, regularizer, clock⟩ source journal last status ending
        ∧ EndsAfter clock last.iterations after
          (solve source model settings clock patience journal)
        ∧ after.counters = ending.counters := by
  obtain ⟨orders, hstart⟩ := hundisturbed.serves.start
  obtain ⟨objective, hobjective⟩ := hundisturbed.answers.total
  obtain ⟨gradient, hgradient⟩ := hundisturbed.answers.totalGradient
  let plan : Plan R := ⟨model, settings, regularizer, clock⟩
  have hpasses : plan.Passes source journal (initialIterate model stepSize)
      (prepared settings model orders journal) := ⟨orders, stepSize, hstart, hstep, .start⟩
  have hlimit : bound ≤ (initialIterate model stepSize).iterations
      + settings.horizon?.getD patience := by
    rwa [initialIterate, Nat.zero_add]
  obtain ⟨last, status, ending, hiterate, hloop⟩ := hpasses.iterate_returns hundisturbed hcomputes
    hstops (sized_initialIterate hundisturbed.answers stepSize) hlimit
  obtain ⟨after, hends, hcounters⟩ := Plan.run_ends objective gradient hstep hiterate
  refine ⟨last, status, ending, after, hloop, ?_, hcounters⟩
  rw [solve_eq_stages,
    Run.bind_of_ok (prepare_eq_ok.mpr ⟨haccepted, hregularizer, orders, hstart, rfl⟩),
    Run.bind_of_ok (evaluateStart_eq_ok.mpr ⟨hobjective, hgradient, rfl⟩)]
  exact hends

end Solver

namespace Settings

variable {R : Type} [Scalar R]

/-! ### Limits -/

/-- A finite limit on the iterations, or a finite and positive one on the evaluations. -/
def Limited (settings : Settings R) : Prop :=
  (∃ limit n, settings.maxIter.number? = .ok limit ∧ limit.floor? = some n)
    ∨ ∃ limit n, settings.maxEval.number? = .ok limit ∧ Number.less (.int 0) limit = true
      ∧ limit.floor? = some n

variable [Scalar.LawfulFloor R] {settings : Settings R} {limit : Number R} {n : Int}

theorem exceedsIterations_iff_lt (hlimit : settings.maxIter.number? = .ok limit)
    (hfloor : limit.floor? = some n) (k : Nat) : settings.ExceedsIterations k ↔ n < k := by
  rw [← exceedsIterations_iff hlimit]
  exact Number.less_int_iff hfloor

theorem exceedsEvaluations_iff_lt (hlimit : settings.maxEval.number? = .ok limit)
    (hpos : Number.less (.int 0) limit = true) (hfloor : limit.floor? = some n) (count : Nat) :
    settings.ExceedsEvaluations count ↔ n < count := by
  rw [← Number.less_int_iff hfloor]
  constructor
  · rintro ⟨found, hfound, -, hless⟩
    obtain rfl := Except.ok.inj (hlimit.symm.trans hfound)
    exact hless
  · intro hless
    exact ⟨limit, hlimit, hpos, hless⟩

omit [Scalar.LawfulFloor R] in
theorem horizon?_of_maxIter (hlimit : settings.maxIter.number? = .ok limit)
    (hfloor : limit.floor? = some n) : settings.horizon? = some (n + 1).toNat := by
  have hread : settings.maxIter.number?.toOption.bind Number.floor? = some n := by
    rw [hlimit]
    exact hfloor
  rw [horizon?, hread]

omit [Scalar.LawfulFloor R] in
theorem horizon?_of_maxEval
    (hendless : ∀ limit n, settings.maxIter.number? = .ok limit → limit.floor? ≠ some n)
    (hlimit : settings.maxEval.number? = .ok limit) (hpos : Number.less (.int 0) limit = true)
    (hfloor : limit.floor? = some n) : settings.horizon? = some (n + 1).toNat := by
  have hread : settings.maxIter.number?.toOption.bind Number.floor? = none := by
    cases hiter : settings.maxIter.number? with
    | error mishap => rfl
    | ok found => exact Option.eq_none_iff_forall_ne_some.mpr fun m => hendless found m hiter
  rw [horizon?, hread, hlimit]
  simp only [Except.toOption, hpos, hfloor, if_true, Option.map_some]

variable [Completion R]

/-- The iterations that a run is given are enough for its limit to be a reason to stop. -/
theorem Limited.horizon (hlimited : settings.Limited) (clock : Nat → R) (count : Nat) {nobj : Nat}
    (hnobj : 0 < nobj) :
    ∃ bound, settings.horizon? = some bound ∧ Solver.StopsAt settings clock count nobj bound := by
  by_cases hiter : ∃ limit n, settings.maxIter.number? = .ok limit ∧ limit.floor? = some n
  · obtain ⟨limit, n, hlimit, hfloor⟩ := hiter
    refine ⟨_, horizon?_of_maxIter hlimit hfloor, .inr (.inr (.inr ?_))⟩
    rw [exceedsIterations_iff_lt hlimit hfloor]
    omega
  · obtain ⟨limit, n, hlimit, hpos, hfloor⟩ := hlimited.resolve_left hiter
    have hendless : ∀ limit n, settings.maxIter.number? = .ok limit → limit.floor? ≠ some n :=
      fun limit n hlimit hfloor => hiter ⟨limit, n, hlimit, hfloor⟩
    refine ⟨_, horizon?_of_maxEval hendless hlimit hpos hfloor, .inr (.inr (.inl ?_))⟩
    rw [exceedsEvaluations_iff_lt hlimit hpos hfloor]
    have hle : (n + 1).toNat ≤ (n + 1).toNat * nobj := Nat.le_mul_of_pos_right _ hnobj
    omega

end Settings

namespace Solver

variable {σ R : Type} [Scalar R] [Completion R] [Scalar.LawfulFloor R] {source : OrderSource σ}
  {model : Model R} {settings : Settings R} {clock : Nat → R} {patience : Nat}
  {journal ending : Journal σ R} {plan : Plan R} {last : Iterate R} {status : Status}
  {limit : Number R} {n : Int}

/-! ### Overshoot -/

/-- A limit on the iterations is exceeded by one iteration at most. -/
theorem Loop.iterations_le (hloop : Loop plan source journal last status ending)
    (hpermutes : source.Permutes journal.orders plan.model.problem.nobj)
    (hfits : journal.counters.Fits plan.model.problem.nobj)
    (hlimit : plan.settings.maxIter.number? = .ok limit) (hfloor : limit.floor? = some n) :
    (last.iterations : Int) ≤ max 0 (n + 1) := by
  cases hlast : last.iterations with
  | zero => omega
  | succ k =>
      have hgoesOn := hloop.passes.not_stopsAt hpermutes hfits (k := k) (by omega)
      have hwithin : ¬n < k := by
        intro hexceeded
        exact hgoesOn (.inr (.inr (.inr ((Settings.exceedsIterations_iff_lt hlimit hfloor k).mpr
          hexceeded))))
      omega

/-- A limit on the evaluations is exceeded by those of one iteration at most, or by those that come
before the first one. -/
theorem Loop.total_le (hloop : Loop plan source journal last status ending)
    (hpermutes : source.Permutes journal.orders plan.model.problem.nobj)
    (hfits : journal.counters.Fits plan.model.problem.nobj)
    (hlimit : plan.settings.maxEval.number? = .ok limit)
    (hpos : Number.less (.int 0) limit = true) (hfloor : limit.floor? = some n) :
    (ending.counters.total : Int)
      ≤ max (journal.counters.total + 2 : Int) (n + plan.model.problem.nobj) := by
  have htotal := hloop.passes.total hpermutes hfits
  cases hlast : last.iterations with
  | zero =>
      rw [hlast, Nat.zero_mul] at htotal
      omega
  | succ k =>
      have hgoesOn := hloop.passes.not_stopsAt hpermutes hfits (k := k) (by omega)
      have hwithin : ¬n < (journal.counters.total + 2 + k * plan.model.problem.nobj : Nat) := by
        intro hexceeded
        exact hgoesOn (.inr (.inr (.inl ((Settings.exceedsEvaluations_iff_lt hlimit hpos hfloor
          _).mpr hexceeded))))
      rw [hlast, Nat.succ_mul] at htotal
      omega

/-- **Every limited run ends**, whatever the orders and the clock: with a finite limit on the
iterations or on the evaluations, after at most one iteration too many, and with at most the
evaluations of one iteration too many unless those before the first one are. -/
theorem solve_terminates (hnobj : 0 < model.problem.nobj)
    (hundisturbed : Undisturbed source model journal) (hvalid : settings.Valid)
    (hsteps : ∀ k, (∀ j ≤ k, ¬StopsAt settings clock journal.counters.total model.problem.nobj j) →
      settings.Steps k)
    (hlimited : settings.Limited) :
    ∃ iterations after,
      EndsAfter clock iterations after (solve source model settings clock patience journal)
        ∧ (∀ limit n, settings.maxIter.number? = .ok limit → limit.floor? = some n →
          (iterations : Int) ≤ max 0 (n + 1))
        ∧ ∀ limit n, settings.maxEval.number? = .ok limit →
          Number.less (.int 0) limit = true → limit.floor? = some n →
            (after.counters.total : Int)
              ≤ max (journal.counters.total + 2 : Int) (n + model.problem.nobj) := by
  have hpermutes := hundisturbed.permutes
  have hfits := hundisturbed.fits
  have hcomputes : settings.Computes clock journal.counters.total model.problem.nobj :=
    ⟨fun _ _ _ _ => hvalid.stop?_eq_ok _ _ _ _, hsteps⟩
  obtain ⟨regularizer, hregularizer⟩ := hvalid.regularizer
  obtain ⟨stepSize, hstep⟩ := hvalid.stepSize
  obtain ⟨bound, hhorizon, hstops⟩ := hlimited.horizon clock journal.counters.total hnobj
  have hbound : bound ≤ settings.horizon?.getD patience := by
    rw [hhorizon, Option.getD_some]
  obtain ⟨last, status, ending, after, hloop, hends, hcounters⟩ := solve_ends hundisturbed
    hvalid.accepted hregularizer hstep hcomputes hstops hbound
  refine ⟨last.iterations, after, hends, ?_, ?_⟩
  · intro limit n hlimit hfloor
    exact hloop.iterations_le hpermutes hfits hlimit hfloor
  · intro limit n hlimit hpos hfloor
    rw [hcounters]
    exact hloop.total_le hpermutes hfits hlimit hpos hfloor

/-- A limited run returns if its clock does not go backwards. -/
theorem solve_returns_of_limited (hnobj : 0 < model.problem.nobj)
    (hundisturbed : Undisturbed source model journal) (hvalid : settings.Valid)
    (hsteps : ∀ k, settings.Steps k) (hlimited : settings.Limited)
    (hclock : ∀ k, Scalar.atMost 0.0 (clock k) = true) :
    ∃ stats after, solve source model settings clock patience journal = .ok stats after := by
  have hcomputes : settings.Computes clock journal.counters.total model.problem.nobj :=
    ⟨fun _ _ _ _ => hvalid.stop?_eq_ok _ _ _ _, fun k _ => hsteps k⟩
  obtain ⟨regularizer, hregularizer⟩ := hvalid.regularizer
  obtain ⟨stepSize, hstep⟩ := hvalid.stepSize
  obtain ⟨bound, hhorizon, hstops⟩ := hlimited.horizon clock journal.counters.total hnobj
  have hbound : bound ≤ settings.horizon?.getD patience := by
    rw [hhorizon, Option.getD_some]
  obtain ⟨last, -, -, after, -, hends, -⟩ := solve_ends hundisturbed hvalid.accepted hregularizer
    hstep hcomputes hstops hbound
  obtain ⟨stats, hrun⟩ := hends.exists_ok (hclock _)
  exact ⟨stats, after, hrun⟩

theorem answers_seesaw : seesaw.Answers where
  x0 := rfl
  weights := rfl
  value _ _ _ _ := ⟨_, rfl⟩
  gradient _ _ _ _ := ⟨_, rfl, .inl rfl⟩

/-- Settings without a limit on the iterations, and room for five evaluations. -/
def frugal : Settings Float :=
  { (Settings.initial : Settings Float) with
    learningRate := .text "constant", maxIter := .real Double.infinity, maxEval := .int 5 }

/-- The seesaw takes two evaluations in each iteration, so one too many. -/
theorem solve_terminates_seesaw : ∃ iterations after,
    EndsAfter (fun _ => 0.0) iterations after
        (solve (Orders.source 2) seesaw frugal (fun _ => 0.0) 0 unused)
      ∧ after.counters.total ≤ 7 := by
  have hundisturbed : Undisturbed (Orders.source 2) seesaw unused :=
    ⟨answers_seesaw, Orders.serves_listed (by decide) 2 0, permutes_unused, Counters.fits_empty 2⟩
  have hvalid : frugal.Valid :=
    ⟨rfl, ⟨_, rfl⟩, ⟨_, rfl⟩, ⟨_, rfl⟩, ⟨_, rfl⟩, ⟨_, rfl⟩, ⟨_, rfl⟩⟩
  have hsteps : ∀ k, (∀ j ≤ k, ¬StopsAt frugal (fun _ => 0.0) 0 2 j) → frugal.Steps k :=
    fun _ _ => ⟨⟨_, rfl⟩, _, _, rfl, rfl⟩
  have hlimited : frugal.Limited := .inr ⟨.int 5, 5, rfl, rfl, rfl⟩
  obtain ⟨iterations, after, hends, -, htotal⟩ := solve_terminates (by decide) hundisturbed hvalid
    hsteps hlimited
  have hle := htotal (.int 5) 5 rfl rfl rfl
  refine ⟨iterations, after, hends, ?_⟩
  change (after.counters.total : Int) ≤ 7 at hle
  omega

end Solver

end Multigrad
