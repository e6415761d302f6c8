import Multigrad.Proofs.Solver.Course
import Multigrad.Proofs.Solver.Independence

/-!
# Runs that go on where another one ended

With a constant step size, an iteration takes over from the one before nothing but the point. So a
run that starts at the solution of another one does what that one would have done next, and both
together are a single run.
-/

namespace Multigrad

/-- A run from here is given these orders before any other. -/
def OrderSource.Supplies {σ : Type} (source : OrderSource σ) (initial : σ)
    (orders : List (List Int)) : Prop :=
  ∃ state after, source.start initial = .ok state ∧ source.Gives state orders after

def Model.startingAt {R : Type} (model : Model R) (x0 : List R) : Model R :=
  { model with problem := { model.problem with x0 } }

/-- The whole problem can be evaluated where a run begins. -/
def Model.Starts {R : Type} [Scalar R] (model : Model R) : Prop :=
  (∃ value, model.total (Grid.ofList model.problem.x0) = .ok value)
    ∧ ∃ slope, model.totalGradient (Grid.ofList model.problem.x0) = .ok slope

/-! ### Lengths -/

namespace Solver

theorem combine_length {R : Type} {f : R → R → R} {a b c : List R}
    (hcombine : combine f a b = .ok c) : c.length = a.length ∨ a.length = 1 := by
  unfold combine at hcombine
  split at hcombine
  · rename_i heq
    obtain rfl := Except.ok.inj hcombine
    exact .inl (length_zipWith_of_length rfl heq.symm)
  · split at hcombine
    · exact .inr rfl
    · obtain rfl := Except.ok.inj hcombine
      rw [List.length_map]
      exact .inl rfl
    · cases hcombine

namespace Plan

variable {R : Type} [Scalar R] {plan : Plan R} {stepSize : Number R}

theorem target_length {point next : List R} {index : Int}
    (htarget : plan.target stepSize point index = .ok next) :
    next.length = point.length ∨ point.length = 1 := by
  obtain ⟨pulled, -, hrest⟩ := bind_eq_ok.mp htarget
  obtain ⟨gradient, -, hmove⟩ := bind_eq_ok.mp hrest
  obtain ⟨slope, -, hstep⟩ := bind_eq_ok.mp (mapError_eq_ok.mp hmove)
  obtain ⟨size, -, hcombine⟩ := bind_eq_ok.mp hstep
  exact combine_length hcombine

/-- A tour that ends has kept the point and the sum of the points the same length. -/
theorem tour_length {order : List Int} {point sum last total : List R}
    (htour : plan.tour stepSize order point sum = .ok (last, total))
    (hlength : point.length = sum.length) : last.length = total.length := by
  induction order generalizing point sum with
  | nil =>
      obtain ⟨rfl, rfl⟩ := Prod.mk.inj (Except.ok.inj htour)
      exact hlength
  | cons index rest ih =>
      obtain ⟨next, htarget, hrest⟩ := bind_eq_ok.mp htour
      obtain ⟨added, hadd, htail⟩ := bind_eq_ok.mp hrest
      apply ih htail
      -- Only a point with a single entry can grow, and then it cannot be added onto the sum.
      have hnext := target_length htarget
      have hadded := Model.addOnto_length (mapError_eq_ok.mp hadd)
      omega

variable [Completion R]

theorem course_length {orders : List (List Int)} {current last : Iterate R}
    (hcourse : plan.course orders current = .ok last)
    (hlength : current.point.length = current.average.length) :
    last.point.length = last.average.length := by
  induction orders generalizing current with
  | nil =>
      obtain rfl := Except.ok.inj hcourse
      exact hlength
  | cons order rest ih =>
      obtain ⟨next, hround, hrest⟩ := bind_eq_ok.mp hcourse
      obtain ⟨stepSize, point, sum, -, htour, rfl⟩ := round_eq_ok.mp hround
      apply ih hrest
      rw [List.length_map]
      exact tour_length htour (by rw [List.length_map, hlength])

end Plan

/-! ### What an iteration takes over -/

variable {R : Type}

def Iterate.later (current : Iterate R) (iterations : Nat) : Iterate R :=
  { current with iterations := iterations + current.iterations }

variable [Scalar R] [Completion R]

theorem nextStep_of_constant {settings : Settings R}
    (hrate : settings.learningRate = .text LearningRate.constant.name) (k : Nat)
    (step : Number R) : settings.nextStep k step = .ok step := by
  rw [Settings.nextStep, LearningRate.ofValue?_eq_some.mpr hrate]

namespace Plan

variable {plan : Plan R}

/-- Of the average of an iterate, the next iteration looks at the length only. -/
theorem round_average {order : List Int} {current : Iterate R} {average : List R}
    (hlength : average.length = current.average.length) :
    plan.round order { current with average } = plan.round order current := by
  have hzeros : average.map (fun _ => (0.0 : R)) = current.average.map fun _ => 0.0 := by
    rw [List.map_const', List.map_const', hlength]
  rw [round, round, hzeros]

theorem course_startingAt {model : Model R} {settings : Settings R} {regularizer : Regularizer R}
    {clock : Nat → R} (x0 : List R) :
    Plan.course ⟨model.startingAt x0, settings, regularizer, clock⟩
      = Plan.course ⟨model, settings, regularizer, clock⟩ := course_congr rfl rfl rfl

theorem course_average {orders : List (List Int)} (horders : orders ≠ []) {current : Iterate R}
    {average : List R} (hlength : average.length = current.average.length) :
    plan.course orders { current with average } = plan.course orders current := by
  cases orders with
  | nil => exact absurd rfl horders
  | cons order rest => rw [course, course, round_average hlength]

section Constant

variable (hrate : plan.settings.learningRate = .text LearningRate.constant.name)

include hrate

theorem round_later (order : List Int) (current : Iterate R) (iterations : Nat) :
    plan.round order (current.later iterations)
      = (plan.round order current).map (·.later iterations) := by
  rw [round, round, nextStep_of_constant hrate, nextStep_of_constant hrate]
  let zeros := current.average.map fun _ => (0.0 : R)
  change plan.tour current.stepSize order current.point zeros >>= _
    = Except.map _ (plan.tour current.stepSize order current.point zeros >>= _)
  cases plan.tour current.stepSize order current.point zeros with
  | error failure => rfl
  | ok swept => rfl

/-- With a constant step size it does not matter how many iterations there were before. -/
theorem course_later (orders : List (List Int)) (current : Iterate R) (iterations : Nat) :
    plan.course orders (current.later iterations)
      = (plan.course orders current).map (·.later iterations) := by
  induction orders generalizing current with
  | nil => rfl
  | cons order rest ih =>
      rw [course, course, round_later hrate]
      cases plan.round order current with
      | error failure => rfl
      | ok next => exact ih next

theorem course_stepSize {orders : List (List Int)} {current last : Iterate R}
    (hcourse : plan.course orders current = .ok last) : last.stepSize = current.stepSize := by
  induction orders generalizing current with
  | nil =>
      obtain rfl := Except.ok.inj hcourse
      rfl
  | cons order rest ih =>
      obtain ⟨next, hround, hrest⟩ := bind_eq_ok.mp hcourse
      obtain ⟨stepSize, point, sum, hnext, -, rfl⟩ := round_eq_ok.mp hround
      rw [nextStep_of_constant hrate] at hnext
      rw [ih hrest, Except.ok.inj hnext]

/-- A course goes on from where it is as another one does that starts there. -/
theorem course_resumes {first second : List (List Int)} (hsecond : second ≠ [])
    {stepSize : Number R} {middle : Iterate R}
    (hfirst : plan.course first (initialIterate plan.model stepSize) = .ok middle) :
    plan.course (first ++ second) (initialIterate plan.model stepSize)
      = (plan.course second (initialIterate (plan.model.startingAt middle.point) stepSize)).map
          (·.later middle.iterations) := by
  have hlength : middle.average.length = middle.point.length :=
    (course_length hfirst rfl).symm
  have hstep : middle.stepSize = stepSize := course_stepSize hrate hfirst
  have hmiddle : middle = Iterate.later
      { initialIterate (plan.model.startingAt middle.point) stepSize with
        average := middle.average } middle.iterations := by
    rw [← hstep]
    rfl
  calc plan.course (first ++ second) (initialIterate plan.model stepSize)
      = plan.course second middle := by
        rw [course_append, hfirst]
        rfl
    _ = (plan.course second { initialIterate (plan.model.startingAt middle.point) stepSize with
          average := middle.average }).map (·.later middle.iterations) := by
        rw [← course_later hrate, ← hmiddle]
    _ = _ := by
        rw [course_average hsecond]
        exact hlength

end Constant

end Plan

end Solver

/-! ### Runs that end by a limit on the iterations -/

namespace Settings

variable {R : Type} [Scalar R]

omit [Scalar R] in
def withMaxIter (settings : Settings R) (limit : Nat) : Settings R :=
  { settings with maxIter := .int limit }

/-- Settings of a run that nothing but its time and a limit on the iterations can stop. -/
structure Steady (settings : Settings R) : Prop where
  learningRate : settings.learningRate = .text LearningRate.constant.name
  maxEval : settings.maxEval = .int 0
  stepSize : ∀ step, settings.stepSize.number? = .ok step → ¬settings.SmallStep step

theorem stepTol_of_stop? {settings : Settings R} {elapsed : R} {count iteration : Nat}
    {step : Number R} {verdict : Option Status}
    (hstop : settings.stop? elapsed count iteration step = .ok verdict) :
    ∃ tolerance, settings.stepTol.number? = .ok tolerance := by
  obtain ⟨exhausted, -, hrest⟩ := bind_eq_ok.mp hstop
  obtain ⟨small, hconverged, -⟩ := bind_eq_ok.mp hrest
  obtain ⟨tolerance, htolerance, -⟩ := bind_eq_ok.mp hconverged
  exact ⟨tolerance, htolerance⟩

namespace Steady

variable {settings : Settings R} (hsteady : settings.Steady)

include hsteady

theorem converged_eq {tolerance step : Number R}
    (htolerance : settings.stepTol.number? = .ok tolerance)
    (hstep : settings.stepSize.number? = .ok step) : settings.converged step = .ok false := by
  refine bind_eq_ok.mpr ⟨tolerance, htolerance, congrArg Except.ok ?_⟩
  rw [← Bool.not_eq_true]
  intro hless
  exact hsteady.stepSize step hstep ⟨tolerance, htolerance, hless⟩

theorem exhausted?_eq {clock : Nat → R} {limit : Nat} (hlimit : settings.maxIter = .int limit)
    (htime : settings.WithinTime clock) (count k : Nat) :
    settings.exhausted? (clock k) count k = .ok (if limit < k then some .maxIter else none) := by
  obtain ⟨maxTime, hmaxTime, hwithin⟩ := htime
  have hexceeded : settings.exceedsEvaluations count = .ok false := by
    rw [exceedsEvaluations, hsteady.maxEval]
    rfl
  have hless : Number.less (.int limit : Number R) (.int k) = decide (limit < k) :=
    decide_eq_decide.mpr Int.ofNat_lt
  refine bind_eq_ok.mpr ⟨maxTime, hmaxTime, ?_⟩
  rw [hwithin k, hexceeded, hlimit]
  change (if Number.less (.int limit : Number R) (.int k) then _ else _) = _
  rw [hless]
  by_cases hexceeds : limit < k
  · rw [if_pos hexceeds, if_pos (decide_eq_true hexceeds)]
    rfl
  · rw [if_neg hexceeds, if_neg (by rwa [decide_eq_true_iff])]
    rfl

theorem stop?_eq {clock : Nat → R} {limit : Nat} (hlimit : settings.maxIter = .int limit)
    (htime : settings.WithinTime clock) {tolerance step : Number R}
    (htolerance : settings.stepTol.number? = .ok tolerance)
    (hstep : settings.stepSize.number? = .ok step) (count k : Nat) :
    settings.stop? (clock k) count k step = .ok (if limit < k then some .maxIter else none) :=
  bind_eq_ok.mpr ⟨_, hsteady.exhausted?_eq hlimit htime count k,
    bind_eq_ok.mpr ⟨false, hsteady.converged_eq htolerance hstep, rfl⟩⟩

theorem stepBefore_eq [Completion R] (k : Nat) :
    settings.stepBefore k = settings.stepSize.number? := by
  apply stepBefore_of_constant
  intro iteration
  rw [scheduledStep, LearningRate.ofValue?_eq_some.mpr hsteady.learningRate]

end Steady

end Settings

namespace Solver

variable {σ R : Type} [Scalar R] [Completion R]

namespace Plan

variable {plan : Plan R} {limit : Nat} {source : OrderSource σ}
  {journal middle ending : Journal σ R} {current last : Iterate R} {status : Status}
  {orders : List (List Int)}
  (hsteady : plan.settings.Steady) (hlimit : plan.settings.maxIter = .int limit)
  (htime : plan.settings.WithinTime plan.clock)

include hsteady hlimit htime

theorem Passes.stop?_of_steady (hpasses : plan.Passes source journal current middle)
    {tolerance : Number R} (htolerance : plan.settings.stepTol.number? = .ok tolerance) :
    plan.stop? current middle
      = .ok (if limit < current.iterations then some .maxIter else none) middle := by
  have hstep := hpasses.stepBefore
  rw [hsteady.stepBefore_eq] at hstep
  exact stop?_eq_ok.mpr ⟨hsteady.stop?_eq hlimit htime htolerance hstep _ _, rfl⟩

theorem iterations_of_steady (hloop : Loop plan source journal last status ending) :
    last.iterations = limit + 1 ∧ ∃ tolerance, plan.settings.stepTol.number? = .ok tolerance := by
  obtain ⟨tolerance, htolerance⟩ := Settings.stepTol_of_stop? (stop?_eq_ok.mp hloop.stops).1
  refine ⟨?_, tolerance, htolerance⟩
  have hstops := hloop.stops
  rw [hloop.passes.stop?_of_steady hsteady hlimit htime htolerance] at hstops
  obtain ⟨hverdict, -⟩ := EStateM.Result.ok.inj hstops
  have hexceeds : limit < last.iterations := by
    by_contra hwithin
    rw [if_neg hwithin] at hverdict
    cases hverdict
  apply Nat.le_antisymm _ hexceeds
  -- A run that goes on after one iteration too many has passed a test that it fails.
  apply Nat.le_of_not_lt
  intro hlt
  obtain ⟨earlier, mid, -, -, hearlier, hcount, hgoesOn, -⟩ := hloop.passes.before hlt
  rw [hearlier.stop?_of_steady hsteady hlimit htime htolerance,
    if_pos (hcount ▸ Nat.lt_succ_self _)] at hgoesOn
  cases hgoesOn

theorem loop_iff_course (hsupplies : source.Supplies journal.orders orders)
    (hlength : orders.length = limit + 1) :
    (∃ status ending, Loop plan source journal last status ending) ↔
      (∃ tolerance, plan.settings.stepTol.number? = .ok tolerance)
        ∧ ∃ stepSize, plan.settings.stepSize.number? = .ok stepSize
          ∧ plan.course orders (initialIterate plan.model stepSize) = .ok last := by
  obtain ⟨state, after, hstart, hgives⟩ := hsupplies
  constructor
  · rintro ⟨status, ending, hloop⟩
    obtain ⟨hcount, htolerance⟩ := iterations_of_steady hsteady hlimit htime hloop
    obtain ⟨state', stepSize, given, hstart', hstep, hgiven, hcourse⟩ := hloop.passes.course
    obtain rfl := Except.ok.inj (hstart.symm.trans hstart')
    have hsame : given.length = orders.length := by
      have hiterations := course_iterations hcourse
      rw [initialIterate, Nat.zero_add] at hiterations
      rw [hlength, ← hcount, hiterations]
    obtain rfl := hgiven.unique hgives hsame
    exact ⟨htolerance, stepSize, hstep, hcourse⟩
  · rintro ⟨⟨tolerance, htolerance⟩, stepSize, hstep, hcourse⟩
    have hgoesOn : ∀ earlier mid, plan.Passes source journal earlier mid →
        earlier.iterations < orders.length → plan.stop? earlier mid = .ok none mid := by
      intro earlier mid hearlier hlt
      rw [hearlier.stop?_of_steady hsteady hlimit htime htolerance, if_neg (by omega)]
    obtain ⟨ending, hpasses, -⟩ := passes_of_course hstart hstep hgives hcourse hgoesOn
    have hcount : last.iterations = limit + 1 := by
      rw [course_iterations hcourse, initialIterate, Nat.zero_add, hlength]
    refine ⟨.maxIter, ending, hpasses, ?_⟩
    rw [hpasses.stop?_of_steady hsteady hlimit htime htolerance, if_pos (by omega)]

end Plan

/-- Nothing keeps a run from its first iteration, and these orders lead it to an iterate. -/
structure Completes (model : Model R) (settings : Settings R) (penalty : Regularizer R)
    (orders : List (List Int)) (last : Iterate R) : Prop where
  opening : ∃ value slope, Opening model settings penalty value slope
  tolerance : ∃ tolerance, settings.stepTol.number? = .ok tolerance
  course : ∃ stepSize, settings.stepSize.number? = .ok stepSize
    ∧ Plan.course ⟨model, settings, penalty, fun _ => 0.0⟩ orders (initialIterate model stepSize)
      = .ok last

theorem Completes.regularizer_eq {model : Model R} {settings : Settings R}
    {penalty : Regularizer R} {orders : List (List Int)} {last : Iterate R}
    (hcompletes : Completes model settings penalty orders last) :
    settings.regularizer = .ok penalty := by
  obtain ⟨value, slope, hopening⟩ := hcompletes.opening
  exact hopening.regularizer

/-- A run returns, and with these solutions. -/
def Returns (result : EStateM.Result (Failure R) (Journal σ R) (Stats R))
    (solution averaged : List R) : Prop :=
  ∃ stats after, result = .ok stats after ∧ stats.solution = solution
    ∧ stats.averagedSolution = averaged

theorem returns_iff_completes {source : OrderSource σ} {model : Model R} {settings : Settings R}
    {clock : Nat → R} {patience limit : Nat} {journal : Journal σ R} {orders : List (List Int)}
    {solution averaged : List R} (hsteady : settings.Steady) (htime : settings.Timely clock)
    (hsupplies : source.Supplies journal.orders orders) (hlength : orders.length = limit + 1) :
    Returns (solve source model (settings.withMaxIter limit) clock patience journal) solution
        averaged ↔
      ∃ regularizer last, Completes model settings regularizer orders last
        ∧ last.point = solution ∧ last.average = averaged := by
  have hsteady' : (settings.withMaxIter limit).Steady :=
    ⟨hsteady.learningRate, hsteady.maxEval, hsteady.stepSize⟩
  have hwithin : (settings.withMaxIter limit).WithinTime clock := htime.within
  have hcourse (regularizer : Regularizer R) :
      Plan.course ⟨model, settings.withMaxIter limit, regularizer, clock⟩
        = Plan.course ⟨model, settings, regularizer, fun _ => 0.0⟩ :=
    Plan.course_congr rfl rfl rfl
  constructor
  · rintro ⟨stats, after, hrun, rfl, rfl⟩
    obtain ⟨regularizer, objective, gradient, last, status, ending, hopening, hloop, -, -, rfl,
      -⟩ := solve_eq_ok_iff_loop.mp hrun
    obtain ⟨htolerance, stepSize, hstep, hleads⟩ :=
      (Plan.loop_iff_course hsteady' rfl hwithin hsupplies hlength).mp ⟨status, ending, hloop⟩
    rw [hcourse] at hleads
    exact ⟨regularizer, last,
      ⟨⟨objective, gradient, hopening.accepted, hopening.regularizer, hopening.objective,
        hopening.gradient⟩, htolerance, stepSize, hstep, hleads⟩, rfl, rfl⟩
  · rintro ⟨regularizer, last, ⟨⟨objective, gradient, hopening⟩, htolerance, stepSize, hstep,
      hleads⟩, rfl, rfl⟩
    rw [← hcourse] at hleads
    obtain ⟨status, ending, hloop⟩ :=
      (Plan.loop_iff_course hsteady' rfl hwithin hsupplies hlength).mpr
        ⟨htolerance, stepSize, hstep, hleads⟩
    have hle : last.iterations ≤ (settings.withMaxIter limit).horizon?.getD patience := by
      have hread : (settings.withMaxIter limit).maxIter.number? = .ok (.int limit) := rfl
      rw [Settings.horizon?_of_maxIter hread rfl, Option.getD_some,
        (Plan.iterations_of_steady hsteady' rfl hwithin hloop).1]
      omega
    have hopening' : Opening model (settings.withMaxIter limit) regularizer objective gradient :=
      ⟨hopening.accepted, hopening.regularizer, hopening.objective, hopening.gradient⟩
    have hrun := solve_eq_ok_iff_loop.mpr ⟨regularizer, objective, gradient, last, status, ending,
      hopening', hloop, hle, htime.nonneg _, rfl, rfl⟩
    exact ⟨_, _, hrun, rfl, rfl⟩

/-! ### One run and two -/

section Resume

variable {model : Model R} {settings : Settings R} {regularizer : Regularizer R}
  {first second : List (List Int)} {middle last : Iterate R}
  (hrate : settings.learningRate = .text LearningRate.constant.name) (hsecond : second ≠ [])

include hrate hsecond

theorem Completes.append (hfirst : Completes model settings regularizer first middle)
    (hrest : Completes (model.startingAt middle.point) settings regularizer second last) :
    Completes model settings regularizer (first ++ second) (last.later middle.iterations) := by
  obtain ⟨stepSize, hstep, hcourse⟩ := hfirst.course
  obtain ⟨stepSize', hstep', hcourse'⟩ := hrest.course
  obtain rfl := Except.ok.inj (hstep.symm.trans hstep')
  refine ⟨hfirst.opening, hfirst.tolerance, stepSize, hstep, ?_⟩
  rw [Plan.course_startingAt] at hcourse'
  exact (Plan.course_resumes hrate hsecond hcourse).trans (map_eq_ok.mpr ⟨last, hcourse', rfl⟩)

theorem Completes.split (hwhole : Completes model settings regularizer (first ++ second) last) :
    ∃ middle, Completes model settings regularizer first middle
      ∧ ((model.startingAt middle.point).Starts →
        ∃ last', Completes (model.startingAt middle.point) settings regularizer second last'
          ∧ last = last'.later middle.iterations) := by
  obtain ⟨⟨objective, gradient, hopening⟩, htolerance, stepSize, hstep, hcourse⟩ := hwhole
  obtain ⟨middle, hmiddle, -⟩ := bind_eq_ok.mp ((Plan.course_append _ _ _).symm.trans hcourse)
  refine ⟨middle, ⟨⟨objective, gradient, hopening⟩, htolerance, stepSize, hstep, hmiddle⟩, ?_⟩
  rintro ⟨⟨value, hvalue⟩, slope, hslope⟩
  rw [Plan.course_resumes hrate hsecond hmiddle] at hcourse
  obtain ⟨last', hlast', rfl⟩ := map_eq_ok.mp hcourse
  rw [← Plan.course_startingAt middle.point] at hlast'
  exact ⟨last', ⟨⟨value, slope, hopening.accepted, hopening.regularizer, hvalue, hslope⟩,
    htolerance, stepSize, hstep, hlast'⟩, rfl⟩

end Resume

/-- **A run with a constant step size can be split and resumed.** A run that starts at the solution
of another one, and is given the orders that come next, returns what a single run does that makes
the iterations of both. Where the single run returns, so does the first one, and the second one,
too, if its model can be evaluated where it starts. -/
theorem solve_resumes {σ' σ'' : Type} {source : OrderSource σ} {source' : OrderSource σ'}
    {source'' : OrderSource σ''} {model : Model R} {settings : Settings R}
    {clock clock' clock'' : Nat → R} {patience a b : Nat} {journal : Journal σ R}
    {journal' : Journal σ' R} {journal'' : Journal σ'' R} {first second : List (List Int)}
    (hsteady : settings.Steady) (htime : settings.Timely clock) (htime' : settings.Timely clock')
    (htime'' : settings.Timely clock'') (hfirst : first.length = a + 1)
    (hsecond : second.length = b + 1) (hsupplies : source.Supplies journal.orders first)
    (hsupplies' : source'.Supplies journal'.orders second)
    (hsupplies'' : source''.Supplies journal''.orders (first ++ second)) :
    (∀ middle average solution averaged,
        Returns (solve source model (settings.withMaxIter a) clock patience journal) middle
          average →
        Returns (solve source' (model.startingAt middle) (settings.withMaxIter b) clock' patience
          journal') solution averaged →
        Returns (solve source'' model (settings.withMaxIter (a + b + 1)) clock'' patience journal'')
          solution averaged)
      ∧ ∀ solution averaged,
        Returns (solve source'' model (settings.withMaxIter (a + b + 1)) clock'' patience journal'')
          solution averaged →
        ∃ middle average,
          Returns (solve source model (settings.withMaxIter a) clock patience journal) middle
              average
            ∧ ((model.startingAt middle).Starts →
              Returns (solve source' (model.startingAt middle) (settings.withMaxIter b) clock'
                patience journal') solution averaged) := by
  have hboth : (first ++ second).length = a + b + 1 + 1 := by
    rw [List.length_append]
    omega
  have hne : second ≠ [] := List.ne_nil_of_length_eq_add_one hsecond
  constructor
  · intro middle average solution averaged hpart hpart'
    rw [returns_iff_completes hsteady htime hsupplies hfirst] at hpart
    rw [returns_iff_completes hsteady htime' hsupplies' hsecond] at hpart'
    rw [returns_iff_completes hsteady htime'' hsupplies'' hboth]
    obtain ⟨regularizer, mid, hmid, rfl, rfl⟩ := hpart
    obtain ⟨regularizer', last, hlast, rfl, rfl⟩ := hpart'
    obtain rfl := Except.ok.inj (hmid.regularizer_eq.symm.trans hlast.regularizer_eq)
    exact ⟨regularizer, _, hmid.append hsteady.learningRate hne hlast, rfl, rfl⟩
  · intro solution averaged hwhole
    rw [returns_iff_completes hsteady htime'' hsupplies'' hboth] at hwhole
    obtain ⟨regularizer, last, hlast, rfl, rfl⟩ := hwhole
    obtain ⟨mid, hmid, hrest⟩ := hlast.split hsteady.learningRate hne
    refine ⟨mid.point, mid.average, ?_, ?_⟩
    · rw [returns_iff_completes hsteady htime hsupplies hfirst]
      exact ⟨regularizer, mid, hmid, rfl, rfl⟩
    · intro hstarts
      rw [returns_iff_completes hsteady htime' hsupplies' hsecond]
      obtain ⟨last', hlast', rfl⟩ := hrest hstarts
      exact ⟨regularizer, last', hlast', rfl, rfl⟩

/-- Settings of a constant step size, without a limit on evaluations. -/
def unhurried : Settings Float :=
  { (Settings.initial : Settings Float) with learningRate := .text "constant" }

/-- The journal after a run of one iteration, if it counted nothing. -/
def usedOnce : Journal (Orders Float) Float := { unused with orders := .listed [[1, 0], [0, 1]] 1 }

/-- One iteration of the seesaw, and two that go on from there. -/
theorem solve_resumes_seesaw : ∃ middle average solution averaged,
    Returns (solve (Orders.source 2) seesaw (unhurried.withMaxIter 0) (fun _ => 0.0) 0 unused)
        middle average
      ∧ Returns (solve (Orders.source 2) (seesaw.startingAt middle) (unhurried.withMaxIter 1)
          (fun _ => 0.0) 0 usedOnce) solution averaged
      ∧ Returns (solve (Orders.source 2) seesaw (unhurried.withMaxIter 2) (fun _ => 0.0) 0 unused)
          solution averaged := by
  have hless : Number.less (.real (60.0 : Float)) (.real 0.0) = false := by decide +kernel
  have hclock : Scalar.atMost (0.0 : Float) 0.0 = true := by decide +kernel
  have htime : unhurried.Timely fun _ => 0.0 :=
    ⟨⟨.real 60.0, rfl, fun _ => hless⟩, fun _ => hclock⟩
  have htolerance : Number.less (.real (1e-2 : Float)) (.real 1e-6) = false := by decide +kernel
  have hsteady : unhurried.Steady := by
    refine ⟨rfl, rfl, ?_⟩
    rintro step hstep ⟨tolerance, hread, hless⟩
    obtain rfl := Except.ok.inj hstep
    obtain rfl := Except.ok.inj hread
    rw [htolerance] at hless
    cases hless
  have hlength : [[(1 : Int), 0]].length = 0 + 1 := rfl
  have hlength' : [[(0 : Int), 1], [1, 0]].length = 1 + 1 := rfl
  have hfirst : (Orders.source 2).Supplies unused.orders [[1, 0]] :=
    ⟨_, _, rfl, _, rfl, rfl⟩
  have hsecond : (Orders.source 2).Supplies usedOnce.orders [[0, 1], [1, 0]] :=
    ⟨_, _, rfl, _, rfl, _, rfl, rfl⟩
  have hwhole : (Orders.source 2).Supplies unused.orders [[1, 0], [0, 1], [1, 0]] :=
    ⟨_, _, rfl, _, rfl, _, rfl, _, rfl, rfl⟩
  have hreturns : Run.read? Stats.iterations
      (solve (Orders.source 2) seesaw (unhurried.withMaxIter 2) (fun _ => 0.0) 0) unused =
        some 3 := by decide +kernel
  obtain ⟨stats, after, hrun, -⟩ := Run.exists_ok_of_read? hreturns
  have hreturned : Returns (solve (Orders.source 2) seesaw (unhurried.withMaxIter (0 + 1 + 1))
      (fun _ => 0.0) 0 unused) stats.solution stats.averagedSolution :=
    ⟨stats, after, hrun, rfl, rfl⟩
  obtain ⟨middle, average, hpart, hrest⟩ := (solve_resumes hsteady htime htime htime hlength
    hlength' hfirst hsecond hwhole).2 _ _ hreturned
  exact ⟨middle, average, stats.solution, stats.averagedSolution, hpart,
    hrest ⟨⟨_, rfl⟩, _, rfl⟩, hreturned⟩

end Solver

end Multigrad
