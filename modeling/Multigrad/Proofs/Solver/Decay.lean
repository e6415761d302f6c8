import Multigrad.Proofs.Scalar.Exact
import Multigrad.Proofs.Solver.Descent
import Multigrad.Proofs.Solver.Independence
import Multigrad.Proofs.Solver.Trajectory
import Mathlib.Algebra.Order.Floor.Ring

/-!
# When an optimal schedule has decayed

In exact arithmetic, the step sizes of the optimal schedule are those of a hyperbola, which is below
any tolerance from some iteration on. The step size of an iteration is tested after it, and the
first test looks at the configured one, so a run that meets no other limit stops one iteration after
the last step that is not small, and never before its first iteration. Those of an inversely scaled
schedule fall as the powers rise that they are scaled by.
-/

namespace Multigrad

/-- The step size of iteration `k`. -/
def decay (alpha : Rat) (k : Nat) : Rat := 1 / (alpha * (1000 + k))

/-- The number of iterations until a step is below the tolerance. -/
def decayTime (alpha tol : Rat) : Int := max 1 (⌊1 / (alpha * tol)⌋ - 998)

theorem exists_decayTime (alpha tol : Rat) : ∃ K : Nat, decayTime alpha tol = K := by
  apply Int.eq_ofNat_of_zero_le
  rw [decayTime]
  omega

section Decay

variable {alpha tol : Rat} (halpha : 0 < alpha)

include halpha

theorem decay_pos (k : Nat) : 0 < decay alpha k := by
  have hoffset : (0 : Rat) < 1000 + k := by positivity
  exact one_div_pos.mpr (mul_pos halpha hoffset)

theorem decay_strictAnti : StrictAnti (decay alpha) := by
  intro k l hkl
  have hoffset : (0 : Rat) < 1000 + k := by positivity
  have hlt : (1000 + k : Rat) < 1000 + l := by
    rw [add_lt_add_iff_left, Nat.cast_lt]
    exact hkl
  exact one_div_lt_one_div_of_lt (mul_pos halpha hoffset) (mul_lt_mul_of_pos_left hlt halpha)

theorem decay_lt_iff (htol : 0 < tol) (k : Nat) :
    decay alpha k < tol ↔ decayTime alpha tol ≤ (k + 1 : Nat) := by
  have hoffset : (0 : Rat) < 1000 + k := by positivity
  calc decay alpha k < tol
      ↔ 1 / (alpha * tol) < 1000 + k := by
        rw [decay, div_lt_iff₀ (mul_pos halpha hoffset), div_lt_iff₀ (mul_pos halpha htol)]
        constructor <;> intro h <;> linarith
    _ ↔ ⌊1 / (alpha * tol)⌋ < 1000 + (k : Int) := by
        rw [Int.floor_lt]
        push_cast
        rfl
    _ ↔ decayTime alpha tol ≤ (k + 1 : Nat) := by
        rw [decayTime]
        omega

end Decay

/-! ### Schedules -/

namespace Settings

/-- An optimal schedule that begins above a positive tolerance. -/
structure Decays (settings : Settings Rat) (alpha tol : Rat) : Prop where
  alpha_pos : 0 < alpha
  tol_pos : 0 < tol
  learningRate : settings.learningRate = .text LearningRate.optimal.name
  alpha : settings.alpha.real? = .ok alpha
  stepTol : settings.stepTol.real? = .ok tol
  stepSize : ∃ g, settings.stepSize.real? = .ok g ∧ tol ≤ g

/-- No budget is exceeded in any test before this one. -/
def Unexhausted (settings : Settings Rat) (clock : Nat → Rat) (count nobj : Nat) (bound : Int) :
    Prop :=
  ∀ k : Nat, (k : Int) < bound → ¬settings.ExceedsTime (clock k)
    ∧ ¬settings.ExceedsEvaluations (count + 2 + k * nobj) ∧ ¬settings.ExceedsIterations k

variable {settings : Settings Rat} {alpha tol g : Rat}

theorem smallStep_iff_lt {step : Number Rat} (hstep : step.toReal = .ok g)
    (htol : settings.stepTol.real? = .ok tol) : settings.SmallStep step ↔ g < tol := by
  obtain ⟨tolerance, htolerance, hreal⟩ := bind_eq_ok.mp htol
  rw [← Number.less_iff_lt hstep hreal]
  constructor
  · rintro ⟨found, hfound, hless⟩
    obtain rfl := Except.ok.inj (htolerance.symm.trans hfound)
    exact hless
  · intro hless
    exact ⟨tolerance, htolerance, hless⟩

theorem small_stepBefore_iff [Completion Rat] {k : Nat} {step : Number Rat}
    (hstep : settings.stepBefore k = .ok step) (hreal : step.toReal = .ok g)
    (htol : settings.stepTol.real? = .ok tol) :
    (∃ step, settings.stepBefore k = .ok step ∧ settings.SmallStep step) ↔ g < tol := by
  rw [← smallStep_iff_lt hreal htol]
  constructor
  · rintro ⟨found, hfound, hsmall⟩
    obtain rfl := Except.ok.inj (hstep.symm.trans hfound)
    exact hsmall
  · intro hsmall
    exact ⟨step, hstep, hsmall⟩

namespace Decays

variable (hdecays : settings.Decays alpha tol)

include hdecays

theorem optimalStep_eq (k : Nat) : settings.optimalStep k = .ok (decay alpha k) := by
  have hoffset : (0 : Rat) < 1000 + k := by positivity
  have hproduct : alpha * (1e3 + ((k : Int) : Rat)) = alpha * (1000 + k) := by norm_num
  have hne : Scalar.same (alpha * (1e3 + ((k : Int) : Rat))) (0.0 : Rat) = false := by
    apply decide_eq_false
    rw [hproduct]
    norm_num
    exact ⟨hdecays.alpha_pos.ne', hoffset.ne'⟩
  have hdivide : Scalar.divide? (1.0 : Rat) (alpha * (1e3 + (k : Int))) = .ok (decay alpha k) := by
    rw [Scalar.divide?, hne, hproduct, decay]
    norm_num
  exact bind_eq_ok.mpr ⟨((k : Int) : Rat), rfl, bind_eq_ok.mpr ⟨alpha, hdecays.alpha, hdivide⟩⟩

variable [Completion Rat]

theorem scheduledStep_eq (k : Nat) :
    settings.scheduledStep k = .ok (.real (decay alpha k)) := by
  rw [scheduledStep, LearningRate.ofValue?_eq_some.mpr hdecays.learningRate]
  exact congrArg (Except.map Number.real) (hdecays.optimalStep_eq k)

theorem sizeIn_eq (k : Nat) : settings.sizeIn k = .ok (decay alpha k) :=
  bind_eq_ok.mpr ⟨.real (decay alpha k), hdecays.scheduledStep_eq k, rfl⟩

/-- A test finds a small step from the time on that the schedule needs to decay. -/
theorem smallStep_iff (k : Nat) :
    (∃ step, settings.stepBefore k = .ok step ∧ settings.SmallStep step)
      ↔ decayTime alpha tol ≤ k := by
  cases k with
  | zero =>
      -- The first test looks at the configured step size, whatever the schedule is.
      obtain ⟨g, hg, hle⟩ := hdecays.stepSize
      obtain ⟨first, hnumber, hreal⟩ := bind_eq_ok.mp hg
      have hfirst : settings.stepBefore 0 = .ok first := hnumber
      have hlate : ¬decayTime alpha tol ≤ (0 : Nat) := by
        rw [decayTime]
        omega
      rw [small_stepBefore_iff hfirst hreal hdecays.stepTol]
      exact iff_of_false hle.not_gt hlate
  | succ k =>
      have hscheduled : settings.stepBefore (k + 1) = .ok (.real (decay alpha k)) :=
        hdecays.scheduledStep_eq k
      have hreal : (Number.real (decay alpha k)).toReal = .ok (decay alpha k) := rfl
      rw [small_stepBefore_iff hscheduled hreal hdecays.stepTol,
        decay_lt_iff hdecays.alpha_pos hdecays.tol_pos]

/-- Up to that time, nothing else stops a run. -/
theorem stopsAt_iff {clock : Nat → Rat} {count nobj : Nat}
    (hbudgets : settings.Unexhausted clock count nobj (decayTime alpha tol)) (k : Nat) :
    Solver.StopsAt settings clock count nobj k ↔ decayTime alpha tol ≤ k := by
  rw [Solver.StopsAt, hdecays.smallStep_iff]
  constructor
  · rintro (hsmall | hexceeds)
    · exact hsmall
    · apply le_of_not_gt
      intro hlt
      obtain ⟨htime, heval, hiter⟩ := hbudgets k hlt
      exact hexceeds.elim htime fun hrest => hrest.elim heval hiter
  · exact Or.inl

end Decays

/-! ### Inversely scaled schedules -/

section Scales

variable [Completion Rat] {powers : Nat → Rat}

/-- An inversely scaled schedule, and what the numbers of the iterations become under its power. -/
structure Scales (settings : Settings Rat) (powers : Nat → Rat) : Prop where
  learningRate : settings.learningRate = .text LearningRate.invscaling.name
  power : ∃ exponent, exponent? settings.powerT = .ok exponent ∧
    ∀ k : Nat, Completion.power (k + 1) exponent = .ok (powers (k + 1))
  pos : ∀ k, 0 < powers (k + 1)

/-- Exact powers by an integer are such powers. -/
theorem scales_of_int {power : Int}
    (hrate : settings.learningRate = .text LearningRate.invscaling.name)
    (hpower : settings.powerT.number? = .ok (.int power))
    (hexact : ∀ k : Nat, Completion.power (k + 1) (.inl power) = .ok ((k + 1 : Rat) ^ power)) :
    settings.Scales fun k => (k : Rat) ^ power where
  learningRate := hrate
  power := by
    refine ⟨.inl power, bind_eq_ok.mpr ⟨_, hpower, rfl⟩, fun k => ?_⟩
    rw [hexact k, Nat.cast_succ]
  pos k := zpow_pos (Nat.cast_pos.mpr k.succ_pos) power

namespace Scales

variable (hscales : settings.Scales powers)

include hscales

theorem scheduledStep_eq (k : Nat) :
    settings.scheduledStep k = .ok (.real (1 / (100 * powers (k + 1)))) := by
  obtain ⟨exponent, hexponent, hpowers⟩ := hscales.power
  have hpos := hscales.pos k
  have hne : Scalar.same (powers (k + 1)) (0.0 : Rat) = false := by
    apply decide_eq_false
    norm_num
    exact hpos.ne'
  have hdivide : Scalar.divide? (1e-2 : Rat) (powers (k + 1)) =
      .ok (1 / (100 * powers (k + 1))) := by
    rw [Scalar.divide?, hne, ← div_div]
    norm_num
  have hscaled : settings.scaledStep k = .ok (1 / (100 * powers (k + 1))) :=
    bind_eq_ok.mpr ⟨exponent, hexponent, bind_eq_ok.mpr ⟨_, hpowers k, hdivide⟩⟩
  rw [scheduledStep, LearningRate.ofValue?_eq_some.mpr hscales.learningRate]
  exact congrArg (Except.map Number.real) hscaled

theorem sizeIn_eq (k : Nat) : settings.sizeIn k = .ok (1 / (100 * powers (k + 1))) :=
  bind_eq_ok.mpr ⟨_, hscales.scheduledStep_eq k, rfl⟩

/-- The schedule falls as the power rises. -/
theorem sizeIn_lt_iff (k l : Nat) {g h : Rat} (hg : settings.sizeIn k = .ok g)
    (hh : settings.sizeIn l = .ok h) : h < g ↔ powers (k + 1) < powers (l + 1) := by
  obtain rfl := Except.ok.inj ((hscales.sizeIn_eq k).symm.trans hg)
  obtain rfl := Except.ok.inj ((hscales.sizeIn_eq l).symm.trans hh)
  have hpos := hscales.pos
  rw [one_div_lt_one_div (by linarith [hpos l]) (by linarith [hpos k])]
  constructor <;> intro hlt <;> linarith

/-- After its first iteration, a run has a small step as soon as the power is large enough. -/
theorem smallStep_iff (htol : 0 < tol) (hstepTol : settings.stepTol.real? = .ok tol) (k : Nat) :
    (∃ step, settings.stepBefore (k + 1) = .ok step ∧ settings.SmallStep step)
      ↔ 1 / (100 * tol) < powers (k + 1) := by
  have hpos := hscales.pos k
  have hscheduled : settings.stepBefore (k + 1) = .ok (.real (1 / (100 * powers (k + 1)))) :=
    hscales.scheduledStep_eq k
  have hreal : (Number.real (1 / (100 * powers (k + 1)))).toReal =
      .ok (1 / (100 * powers (k + 1))) := rfl
  have hlt : 1 / (100 * powers (k + 1)) < tol ↔ 1 / (100 * tol) < powers (k + 1) := by
    rw [div_lt_iff₀ (by linarith), div_lt_iff₀ (by linarith)]
    constructor <;> intro h <;> linarith
  rw [small_stepBefore_iff hscheduled hreal hstepTol, hlt]

end Scales

end Scales

end Settings

/-! ### Runs -/

namespace Solver

section Run

variable [Completion Rat] {σ : Type} {alpha tol : Rat} {source : OrderSource σ}

section Loop

variable {plan : Plan Rat} {journal ending : Journal σ Rat} {last : Iterate Rat} {status : Status}

theorem Loop.ends_with_decay (hloop : Loop plan source journal last status ending)
    (hdecays : plan.settings.Decays alpha tol)
    (hpermutes : source.Permutes journal.orders plan.model.problem.nobj)
    (hfits : journal.counters.Fits plan.model.problem.nobj)
    (hbudgets : plan.settings.Unexhausted plan.clock journal.counters.total
      plan.model.problem.nobj (decayTime alpha tol)) :
    (last.iterations : Int) = decayTime alpha tol ∧ status = .smallStep := by
  obtain ⟨K, hK⟩ := exists_decayTime alpha tol
  have hstops := hdecays.stopsAt_iff hbudgets
  rw [hK] at hstops ⊢
  have hle : last.iterations ≤ K := by
    apply Nat.le_of_not_lt
    intro hlt
    exact hloop.passes.not_stopsAt hpermutes hfits hlt ((hstops K).mpr le_rfl)
  have hge : K ≤ last.iterations :=
    Int.ofNat_le.mp ((hstops _).mp (hloop.stopsAt hpermutes hfits))
  have hiterations : last.iterations = K := Nat.le_antisymm hle hge
  obtain ⟨step, hstep, hsmall⟩ := (hdecays.smallStep_iff last.iterations).mpr (by omega)
  obtain rfl := Except.ok.inj (hloop.passes.stepBefore.symm.trans hstep)
  have hverdict := hloop.passes.verdict hpermutes hfits hloop.stops
  exact ⟨congrArg Nat.cast hiterations, hverdict.status.1.mpr hsmall⟩

end Loop

variable {model : Model Rat} {settings : Settings Rat} {clock : Nat → Rat} {patience : Nat}
  {journal : Journal σ Rat}

/-- A limit on the iterations that is not met before the time of the decay leaves room for it. -/
theorem decayTime_le_horizon (hvalid : settings.Valid) {count nobj K : Nat}
    (hbudgets : settings.Unexhausted clock count nobj K) : K ≤ settings.horizon?.getD patience := by
  obtain ⟨limit, hlimit⟩ := hvalid.maxIter
  obtain ⟨n, hfloor⟩ := limit.exists_floor
  rw [Settings.horizon?_of_maxIter hlimit hfloor, Option.getD_some]
  cases K with
  | zero => exact Nat.zero_le _
  | succ k =>
      obtain ⟨-, -, hiter⟩ := hbudgets k (by omega)
      rw [Settings.exceedsIterations_iff_lt hlimit hfloor] at hiter
      omega

theorem returns_of_decays (hdecays : settings.Decays alpha tol)
    (hbudgets : settings.Unexhausted clock journal.counters.total model.problem.nobj
      (decayTime alpha tol))
    (hundisturbed : Undisturbed source model journal) (hvalid : settings.Valid)
    (hclock : ∀ k, Scalar.atMost 0.0 (clock k) = true) :
    ∃ stats after, solve source model settings clock patience journal = .ok stats after := by
  obtain ⟨K, hK⟩ := exists_decayTime alpha tol
  have hstops := (hdecays.stopsAt_iff hbudgets K).mpr hK.le
  rw [hK] at hbudgets
  obtain ⟨regularizer, hregularizer⟩ := hvalid.regularizer
  obtain ⟨stepSize, hstep⟩ := hvalid.stepSize
  have hcomputes : settings.Computes clock journal.counters.total model.problem.nobj :=
    ⟨fun _ _ _ _ => hvalid.stop?_eq_ok _ _ _ _,
      fun k _ => ⟨⟨alpha, hdecays.alpha⟩, _, _, hdecays.scheduledStep_eq k, rfl⟩⟩
  obtain ⟨last, -, -, after, -, hends, -⟩ := solve_ends hundisturbed hvalid.accepted hregularizer
    hstep hcomputes hstops (decayTime_le_horizon hvalid hbudgets)
  obtain ⟨stats, hrun⟩ := hends.exists_ok (hclock _)
  exact ⟨stats, after, hrun⟩

/-- **An optimal schedule decays in a known time.** Unless a budget is exceeded before, a run stops
with a small step after just so many iterations; the steps on its way are positive and become
strictly smaller with every iteration. A run returns where nothing that it uses fails. -/
theorem solve_decays (hdecays : settings.Decays alpha tol)
    (hpermutes : source.Permutes journal.orders model.problem.nobj)
    (hfits : journal.counters.Fits model.problem.nobj)
    (hbudgets : settings.Unexhausted clock journal.counters.total model.problem.nobj
      (decayTime alpha tol)) :
    (∀ stats after, solve source model settings clock patience journal = .ok stats after →
        (stats.iterations : Int) = decayTime alpha tol ∧ stats.status = .smallStep
          ∧ ∃ regularizer orders b, Plan.Traces ⟨model, settings, regularizer, clock⟩ orders b
            stats.iterations stats.solution stats.averagedSolution)
      ∧ (∀ k, settings.sizeIn k = .ok (decay alpha k) ∧ 0 < decay alpha k
        ∧ decay alpha (k + 1) < decay alpha k)
      ∧ (Undisturbed source model journal → settings.Valid →
        (∀ k, Scalar.atMost 0.0 (clock k) = true) →
        ∃ stats after, solve source model settings clock patience journal = .ok stats after) := by
  refine ⟨?_, ?_, returns_of_decays hdecays hbudgets⟩
  · intro stats after hrun
    obtain ⟨regularizer, last, status, ending, hloop, -, hiterations, hstatus, -⟩ := solve_loop hrun
    obtain ⟨hdecayed, hsmall⟩ := hloop.ends_with_decay hdecays hpermutes hfits hbudgets
    obtain ⟨penalty, state, orders, b, -, -, -, htraces⟩ := solve_traces hpermutes hrun
    exact ⟨by rw [hiterations, hdecayed], hstatus.trans hsmall, penalty, orders, b, htraces⟩
  · intro k
    exact ⟨hdecays.sizeIn_eq k, decay_pos hdecays.alpha_pos k,
      decay_strictAnti hdecays.alpha_pos k.lt_succ_self⟩

end Run

section Hyperbolic

attribute [local instance] standIn

/-- Steps from one thousandth on, with the second of them as the tolerance. -/
def hyperbolic : Settings Rat :=
  { halving with
    learningRate := .text "optimal", alpha := .real 1, stepTol := .real (1 / 1001) }

theorem decays_hyperbolic : hyperbolic.Decays 1 (1 / 1001) :=
  ⟨by norm_num, by norm_num, rfl, rfl, rfl, 1 / 2, rfl, by norm_num⟩

theorem decayTime_hyperbolic : decayTime 1 (1 / 1001) = 3 := by
  rw [decayTime]
  norm_num

theorem unexhausted_hyperbolic : hyperbolic.Unexhausted (fun _ => 0) 0 2 3 := by
  have hwithin : Number.less (.real (60.0 : Rat)) (.real 0) = false := by decide +kernel
  intro k hk
  refine ⟨?_, ?_, ?_⟩
  · rintro ⟨limit, hlimit, hless⟩
    cases hlimit
    rw [hwithin] at hless
    cases hless
  · rintro ⟨limit, hlimit, hpos, -⟩
    cases hlimit
    cases hpos
  · rintro ⟨limit, hlimit, hless⟩
    cases hlimit
    have hexceeded : (1000 : Int) < k := of_decide_eq_true hless
    omega

/-- The third step is the first one below the tolerance. -/
theorem solve_decays_hyperbolic : ∃ stats after,
    solve (Orders.source 2) lopsided hyperbolic (fun _ => 0) 0 (unvisited [0, 1]) = .ok stats after
      ∧ stats.iterations = 3 ∧ stats.status = .smallStep := by
  have hanswers : lopsided.Answers := Linear.answers rfl (by decide) rfl rfl
  have hpermutes : (Orders.source 2).Permutes (unvisited [0, 1]).orders 2 :=
    Orders.permutes_listed (by decide)
  have hundisturbed : Undisturbed (Orders.source 2) lopsided (unvisited [0, 1]) :=
    ⟨hanswers, Orders.serves_listed (by decide) 2 0, hpermutes, Counters.fits_empty 2⟩
  have hpositive : Scalar.atMost (1 : Rat) 0.0 = false := by decide +kernel
  have haccepted : validate hyperbolic = .ok () := by
    change (if Scalar.atMost (1 : Rat) 0.0 then _ else _) = _
    rw [hpositive]
    rfl
  have hvalid : hyperbolic.Valid :=
    ⟨haccepted, ⟨_, rfl⟩, ⟨_, rfl⟩, ⟨_, rfl⟩, ⟨_, rfl⟩, ⟨_, rfl⟩, ⟨_, rfl⟩⟩
  have hclock : Scalar.atMost (0.0 : Rat) 0 = true := by decide +kernel
  have hbudgets : hyperbolic.Unexhausted (fun _ => 0) (unvisited [0, 1]).counters.total
      lopsided.problem.nobj (decayTime 1 (1 / 1001)) :=
    decayTime_hyperbolic ▸ unexhausted_hyperbolic
  obtain ⟨hstops, -, hreturns⟩ :=
    solve_decays decays_hyperbolic hpermutes (Counters.fits_empty 2) hbudgets
  obtain ⟨stats, after, hrun⟩ := hreturns hundisturbed hvalid fun _ => hclock
  obtain ⟨hiterations, hstatus, -⟩ := hstops stats after hrun
  rw [decayTime_hyperbolic] at hiterations
  exact ⟨stats, after, hrun, Int.ofNat_inj.mp hiterations, hstatus⟩

end Hyperbolic

end Solver

end Multigrad
