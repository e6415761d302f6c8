import Multigrad.Proofs.Solver.Stopping

/-!
# The loop of a run

A run prepares its journal, and then iterates up to the first reason to stop. How many iterations it
has behind it decides what it has counted, which steps it has taken, and what its next test looks
at.
-/

namespace Multigrad.Solver

variable {σ R : Type} [Scalar R] [Completion R]

/-! ### On the way -/

/-- A run comes by an iterate: no test before was a reason to stop. -/
def Plan.Passes (plan : Plan R) (source : OrderSource σ) (journal : Journal σ R)
    (current : Iterate R) (middle : Journal σ R) : Prop :=
  ∃ orders stepSize, source.start journal.orders = .ok orders
    ∧ plan.settings.stepSize.number? = .ok stepSize
    ∧ plan.Reaches source (initialIterate plan.model stepSize)
        (prepared plan.settings plan.model orders journal) current middle

namespace Plan.Passes

variable {plan : Plan R} {source : OrderSource σ} {journal middle after : Journal σ R}
  {current next : Iterate R}

theorem advance (hpasses : plan.Passes source journal current middle)
    (hgoesOn : plan.stop? current middle = .ok none middle)
    (hadvance : plan.advance source current middle = .ok next after) :
    plan.Passes source journal next after := by
  obtain ⟨orders, stepSize, hstart, hstep, hreaches⟩ := hpasses
  exact ⟨orders, stepSize, hstart, hstep, hreaches.advance hgoesOn hadvance⟩

theorem stepBefore (hpasses : plan.Passes source journal current middle) :
    plan.settings.stepBefore current.iterations = .ok current.stepSize := by
  obtain ⟨orders, stepSize, -, hstep, hreaches⟩ := hpasses
  have hfirst : plan.settings.stepBefore (initialIterate plan.model stepSize).iterations
      = .ok (initialIterate plan.model stepSize).stepSize := hstep
  exact hreaches.stepBefore hfirst

/-- Every iteration behind an iterate was tested, and then carried out. -/
theorem before (hpasses : plan.Passes source journal current middle) {k : Nat}
    (hk : k < current.iterations) :
    ∃ earlier mid next after, plan.Passes source journal earlier mid ∧ earlier.iterations = k
      ∧ plan.stop? earlier mid = .ok none mid
      ∧ plan.advance source earlier mid = .ok next after := by
  obtain ⟨orders, stepSize, hstart, hstep, hreaches⟩ := hpasses
  induction hreaches with
  | start => exact (Nat.not_lt_zero k hk).elim
  | @advance earlier next mid after hearlier hgoesOn hadvance ih =>
      have hnext := advance_iterations hadvance
      obtain hlt | rfl := Nat.lt_succ_iff_lt_or_eq.mp (hnext ▸ hk)
      · exact ih hlt
      · exact ⟨earlier, mid, next, after, ⟨orders, stepSize, hstart, hstep, hearlier⟩, rfl, hgoesOn,
          hadvance⟩

section Permuted

variable (hpermutes : source.Permutes journal.orders plan.model.problem.nobj)
  (hfits : journal.counters.Fits plan.model.problem.nobj)

include hpermutes hfits

theorem ready_and_counters (hpasses : plan.Passes source journal current middle) :
    middle.Ready source journal.orders plan.model.problem.nobj
      ∧ middle.counters
        = ((journal.counters.tick .obj).tick .grad).afterPasses current.iterations := by
  obtain ⟨orders, stepSize, hstart, -, hreaches⟩ := hpasses
  exact hreaches.counters hpermutes ⟨.start hstart, (hfits.tick .obj).tick .grad⟩ rfl

theorem total (hpasses : plan.Passes source journal current middle) :
    middle.counters.total
      = journal.counters.total + 2 + current.iterations * plan.model.problem.nobj := by
  rw [(hpasses.ready_and_counters hpermutes hfits).2,
    Counters.total_afterPasses ((hfits.tick .obj).tick .grad), Counters.total_tick,
    Counters.total_tick]

/-- A test looks at nothing but the number of iterations and the step size. -/
theorem stop?_iff (hpasses : plan.Passes source journal current middle)
    {verdict : Option Status} :
    plan.stop? current middle = .ok verdict middle ↔
      plan.settings.stop? (plan.clock current.iterations)
        (journal.counters.total + 2 + current.iterations * plan.model.problem.nobj)
        current.iterations current.stepSize = .ok verdict := by
  rw [stop?_eq_ok, hpasses.total hpermutes hfits]
  exact and_iff_left rfl

theorem verdict (hpasses : plan.Passes source journal current middle) {verdict : Option Status}
    (hstop : plan.stop? current middle = .ok verdict middle) :
    plan.settings.Verdict (testAfter plan.clock journal.counters.total plan.model.problem.nobj
      current.iterations current.stepSize) verdict :=
  Settings.stop?_verdict ((hpasses.stop?_iff hpermutes hfits).mp hstop)

theorem not_stopsAt_of_goesOn (hpasses : plan.Passes source journal current middle)
    (hgoesOn : plan.stop? current middle = .ok none middle) :
    ¬StopsAt plan.settings plan.clock journal.counters.total plan.model.problem.nobj
      current.iterations :=
  Solver.not_stopsAt_of_goesOn hpasses.stepBefore (hpasses.verdict hpermutes hfits hgoesOn)

theorem not_stopsAt (hpasses : plan.Passes source journal current middle) {k : Nat}
    (hk : k < current.iterations) :
    ¬StopsAt plan.settings plan.clock journal.counters.total plan.model.problem.nobj k := by
  obtain ⟨earlier, mid, -, -, hearlier, rfl, hgoesOn, -⟩ := hpasses.before hk
  exact hearlier.not_stopsAt_of_goesOn hpermutes hfits hgoesOn

end Permuted

end Plan.Passes

/-! ### To the end -/

/-- The loop of a run: it comes by its last iterate, and stops there. -/
structure Loop (plan : Plan R) (source : OrderSource σ) (journal : Journal σ R) (last : Iterate R)
    (status : Status) (ending : Journal σ R) : Prop where
  passes : plan.Passes source journal last ending
  stops : plan.stop? last ending = .ok (some status) ending

namespace Plan

variable {plan : Plan R} {source : OrderSource σ} {journal after : Journal σ R}
  {last current : Iterate R} {status : Status} {limit : Nat}

theorem iterations_le
    (hrun : plan.iterate source limit current journal = .ok (last, status) after) :
    last.iterations ≤ current.iterations + limit := by
  induction limit generalizing current journal with
  | zero =>
      obtain ⟨verdict, mid, hverdict, hrest⟩ := Run.bind_eq_ok.mp hrun
      cases verdict with
      | some found =>
          obtain ⟨heq, -⟩ := Run.pure_eq_ok.mp hrest
          obtain ⟨rfl, -⟩ := Prod.mk.inj heq
          exact Nat.le_refl _
      | none => exact (Run.throw_ne_ok hrest).elim
  | succ limit ih =>
      obtain ⟨verdict, mid, hverdict, hrest⟩ := Run.bind_eq_ok.mp hrun
      cases verdict with
      | some found =>
          obtain ⟨heq, -⟩ := Run.pure_eq_ok.mp hrest
          obtain ⟨rfl, -⟩ := Prod.mk.inj heq
          exact Nat.le_add_right _ _
      | none =>
          obtain ⟨next, mid, hadvance, hrest⟩ := Run.bind_eq_ok.mp hrest
          have hle := ih hrest
          rw [advance_iterations hadvance] at hle
          omega

end Plan

variable {source : OrderSource σ} {model : Model R} {settings : Settings R} {clock : Nat → R}
  {patience : Nat} {journal after : Journal σ R} {stats : Stats R}

/-- What a run has to have besides its orders before it comes to its loop. -/
structure Opening (model : Model R) (settings : Settings R) (penalty : Regularizer R) (value : R)
    (slope : List R) : Prop where
  accepted : validate settings = .ok ()
  regularizer : settings.regularizer = .ok penalty
  objective : model.total (Grid.ofList model.problem.x0) = .ok value
  gradient : model.totalGradient (Grid.ofList model.problem.x0) = .ok slope

/-- A run returns when its opening succeeds and its loop ends in time, and reports what it has
there. -/
theorem solve_eq_ok_iff_loop :
    solve source model settings clock patience journal = .ok stats after ↔
      ∃ regularizer objective gradient last status ending,
        Opening model settings regularizer objective gradient
          ∧ Loop ⟨model, settings, regularizer, clock⟩ source journal last status ending
          ∧ last.iterations ≤ settings.horizon?.getD patience
          ∧ Scalar.atMost 0.0 (clock last.iterations) = true
          ∧ stats = report settings last status objective (norm gradient) (clock last.iterations)
              ending.counters
          ∧ after = ending.noted (.finished settings.name last.iterations status
              (clock last.iterations) ending.counters.total) := by
  constructor
  · intro hrun
    obtain ⟨regularizer, orders, objective, gradient,
      ⟨haccepted, hregularizer, hstart, hobjective, hgradient⟩, hplan⟩ := solve_eq_ok.mp hrun
    obtain ⟨stepSize, last, status, ending, hstep, hiterate, hclock, rfl, rfl⟩ :=
      Plan.run_eq_ok.mp hplan
    obtain ⟨hreaches, hstops⟩ := Plan.Reaches.start.iterate_ok hiterate
    have hle := Plan.iterations_le hiterate
    rw [initialIterate, Nat.zero_add] at hle
    exact ⟨regularizer, objective, gradient, last, status, ending,
      ⟨haccepted, hregularizer, hobjective, hgradient⟩,
      ⟨⟨orders, stepSize, hstart, hstep, hreaches⟩, hstops⟩, hle, hclock, rfl, rfl⟩
  · rintro ⟨regularizer, objective, gradient, last, status, ending, hopening,
      ⟨⟨orders, stepSize, hstart, hstep, hreaches⟩, hstops⟩, hle, hclock, rfl, rfl⟩
    have hlimit : last.iterations ≤ (initialIterate model stepSize).iterations
        + settings.horizon?.getD patience := by
      rwa [initialIterate, Nat.zero_add]
    have hiterate := hreaches.iterate_eq_ok hstops hlimit
    refine solve_eq_ok.mpr ⟨regularizer, orders, objective, gradient,
      ⟨hopening.accepted, hopening.regularizer, hstart, hopening.objective, hopening.gradient⟩, ?_⟩
    exact Plan.run_eq_ok.mpr ⟨stepSize, last, status, ending, hstep, hiterate, hclock, rfl, rfl⟩

/-- A run that returns has been through its loop, and reports what it has there. -/
theorem solve_loop (hrun : solve source model settings clock patience journal = .ok stats after) :
    ∃ regularizer last status ending,
      Loop ⟨model, settings, regularizer, clock⟩ source journal last status ending
        ∧ last.iterations ≤ settings.horizon?.getD patience
        ∧ stats.iterations = last.iterations ∧ stats.status = status
        ∧ stats.solverSpecific.get? "final_step_size" = some (Value.ofNumber last.stepSize)
        ∧ after.counters = ending.counters := by
  obtain ⟨regularizer, objective, gradient, last, status, ending, -, hloop, hle, -, rfl, rfl⟩ :=
    solve_eq_ok_iff_loop.mp hrun
  exact ⟨regularizer, last, status, ending, hloop, hle, rfl, rfl, rfl, rfl⟩

end Multigrad.Solver
