import Multigrad.Proofs.Scalar.Exact
import Multigrad.Proofs.Solver.Descent
import Multigrad.Proofs.Solver.Independence

/-!
# Other orders

Where the gradients are the same everywhere and nothing is regularized, the moves of an iteration do
not depend on the points that they start from, so it comes to the same point in whatever order they
are made. No test looks at an order either. Runs over different orders therefore stay abreast: they
are at the same point after every iteration, though not within one, and stop at the same one.
-/

namespace Multigrad

/-- The same settings with other orders: from another generator, or from another seed. -/
def Settings.withOrders {R : Type} (settings : Settings R) (seed rng : Value R) : Settings R :=
  { settings with seed, rng }

/-- Statistics that agree on everything but the averaged solution and the time. -/
structure Stats.SameButAverage {R : Type} (stats stats' : Stats R) : Prop where
  solution : stats.solution = stats'.solution
  objective : stats.objective = stats'.objective
  gradientNorm : stats.gradientNorm = stats'.gradientNorm
  status : stats.status = stats'.status
  iterations : stats.iterations = stats'.iterations
  counters : stats.counters = stats'.counters
  solverSpecific : stats.solverSpecific = stats'.solverSpecific

namespace Solver

variable {σ σ' : Type}

/-- Two runs of a model that has counted the same before both of them. They have their own orders
of all objectives, and never run out of time. -/
structure Reordered {R : Type} [Scalar R] (source : OrderSource σ) (source' : OrderSource σ')
    (model : Model R) (settings : Settings R) (clock clock' : Nat → R) (journal : Journal σ R)
    (journal' : Journal σ' R) : Prop where
  counters : journal'.counters = journal.counters
  fits : journal.counters.Fits model.problem.nobj
  serves : source.Serves journal.orders
  serves' : source'.Serves journal'.orders
  permutes : source.Permutes journal.orders model.problem.nobj
  permutes' : source'.Permutes journal'.orders model.problem.nobj
  time : settings.Timely clock
  time' : settings.Timely clock'

namespace Reordered

variable {R : Type} [Scalar R] {source : OrderSource σ} {source' : OrderSource σ'} {model : Model R}
  {settings : Settings R} {clock clock' : Nat → R} {journal : Journal σ R} {journal' : Journal σ' R}
  (hreordered : Reordered source source' model settings clock clock' journal journal')

include hreordered

theorem symm (seed rng : Value R) : Reordered source' source model (settings.withOrders seed rng)
    clock' clock journal' journal where
  counters := hreordered.counters.symm
  fits := hreordered.counters ▸ hreordered.fits
  serves := hreordered.serves'
  serves' := hreordered.serves
  permutes := hreordered.permutes'
  permutes' := hreordered.permutes
  time := ⟨hreordered.time'.within, hreordered.time'.nonneg⟩
  time' := ⟨hreordered.time.within, hreordered.time.nonneg⟩

theorem alike (seed rng : Value R) : Alike source source' model model settings
    (settings.withOrders seed rng) clock clock' journal journal' where
  control := ⟨rfl, rfl, rfl, rfl, rfl, rfl, rfl⟩
  nobj := rfl
  count := congrArg Counters.total hreordered.counters.symm
  permutes := hreordered.permutes
  permutes' := hreordered.permutes'
  fits := hreordered.fits
  fits' := hreordered.counters ▸ hreordered.fits
  time := hreordered.time.within
  time' := hreordered.time'.within

end Reordered

/-- Iterates of `n` variables that differ in nothing but their averages. -/
structure Iterate.Abreast {R : Type} (n : Nat) (current current' : Iterate R) : Prop where
  iterations : current'.iterations = current.iterations
  stepSize : current'.stepSize = current.stepSize
  point : current'.point = current.point
  sized : current.Sized n
  sized' : current'.Sized n

/-! ### One iteration -/

section Slopes

variable [Completion Rat] {source : OrderSource σ} {source' : OrderSource σ'}
  {slopes : List (List Rat)}

/-- The same plan with other orders and another clock. -/
def Plan.withOrders (plan : Plan Rat) (seed rng : Value Rat) (clock : Nat → Rat) : Plan Rat :=
  { plan with settings := plan.settings.withOrders seed rng, clock }

section Loop

variable {plan : Plan Rat} {current current' next last : Iterate Rat}
  {journal middle after ending : Journal σ Rat} {journal' middle' : Journal σ' Rat}
  {status : Status}

theorem Plan.advance_abreast (hslopes : plan.model.Slopes slopes)
    (halpha : plan.settings.alpha.real? = .ok 0)
    (habreast : current.Abreast plan.model.problem.nvar current')
    (hadvance : plan.advance source current middle = .ok next after)
    (hperm : ∀ order orders, source.next middle.orders = .ok (order, orders) →
      order.Perm (objectives plan.model.problem.nobj))
    {order' : List Int} {orders' : σ'}
    (hdraw' : source'.next middle'.orders = .ok (order', orders'))
    (hperm' : order'.Perm (objectives plan.model.problem.nobj)) (seed rng : Value Rat)
    (clock' : Nat → Rat) :
    ∃ next' after', (plan.withOrders seed rng clock').advance source' current' middle'
        = .ok next' after'
      ∧ next.Abreast plan.model.problem.nvar next' := by
  obtain ⟨stepSize, _, _, _, _, _, hnext, -, -, hiterate, -⟩ := advance_eq_ok.mp hadvance
  obtain ⟨g, hg⟩ := stepSize.exists_toReal
  obtain ⟨hsized, hpoint⟩ :=
    point_of_advance hslopes halpha habreast.sized hadvance hnext hg hperm
  have hnext' : (plan.withOrders seed rng clock').settings.nextStep current'.iterations
      current'.stepSize = .ok stepSize := by
    rw [habreast.iterations, habreast.stepSize]
    exact hnext
  have hslopes' : (plan.withOrders seed rng clock').model.Slopes slopes := hslopes
  obtain ⟨next', after', hadvance', hsized', hpoint'⟩ :=
    advance_of_slopes hslopes' halpha habreast.sized' hnext' hg hdraw' hperm'
  obtain ⟨stepSize', _, _, _, _, _, htaken, -, -, hiterate', -⟩ := advance_eq_ok.mp hadvance'
  obtain rfl := Except.ok.inj (hnext'.symm.trans htaken)
  refine ⟨next', after', hadvance', ?_, ?_, ?_, hsized, hsized'⟩
  · rw [hiterate', hiterate, habreast.iterations]
  · rw [hiterate', hiterate]
  · rw [hpoint', hpoint, habreast.point]
    rfl

/-! ### Many iterations -/

variable {clock' : Nat → Rat} (hslopes : plan.model.Slopes slopes)
  (hx0 : plan.model.problem.x0.length = plan.model.problem.nvar)
  (halpha : plan.settings.alpha.real? = .ok 0)
  (hreordered :
    Reordered source source' plan.model plan.settings plan.clock clock' journal journal')
  (seed rng : Value Rat)

include hreordered

omit [Completion Rat] in
theorem Reordered.alikePlans : Alike source source' plan.model
    (plan.withOrders seed rng clock').model plan.settings
    (plan.withOrders seed rng clock').settings plan.clock (plan.withOrders seed rng clock').clock
    journal journal' := hreordered.alike seed rng

theorem Reordered.stop? (hpasses : plan.Passes source journal current middle)
    (hpasses' : (plan.withOrders seed rng clock').Passes source' journal' current' middle')
    (habreast : current.Abreast plan.model.problem.nvar current') {verdict : Option Status}
    (hstop : plan.stop? current middle = .ok verdict middle) :
    (plan.withOrders seed rng clock').stop? current' middle' = .ok verdict middle' := by
  have halike := hreordered.alikePlans seed rng
  rw [hpasses'.stop?_iff halike.permutes' halike.fits', habreast.iterations, habreast.stepSize,
    ← halike.stop?_eq]
  exact (hpasses.stop?_iff halike.permutes halike.fits).mp hstop

include hslopes hx0 halpha

/-- Wherever a run comes by, the other one comes abreast of it. -/
theorem Reordered.passes (hpasses : plan.Passes source journal current middle) :
    ∃ current' middle',
      (plan.withOrders seed rng clock').Passes source' journal' current' middle'
        ∧ current.Abreast plan.model.problem.nvar current' := by
  obtain ⟨orders, stepSize, hstart, hstep, hreaches⟩ := hpasses
  induction hreaches with
  | start =>
      obtain ⟨orders', hstart'⟩ := hreordered.serves'.start
      exact ⟨initialIterate plan.model stepSize, _, ⟨orders', stepSize, hstart', hstep, .start⟩,
        rfl, rfl, rfl, ⟨hx0, hx0⟩, ⟨hx0, hx0⟩⟩
  | @advance earlier next mid after hearlier hgoesOn hadvance ih =>
      obtain ⟨earlier', mid', hearlier', habreast⟩ := ih
      have hbefore : plan.Passes source journal earlier mid :=
        ⟨orders, stepSize, hstart, hstep, hearlier⟩
      have halike := hreordered.alikePlans seed rng
      have hready := (hbefore.ready_and_counters halike.permutes halike.fits).1
      have hready' := (hearlier'.ready_and_counters halike.permutes' halike.fits').1
      obtain ⟨order', drawn', hdraw'⟩ := hreordered.serves'.next _ hready'.orders
      have hperm' := hreordered.permutes' _ hready'.orders _ _ hdraw'
      obtain ⟨next', after', hadvance', hnext⟩ := Plan.advance_abreast hslopes halpha habreast
        hadvance (hreordered.permutes _ hready.orders) hdraw' hperm' seed rng clock'
      have hgoesOn' := hreordered.stop? seed rng hbefore hearlier' habreast hgoesOn
      exact ⟨next', after', hearlier'.advance hgoesOn' hadvance', hnext⟩

theorem Reordered.loop (hloop : Loop plan source journal last status ending) :
    ∃ last' ending', Loop (plan.withOrders seed rng clock') source' journal' last' status ending'
      ∧ last.Abreast plan.model.problem.nvar last' := by
  obtain ⟨last', ending', hpasses', habreast⟩ :=
    hreordered.passes hslopes hx0 halpha seed rng hloop.passes
  have hstops' := hreordered.stop? seed rng hloop.passes hpasses' habreast hloop.stops
  exact ⟨last', ending', ⟨hpasses', hstops'⟩, habreast⟩

end Loop

/-! ### Runs -/

section Run

variable {model : Model Rat} {settings : Settings Rat} {clock clock' : Nat → Rat} {patience : Nat}
  {journal after : Journal σ Rat} {journal' : Journal σ' Rat} {stats : Stats Rat}
  (hslopes : model.Slopes slopes) (hx0 : model.problem.x0.length = model.problem.nvar)
  (halpha : settings.alpha.real? = .ok 0)
  (hreordered : Reordered source source' model settings clock clock' journal journal')

include hreordered

include hslopes hx0 halpha in
theorem Reordered.returns (seed rng : Value Rat)
    (hrun : solve source model settings clock patience journal = .ok stats after) :
    ∃ stats' after', solve source' model (settings.withOrders seed rng) clock' patience journal'
        = .ok stats' after'
      ∧ stats.SameButAverage stats' ∧ after.counters = after'.counters := by
  obtain ⟨regularizer, objective, gradient, last, status, ending, hopening, hloop, hle, -, rfl,
    rfl⟩ := solve_eq_ok_iff_loop.mp hrun
  let plan : Plan Rat := ⟨model, settings, regularizer, clock⟩
  have hplan : Reordered source source' plan.model plan.settings plan.clock clock' journal
    journal' := hreordered
  obtain ⟨last', ending', hloop', habreast⟩ := hplan.loop hslopes hx0 halpha seed rng hloop
  have hopening' : Opening model (settings.withOrders seed rng) regularizer objective gradient :=
    ⟨hopening.accepted, hopening.regularizer, hopening.objective, hopening.gradient⟩
  have hle' : last'.iterations ≤ (settings.withOrders seed rng).horizon?.getD patience :=
    habreast.iterations ▸ hle
  have hrun' := solve_eq_ok_iff_loop.mpr ⟨regularizer, objective, gradient, last', status, ending',
    hopening', hloop', hle', hreordered.time'.nonneg _, rfl, rfl⟩
  -- What a run has counted depends on its iterations alone.
  have hcounters := (hloop.passes.ready_and_counters hreordered.permutes hreordered.fits).2
  have hcounters' := (hloop'.passes.ready_and_counters hreordered.permutes'
    (hreordered.counters ▸ hreordered.fits)).2
  rw [habreast.iterations, hreordered.counters, ← hcounters] at hcounters'
  refine ⟨_, _, hrun', ⟨habreast.point.symm, rfl, rfl, rfl, habreast.iterations.symm, ?_, ?_⟩,
    hcounters'.symm⟩
  · exact congrArg Counters.toFields hcounters'.symm
  · simp only [report, habreast.stepSize, Settings.withOrders]

include hslopes hx0 halpha in
/-- **Runs over constant gradients do not depend on the orders.** Without regularization, a run and
one with other orders both return or neither does, and they agree on everything but the averaged
solution and the time. Both return where the settings limit them, and where the model and the steps
of the schedule can be evaluated. -/
theorem solve_order_independent (seed rng : Value Rat) :
    ((∃ stats after, solve source model settings clock patience journal = .ok stats after) ↔
        ∃ stats' after', solve source' model (settings.withOrders seed rng) clock' patience journal'
          = .ok stats' after')
      ∧ (∀ stats after stats' after',
        solve source model settings clock patience journal = .ok stats after →
        solve source' model (settings.withOrders seed rng) clock' patience journal'
          = .ok stats' after' →
        stats.SameButAverage stats' ∧ after.counters = after'.counters)
      ∧ (model.Answers → 0 < model.problem.nobj → settings.Valid → (∀ k, settings.Steps k) →
        settings.Limited →
        ∃ stats after, solve source model settings clock patience journal = .ok stats after) := by
  refine ⟨⟨?_, ?_⟩, ?_, ?_⟩
  · rintro ⟨stats, after, hrun⟩
    obtain ⟨stats', after', hrun', -⟩ := hreordered.returns hslopes hx0 halpha seed rng hrun
    exact ⟨stats', after', hrun'⟩
  · rintro ⟨stats', after', hrun'⟩
    have hsettings : (settings.withOrders seed rng).withOrders settings.seed settings.rng
        = settings := rfl
    have halpha' : (settings.withOrders seed rng).alpha.real? = .ok 0 := halpha
    obtain ⟨stats, after, hrun, -⟩ := (hreordered.symm seed rng).returns hslopes hx0 halpha'
      settings.seed settings.rng hrun'
    rw [hsettings] at hrun
    exact ⟨stats, after, hrun⟩
  · intro stats after stats' after' hrun hrun'
    obtain ⟨found, ending, hfound, hsame⟩ := hreordered.returns hslopes hx0 halpha seed rng hrun
    obtain ⟨rfl, rfl⟩ := EStateM.Result.ok.inj (hfound.symm.trans hrun')
    exact hsame
  · intro hanswers hnobj hvalid hsteps hlimited
    have hundisturbed : Undisturbed source model journal :=
      ⟨hanswers, hreordered.serves, hreordered.permutes, hreordered.fits⟩
    exact solve_returns_of_limited hnobj hundisturbed hvalid hsteps hlimited hreordered.time.nonneg

end Run

end Slopes

section Lopsided

attribute [local instance] standIn

/-- Steps of one half, in a single iteration. -/
def halvingOnce : Settings Rat := { halving with maxIter := .int 0 }

/-- From zero, one order comes by a half and the other one by one, and both come to three halves. -/
theorem solve_order_independent_lopsided : ∃ stats after stats' after',
    solve (Orders.source 2) lopsided halvingOnce (fun _ => 0) 0 (unvisited [0, 1]) = .ok stats after
      ∧ solve (Orders.source 2) lopsided (halvingOnce.withOrders .null .null) (fun _ => 0) 0
        (unvisited [1, 0]) = .ok stats' after'
      ∧ stats.SameButAverage stats' ∧ stats.solution = [3 / 2] ∧ stats.averagedSolution = [1] := by
  have hslopes : lopsided.Slopes [[1], [2]] := slopes_tilted false [1, 2] [2, 1]
  have hwithin : Number.less (.real (60.0 : Rat)) (.real 0) = false := by decide +kernel
  have hclock : Scalar.atMost (0.0 : Rat) 0 = true := by decide +kernel
  have htime : halvingOnce.Timely fun _ => 0 :=
    ⟨⟨.real 60.0, rfl, fun _ => hwithin⟩, fun _ => hclock⟩
  have hreordered : Reordered (Orders.source 2) (Orders.source 2) lopsided halvingOnce (fun _ => 0)
      (fun _ => 0) (unvisited [0, 1]) (unvisited [1, 0]) :=
    { counters := rfl
      fits := Counters.fits_empty 2
      serves := Orders.serves_listed (by decide) 2 0
      serves' := Orders.serves_listed (by decide) 2 0
      permutes := Orders.permutes_listed (by decide)
      permutes' := Orders.permutes_listed (by decide)
      time := htime
      time' := htime }
  have hreturns : Run.read? (fun stats => (stats.solution, stats.averagedSolution))
      (solve (Orders.source 2) lopsided halvingOnce (fun _ => 0) 0) (unvisited [0, 1]) =
        some ([3 / 2], [1]) := by decide +kernel
  obtain ⟨stats, after, hrun, hread⟩ := Run.exists_ok_of_read? hreturns
  obtain ⟨hsolution, haverage⟩ := Prod.mk.inj hread
  obtain ⟨hreturn, hagree, -⟩ := solve_order_independent hslopes rfl rfl hreordered .null .null
  obtain ⟨stats', after', hrun'⟩ := hreturn.mp ⟨stats, after, hrun⟩
  have hsame := (hagree _ _ _ _ hrun hrun').1
  exact ⟨stats, after, stats', after', hrun, hrun', hsame, hsolution, haverage⟩

end Lopsided

end Solver

end Multigrad
