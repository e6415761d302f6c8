import Multigrad.Proofs.Counters.Tally
import Multigrad.Proofs.Solver.Course
import Multigrad.Proofs.Solver.Independence

/-!
# Earlier use of a model

Evaluations that a model has counted before a run take their share of a limit on evaluations, and do
nothing else to the run. The share is never all of the limit: a limit of zero would be none, and one
is as good as exceeded by the evaluations at the initial point.
-/

namespace Multigrad

/-! ### Room for evaluations -/

/-- Limits that leave the same room: after as many more evaluations, those at the initial point
included, both are exceeded or neither is. -/
def SameRoom (limit limit' : Int) (count count' : Nat) : Prop :=
  ∀ added : Nat, 0 < limit ∧ limit < count + 2 + added ↔ 0 < limit' ∧ limit' < count' + 2 + added

theorem SameRoom.symm {limit limit' : Int} {count count' : Nat}
    (hroom : SameRoom limit limit' count count') : SameRoom limit' limit count' count :=
  fun added => (hroom added).symm

theorem sameRoom_shifted {limit : Int} (hpos : 0 < limit) (count : Nat) :
    SameRoom limit (max 1 (limit - count)) count 0 := by
  intro added
  omega

theorem sameRoom_unlimited (count count' : Nat) : SameRoom 0 0 count count' := by
  intro added
  omega

/-- Either both are limits or neither is one. -/
theorem SameRoom.pos_iff {limit limit' : Int} {count count' : Nat}
    (hroom : SameRoom limit limit' count count') : 0 < limit ↔ 0 < limit' := by
  have hfar := hroom (max limit limit').toNat
  omega

namespace Settings

variable {R : Type} [Scalar R]

omit [Scalar R] in
def withMaxEval (settings : Settings R) (limit : Int) : Settings R :=
  { settings with maxEval := .int limit }

variable {settings : Settings R} {limit limit' : Int} {count count' : Nat}

theorem exceedsEvaluations_eq_of_room (hroom : SameRoom limit limit' count count') (added : Nat) :
    (settings.withMaxEval limit).exceedsEvaluations (count + 2 + added)
      = (settings.withMaxEval limit').exceedsEvaluations (count' + 2 + added) := by
  have hexceeds (limit : Int) (count : Nat) :
      (settings.withMaxEval limit).exceedsEvaluations count
        = .ok (decide (0 < limit ∧ limit < count)) := by
    rw [Bool.decide_and]
    rfl
  rw [hexceeds, hexceeds]
  exact congrArg Except.ok (decide_eq_decide.mpr (hroom added))

theorem horizon?_eq_of_unlimited (hlimit : ¬0 < limit) (hlimit' : ¬0 < limit') :
    (settings.withMaxEval limit).horizon? = (settings.withMaxEval limit').horizon? := by
  have hless {limit : Int} (hlimit : ¬0 < limit) :
      Number.less (.int 0 : Number R) (.int limit) = false := decide_eq_false hlimit
  have hread (limit : Int) :
      (settings.withMaxEval limit).maxEval.number?.toOption = some (.int limit) := rfl
  rw [horizon?, horizon?, hread, hread]
  simp only [hless hlimit, hless hlimit', Bool.false_eq_true, if_false, withMaxEval]

end Settings

/-- Statistics that agree on everything but the time and the counters. -/
structure Stats.SameResult {R : Type} (stats stats' : Stats R) : Prop where
  solution : stats.solution = stats'.solution
  averagedSolution : stats.averagedSolution = stats'.averagedSolution
  objective : stats.objective = stats'.objective
  gradientNorm : stats.gradientNorm = stats'.gradientNorm
  status : stats.status = stats'.status
  iterations : stats.iterations = stats'.iterations
  solverSpecific : stats.solverSpecific = stats'.solverSpecific

namespace Solver

variable {σ R : Type} [Scalar R] [Completion R]

/-- Both runs return, and with the same result, or neither does. -/
structure SameOutcome (first second : EStateM.Result (Failure R) (Journal σ R) (Stats R)) :
    Prop where
  returns : (∃ stats after, first = .ok stats after) ↔ ∃ stats after, second = .ok stats after
  result : ∀ stats after stats' after', first = .ok stats after → second = .ok stats' after' →
    stats.SameResult stats'

/-- Two runs of a model, within their time: what was counted before them and their limits on
evaluations may differ, but leave the same room. -/
structure SameRuns (source : OrderSource σ) (model : Model R) (settings : Settings R)
    (limit limit' : Int) (clock clock' : Nat → R) (journal journal' : Journal σ R) : Prop where
  room : SameRoom limit limit' journal.counters.total journal'.counters.total
  orders : journal'.orders = journal.orders
  nobj : 0 < model.problem.nobj
  permutes : source.Permutes journal.orders model.problem.nobj
  fits : journal.counters.Fits model.problem.nobj
  fits' : journal'.counters.Fits model.problem.nobj
  time : settings.Timely clock
  time' : settings.Timely clock'

namespace SameRuns

variable {source : OrderSource σ} {model : Model R} {settings : Settings R} {limit limit' : Int}
  {clock clock' : Nat → R} {journal journal' : Journal σ R} {patience : Nat}
  (hsame : SameRuns source model settings limit limit' clock clock' journal journal')

include hsame

omit [Completion R] in
theorem symm : SameRuns source model settings limit' limit clock' clock journal' journal where
  room := hsame.room.symm
  orders := hsame.orders.symm
  nobj := hsame.nobj
  permutes := hsame.orders ▸ hsame.permutes
  fits := hsame.fits'
  fits' := hsame.fits
  time := hsame.time'
  time' := hsame.time

section Loop

variable {regularizer : Regularizer R} {current current' last : Iterate R}
  {middle middle' ending : Journal σ R} {status : Status}

/-- Runs that have come as far have the same verdict there. -/
theorem stop? (hpasses : Plan.Passes ⟨model, settings.withMaxEval limit, regularizer, clock⟩ source
      journal current middle)
    (hpasses' : Plan.Passes ⟨model, settings.withMaxEval limit', regularizer, clock'⟩ source
      journal' current' middle')
    (hiterations : current.iterations = current'.iterations) {verdict : Option Status}
    (hstop : Plan.stop? ⟨model, settings.withMaxEval limit, regularizer, clock⟩ current middle
      = .ok verdict middle) :
    Plan.stop? ⟨model, settings.withMaxEval limit', regularizer, clock'⟩ current' middle'
      = .ok verdict middle' := by
  have hpermutes' : source.Permutes journal'.orders model.problem.nobj :=
    hsame.orders ▸ hsame.permutes
  have hstep : current.stepSize = current'.stepSize := by
    apply Except.ok.inj
    rw [← hpasses.stepBefore, ← hpasses'.stepBefore, hiterations]
    rfl
  have hverdict := (hpasses.stop?_iff hsame.permutes hsame.fits).mp hstop
  rw [hpasses'.stop?_iff hpermutes' hsame.fits', ← hiterations, ← hstep, ← hverdict]
  have htime : (settings.withMaxEval limit).WithinTime clock := hsame.time.within
  have htime' : (settings.withMaxEval limit').WithinTime clock' := hsame.time'.within
  exact (Settings.stop?_congr htime htime' rfl rfl
    (Settings.exceedsEvaluations_eq_of_room hsame.room _) _ _).symm

/-- A loop that ends is one of the other run, too. -/
theorem loop (hloop : Loop ⟨model, settings.withMaxEval limit, regularizer, clock⟩ source journal
      last status ending) :
    ∃ ending', Loop ⟨model, settings.withMaxEval limit', regularizer, clock'⟩ source journal' last
      status ending' := by
  let plan : Plan R := ⟨model, settings.withMaxEval limit, regularizer, clock⟩
  let plan' : Plan R := ⟨model, settings.withMaxEval limit', regularizer, clock'⟩
  obtain ⟨state, stepSize, given, hstart, hstep, hgives, hcourse⟩ := hloop.passes.course
  have hlast : last.iterations = given.length := by
    rw [Plan.course_iterations hcourse, initialIterate, Nat.zero_add]
  have hstart' : source.start journal'.orders = .ok state := hsame.orders ▸ hstart
  have hstep' : plan'.settings.stepSize.number? = .ok stepSize := hstep
  have hcourses : plan.course = plan'.course := Plan.course_congr rfl rfl rfl
  have hcourse' : plan'.course given (initialIterate model stepSize) = .ok last :=
    hcourses ▸ hcourse
  have hgoesOn : ∀ earlier mid, plan'.Passes source journal' earlier mid →
      earlier.iterations < given.length → plan'.stop? earlier mid = .ok none mid := by
    intro earlier mid hearlier hlt
    obtain ⟨found, middle, -, -, hfound, hcount, hgoesOn, -⟩ := hloop.passes.before (hlast ▸ hlt)
    exact hsame.stop? hfound hearlier hcount hgoesOn
  obtain ⟨ending', hpasses', -⟩ := Plan.passes_of_course hstart' hstep' hgives hcourse' hgoesOn
  exact ⟨ending', hpasses', hsame.stop? hloop.passes hpasses' rfl hloop.stops⟩

end Loop

theorem horizon_le {regularizer : Regularizer R} {last : Iterate R} {ending' : Journal σ R}
    {status : Status} [Scalar.LawfulFloor R]
    (hloop' : Loop ⟨model, settings.withMaxEval limit', regularizer, clock'⟩ source journal' last
      status ending')
    (hle : last.iterations ≤ (settings.withMaxEval limit).horizon?.getD patience) :
    last.iterations ≤ (settings.withMaxEval limit').horizon?.getD patience := by
  by_cases hpos : 0 < limit'
  · -- A limit that there is ends the loop in time.
    have hlimited : (settings.withMaxEval limit').Limited :=
      .inr ⟨.int limit', limit', rfl, decide_eq_true hpos, rfl⟩
    obtain ⟨bound, hhorizon, hstops⟩ := hlimited.horizon clock' journal'.counters.total hsame.nobj
    rw [hhorizon, Option.getD_some]
    apply Nat.le_of_not_lt
    intro hlt
    exact hloop'.passes.not_stopsAt (hsame.orders ▸ hsame.permutes) hsame.fits' hlt hstops
  · have hpos' : ¬0 < limit := mt hsame.room.pos_iff.mp hpos
    rwa [← Settings.horizon?_eq_of_unlimited hpos' hpos]

variable [Scalar.LawfulFloor R] {after : Journal σ R} {stats : Stats R}

theorem returns (hrun : solve source model (settings.withMaxEval limit) clock patience journal
      = .ok stats after) :
    ∃ stats' after', solve source model (settings.withMaxEval limit') clock' patience journal'
        = .ok stats' after'
      ∧ stats.SameResult stats' := by
  obtain ⟨regularizer, objective, gradient, last, status, ending, hopening, hloop, hle, -, rfl,
    rfl⟩ := solve_eq_ok_iff_loop.mp hrun
  obtain ⟨ending', hloop'⟩ := hsame.loop hloop
  have hopening' : Opening model (settings.withMaxEval limit') regularizer objective gradient :=
    ⟨hopening.accepted, hopening.regularizer, hopening.objective, hopening.gradient⟩
  have hrun' := solve_eq_ok_iff_loop.mpr ⟨regularizer, objective, gradient, last, status, ending',
    hopening', hloop', hsame.horizon_le hloop' hle, hsame.time'.nonneg _, rfl, rfl⟩
  exact ⟨_, _, hrun', rfl, rfl, rfl, rfl, rfl, rfl, rfl⟩

theorem sameOutcome : SameOutcome
    (solve source model (settings.withMaxEval limit) clock patience journal)
    (solve source model (settings.withMaxEval limit') clock' patience journal') where
  returns := by
    constructor
    · rintro ⟨stats, after, hrun⟩
      obtain ⟨stats', after', hrun', -⟩ := hsame.returns hrun
      exact ⟨stats', after', hrun'⟩
    · rintro ⟨stats', after', hrun'⟩
      obtain ⟨stats, after, hrun, -⟩ := hsame.symm.returns hrun'
      exact ⟨stats, after, hrun⟩
  result := by
    intro stats after stats' after' hrun hrun'
    obtain ⟨found, ending, hfound, hresult⟩ := hsame.returns hrun
    obtain ⟨rfl, -⟩ := EStateM.Result.ok.inj (hfound.symm.trans hrun')
    exact hresult

end SameRuns

variable [Scalar.LawfulFloor R] {source : OrderSource σ} {model : Model R} {settings : Settings R}
  {clock clock' : Nat → R} {journal : Journal σ R} {patience : Nat}

/-- **Earlier use of a model only shifts the limit on its evaluations.** With a limit, a run is one
of the unused model with what is left of the limit, and at least one; without a limit, it does not
matter at all what was counted before. -/
theorem solve_shifts_limit (hnobj : 0 < model.problem.nobj)
    (hpermutes : source.Permutes journal.orders model.problem.nobj)
    (hfits : journal.counters.Fits model.problem.nobj) (htime : settings.Timely clock)
    (htime' : settings.Timely clock') :
    (∀ limit : Int, 0 < limit → SameOutcome
        (solve source model (settings.withMaxEval limit) clock patience journal)
        (solve source model (settings.withMaxEval (max 1 (limit - journal.counters.total))) clock'
          patience { journal with counters := journal.counters.reset }))
      ∧ ∀ counters : Counters, counters.Fits model.problem.nobj → SameOutcome
        (solve source model (settings.withMaxEval 0) clock patience journal)
        (solve source model (settings.withMaxEval 0) clock' patience
          { journal with counters }) := by
  have hruns {limit limit' : Int} {counters : Counters}
      (hroom : SameRoom limit limit' journal.counters.total counters.total)
      (hfits' : counters.Fits model.problem.nobj) :
      SameRuns source model settings limit limit' clock clock' journal { journal with counters } :=
    ⟨hroom, rfl, hnobj, hpermutes, hfits, hfits', htime, htime'⟩
  constructor
  · intro limit hpos
    have htotal : journal.counters.reset.total = 0 := Counters.total_empty _
    have hroom := sameRoom_shifted hpos journal.counters.total
    rw [← htotal] at hroom
    exact (hruns hroom hfits.reset).sameOutcome
  · intro counters hfits'
    exact (hruns (sameRoom_unlimited _ _) hfits').sameOutcome

/-- A journal of the seesaw with three evaluations behind it. -/
def usedBefore : Journal (Orders Float) Float :=
  { unused with counters := { Counters.empty 2 with obj := 1, obji := [0, 2] } }

/-- Three of six evaluations are left, which is room for a single iteration. -/
theorem solve_shifts_limit_seesaw : ∃ stats after,
    solve (Orders.source 2) seesaw (frugal.withMaxEval 3) (fun _ => 0.0) 0
        { usedBefore with counters := usedBefore.counters.reset } = .ok stats after
      ∧ stats.iterations = 1 ∧ stats.status = .maxEval := by
  have hpermutes : (Orders.source 2).Permutes usedBefore.orders 2 := permutes_unused
  have hnobj : 0 < seesaw.problem.nobj := by decide
  have hfits : usedBefore.counters.Fits 2 := ⟨rfl, fun counter => by cases counter <;> rfl⟩
  have hless : Number.less (.real (60.0 : Float)) (.real 0.0) = false := by decide +kernel
  have hclock : Scalar.atMost (0.0 : Float) 0.0 = true := by decide +kernel
  have htime : frugal.Timely fun _ => 0.0 :=
    ⟨⟨.real 60.0, rfl, fun _ => hless⟩, fun _ => hclock⟩
  have hreturns : Run.read? (fun stats => (stats.iterations, stats.status))
      (solve (Orders.source 2) seesaw (frugal.withMaxEval 6) (fun _ => 0.0) 0) usedBefore =
        some (1, .maxEval) := by decide +kernel
  obtain ⟨first, ending, hrun, hread⟩ := Run.exists_ok_of_read? hreturns
  obtain ⟨hiterations, hstatus⟩ := Prod.mk.inj hread
  have hshifts : SameOutcome
      (solve (Orders.source 2) seesaw (frugal.withMaxEval 6) (fun _ => 0.0) 0 usedBefore)
      (solve (Orders.source 2) seesaw (frugal.withMaxEval 3) (fun _ => 0.0) 0
        { usedBefore with counters := usedBefore.counters.reset }) :=
    (solve_shifts_limit hnobj hpermutes hfits htime htime).1 6 (by decide)
  obtain ⟨stats, after, hreturned⟩ := hshifts.returns.mp ⟨first, ending, hrun⟩
  have hsame := hshifts.result _ _ _ _ hrun hreturned
  exact ⟨stats, after, hreturned, hsame.iterations ▸ hiterations, hsame.status ▸ hstatus⟩

end Solver

end Multigrad
